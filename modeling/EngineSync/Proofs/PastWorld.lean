import EngineSync.Proofs.Barriers
import EngineSync.Proofs.PastCalls

/-!
# Worlds behind a past

A call that gets a chance in a world behind a past goes as far as it goes without the past, and so
does one that is given up.
-/
namespace EngineSync

namespace Shift
variable (s : Shift)

def activationAt (activation : Activation) : Activation :=
  { activation with
    session := s.session + activation.session
    gate := s.gate + activation.gate
    collection := s.collection + activation.collection
    owner := ⟨s.handles activation.owner.held⟩ }

def listenerStage : ListenerStage → ListenerStage
  | .arriving => .arriving
  | .forwarding forwarding => .forwarding (s.forwarding forwarding)
  | .routing call => .routing (s.route call)

def listenerCall : ListenerCall → ListenerCall
  | .activation id stage => .activation (s.activation + id) (s.listenerStage stage)
  | .outside call => .outside (s.outside + call)

def activateStage : ActivateStage → ActivateStage
  | .arriving => .arriving
  | .configuring collection session settings ticket =>
    .configuring (s.collection + collection) (s.session + session) settings (s.ticket + ticket)
  | .replaying id settings replay => .replaying (s.activation + id) settings (s.replay replay)

def publishStage : PublishStage → PublishStage
  | .arriving event => .arriving event
  | .delivering ⟨event, current, waiting⟩ =>
    .delivering ⟨event, current.map s.listenerCall, waiting.map s.subscription⟩

def call : Call → Call
  | .activate name stage => .activate name (s.activateStage stage)
  | .publish stage => .publish (s.publishStage stage)
  | .sync id call => .sync (s.activation + id) (s.syncCall call)

def request : WorldRequest → WorldRequest
  | .activate name => .activate name
  | .publish event => .publish event
  | .sync id request => .sync (s.activation + id) request

def move : WorldMove → WorldMove
  | .grant ticket => .grant (s.ticket + ticket)
  | .unlisten number => .unlisten (s.number number)
  | .answer call result => .answer (s.outside + call) result
  | move => move

/-- A name with the number of its activation. -/
def entry (entry : String × ActivationId) : String × ActivationId :=
  (entry.1, s.activation + entry.2)

end Shift

theorem World.length_putSync (world : World) (id : ActivationId) (sync : Sync) :
    (world.putSync id sync).activations.length = world.activations.length :=
  List.length_set ..

/-- Whatever calls do, others have answered what they had answered, and the language is the same. -/
structure World.Hosted (world world' : World) : Prop where
  answers : world'.outsideAnswers = world.outsideAnswers
  language : world'.language = world.language

/-- Whatever a listener does, no activation is new. -/
structure World.Stays (world world' : World) : Prop extends World.Hosted world world' where
  length : world'.activations.length = world.activations.length

theorem World.Stays.trans {world between after : World} (h : world.Stays between)
    (h' : between.Stays after) : world.Stays after :=
  ⟨⟨h'.answers.trans h.answers, h'.language.trans h.language⟩, h'.length.trans h.length⟩

theorem World.stays_pollForwarding (world : World) (id : ActivationId) (forwarding : Forwarding) :
    world.Stays (world.pollForwarding id forwarding).1 := by
  unfold World.pollForwarding
  rcases (world.sync id).poll forwarding with ⟨sync, next | failure | taken⟩
  · exact ⟨⟨rfl, rfl⟩, world.length_putSync id sync⟩
  · exact ⟨⟨rfl, rfl⟩, world.length_putSync id sync⟩
  · dsimp only [World.concludeForwarding]
    split <;> exact ⟨⟨rfl, rfl⟩, world.length_putSync id sync⟩

theorem World.stays_listenerHop {world world' : World} {event : Event} {call : ListenerCall}
    {notes : List WorldNote} {progress : Progress ListenerCall (Except EngineFailure Unit)}
    (hop : World.ListenerHop event world call notes world' progress) : world.Stays world' := by
  cases hop with
  | pass | take | route | answered => exact ⟨⟨rfl, rfl⟩, rfl⟩
  | forward id forwarding => exact world.stays_pollForwarding id forwarding

theorem World.stays_pollListener (world : World) (event : Event) (call : ListenerCall) :
    world.Stays (world.pollListener event call).1 :=
  (World.listener_hops world event call).carries (fun after _ => world.Stays after)
    (fun before hop => before.trans (World.stays_listenerHop hop)) ⟨⟨rfl, rfl⟩, rfl⟩

theorem World.stays_startListener (world : World) (listener : Listener) :
    world.Stays (world.startListener listener).1 := by
  cases listener <;> exact ⟨⟨rfl, rfl⟩, rfl⟩

theorem World.hosted_drop (world : World) (name : String) : world.Hosted (world.drop name) := by
  unfold World.drop
  cases world.live? name <;> exact ⟨rfl, rfl⟩

theorem World.hosted_hop {world world' : World} {call : Call} {notes : List WorldNote}
    {progress : Progress Call CallResult} (hop : World.Hop world call notes world' progress) :
    world.Hosted world' := by
  cases hop with
  | @ready _ id settings replay sync count polled =>
    have dropped := ((world.putSync id sync).readied id settings replay.total).hosted_drop
    exact ⟨(dropped _).answers, (dropped _).language⟩
  | call event next waiting => exact (world.stays_startListener next.listener).toHosted
  | listen hop => exact (World.stays_listenerHop hop).toHosted
  | _ => exact ⟨rfl, rfl⟩

theorem World.hosted_cancel (world : World) (call : Call) : world.Hosted (world.cancel call) := by
  match call with
  | .activate name .arriving | .publish (.arriving event)
  | .activate name (.configuring collection session settings ticket)
  | .activate name (.replaying id settings replay)
  | .publish (.delivering ⟨event, none, waiting⟩)
  | .publish (.delivering ⟨event, some (.outside number), waiting⟩)
  | .publish (.delivering ⟨event, some (.activation id .arriving), waiting⟩)
  | .publish (.delivering ⟨event, some (.activation id (.forwarding forwarding)), waiting⟩)
  | .publish (.delivering ⟨event, some (.activation id (.routing route)), waiting⟩)
  | .sync id call => exact ⟨rfl, rfl⟩

/-- What the surroundings do leaves the language as it is, and more answers may come. -/
theorem World.hosted_surround (world : World) (move : WorldMove) :
    world.outsideAnswers <+: (world.surround move).outsideAnswers ∧
      (world.surround move).language = world.language := by
  cases move with
  | answer call result => exact ⟨List.prefix_append _ _, rfl⟩
  | deactivate name =>
    simp only [World.surround, World.deactivate]
    cases world.live? name <;> exact ⟨List.prefix_refl _, rfl⟩
  | drop name =>
    exact ⟨(world.hosted_drop name).answers ▸ List.prefix_refl _, (world.hosted_drop name).language⟩
  | unlisten number =>
    simp only [World.surround]
    split <;> exact ⟨List.prefix_refl _, rfl⟩
  | disposeSession name =>
    simp only [World.surround]
    cases world.live? name <;> exact ⟨List.prefix_refl _, rfl⟩
  | route name change =>
    simp only [World.surround]
    cases world.live? name with
    | none => exact ⟨List.prefix_refl _, rfl⟩
    | some id =>
      simp only [World.routeNow]
      split <;> exact ⟨List.prefix_refl _, rfl⟩
  | _ => exact ⟨List.prefix_refl _, rfl⟩

theorem World.startListener_activation? (world : World) (listener : Listener) :
    (world.startListener listener).2.activation? = listener.activation? := by
  cases listener <;> rfl

namespace Past
variable (p : Past)

/-- The world with a past. -/
def world (world : World) : World where
  env := p.environment world.env
  language := world.language
  modulePath := world.modulePath
  activations := p.activations ++ world.activations.map p.shift.activationAt
  live := world.live.map p.shift.entry
  outsideCalls := p.shift.outside + world.outsideCalls
  outsideAnswers := p.answers world.outsideAnswers

section World
variable (world : World) {id : ActivationId}

theorem world_length :
    (p.world world).activations.length = p.shift.activation + world.activations.length := by
  simp [Past.world, Past.shift]

theorem world_log (journal : Journal) :
    (p.world world).log journal = p.world (world.log journal) :=
  congrArg (fun env => { p.world world with env }) (p.env_log world.env journal)

theorem world_activation (lt : id < world.activations.length) :
    (p.world world).activation (p.shift.activation + id) =
      p.shift.activationAt (world.activation id) := by
  have same := getElem?_behind p.activations world.activations p.shift.activationAt id
  rw [World.activation, show (p.world world).activations[p.shift.activation + id]? = _ from same,
    World.activation, List.getElem?_eq_getElem lt]
  rfl

theorem world_setActivation (id : ActivationId) (activation : Activation) :
    (p.world world).setActivation (p.shift.activation + id) (p.shift.activationAt activation) =
      p.world (world.setActivation id activation) :=
  congrArg (fun activations => { p.world world with activations })
    (set_behind p.activations world.activations p.shift.activationAt id activation)

theorem world_sync (lt : id < world.activations.length) :
    (p.world world).sync (p.shift.activation + id) = p.sync (world.sync id) := by
  rw [World.sync, p.world_activation world lt]
  rfl

theorem world_putSync (lt : id < world.activations.length) (sync : Sync) :
    (p.world world).putSync (p.shift.activation + id) (p.sync sync) =
      p.world (world.putSync id sync) := by
  rw [World.putSync, p.world_activation world lt]
  exact p.world_setActivation
    { world with env := { world.env with engine := sync.engine, journal := sync.journal } } id
    { world.activation id with lanes := sync.lanes }

theorem world_setBarrier (lt : id < world.activations.length) (barrier : Barrier) :
    (p.world world).setBarrier (p.shift.activation + id) barrier =
      p.world (world.setBarrier id barrier) := by
  rw [World.setBarrier, p.world_activation world lt]
  exact p.world_setActivation world id { world.activation id with barrier }

/-! ## The end of an activation -/

theorem world_teardown (lt : id < world.activations.length) :
    (p.world world).teardown (p.shift.activation + id) =
      (world.teardown id).map p.world fun released => released := by
  unfold World.teardown
  rw [p.world_activation world lt]
  dsimp only
  rw [show Environment.disposeAll (p.world world).env
    (p.shift.activationAt (world.activation id)).owner = _ from
    p.env_disposeAll world.env (world.activation id).owner]
  exact congrArg (·, _) (p.world_setActivation
    { world with env := (world.env.disposeAll (world.activation id).owner).1 } id
    { world.activation id with owner := .empty })

theorem world_abandon (lt : id < world.activations.length) :
    (p.world world).abandon (p.shift.activation + id) = p.world (world.abandon id) := by
  unfold World.abandon
  rw [p.world_setBarrier world lt, p.world_teardown _ (by rwa [World.Sound.length_setBarrier])]
  rfl

theorem world_live? (name : String) :
    (p.world world).live? name = (world.live? name).map (p.shift.activation + ·) := by
  unfold World.live?
  rw [show (p.world world).live = world.live.map p.shift.entry from rfl]
  induction world.live with
  | nil => rfl
  | cons entry rest ih =>
    rw [List.map_cons, List.lookup_cons, List.lookup_cons, ih]
    rw [show (p.shift.entry entry).1 = entry.1 from rfl]
    cases name == entry.1 <;> rfl

theorem enlist (name : String) (id : ActivationId) (live : List (String × ActivationId)) :
    live.map p.shift.entry ++ [(name, p.shift.activation + id)] =
      (live ++ [(name, id)]).map p.shift.entry := by
  simp [Shift.entry]

theorem filter_entry (name : String) (live : List (String × ActivationId)) :
    (live.map p.shift.entry).filter (·.1 ≠ name) =
      (live.filter (·.1 ≠ name)).map p.shift.entry :=
  List.filter_map

variable (alive : ∀ name id, world.live? name = some id → id < world.activations.length)
include alive

theorem world_drop (name : String) :
    (p.world world).drop name = p.world (world.drop name) := by
  unfold World.drop
  rw [p.world_live?]
  cases found : world.live? name with
  | none => rfl
  | some id =>
    dsimp only [Option.map_some]
    rw [p.world_teardown world (alive name id found)]
    exact congrArg (fun live => { p.world (world.teardown id).1 with live })
      (p.filter_entry name world.live)

theorem world_deactivate (name : String) :
    (p.world world).deactivate name = p.world (world.deactivate name) := by
  unfold World.deactivate
  rw [p.world_live?]
  cases found : world.live? name with
  | none => rfl
  | some id =>
    dsimp only [Option.map_some]
    rw [p.world_teardown world (alive name id found), ← p.world_log]
    exact congrArg (fun live => World.log { p.world (world.teardown id).1 with live } _)
      (p.filter_entry name world.live)

end World

/-! ## Activating -/

section Activating
variable (world : World) (name : String) {id : ActivationId} (settings : Settings)

theorem world_readied (total : Nat) (lt : id < world.activations.length) :
    (p.world world).readied (p.shift.activation + id) settings total =
      p.world (world.readied id settings total) := by
  have lt' : id < (world.setBarrier id .open).activations.length := by
    rwa [World.Sound.length_setBarrier]
  unfold World.readied
  rw [p.world_setBarrier world lt]
  dsimp only
  rw [p.world_activation _ lt', p.world_log,
    show (p.shift.activationAt _).owner.size = _ from List.length_map _]
  rfl

theorem world_finishActivate (total : Nat)
    (alive : ∀ name id, world.live? name = some id → id < world.activations.length)
    (lt : id < world.activations.length) :
    (p.world world).finishActivate name (p.shift.activation + id) settings total =
      p.world (world.finishActivate name id settings total) := by
  have finishes (world : World) (id : ActivationId) :
      world.finishActivate name id settings total =
        { (world.readied id settings total).drop name with
          live := ((world.readied id settings total).drop name).live ++ [(name, id)] } := rfl
  have length := World.Sound.length_setBarrier world id .open
  rw [finishes, finishes, p.world_readied world settings total lt,
    p.world_drop (world.readied id settings total) fun name id found =>
      length.symm ▸ alive name id found]
  exact congrArg (fun live => { p.world ((world.readied id settings total).drop name) with live })
    (p.enlist name id _)

variable (replay : Replay)

/-- Open documents on their way, up to what follows when the last has arrived. -/
theorem world_pollReplaying
    (alive : ∀ name id, world.live? name = some id → id < world.activations.length)
    (lt : id < world.activations.length) :
    (p.world world).pollReplaying name (p.shift.activation + id) settings (p.shift.replay replay) =
      (world.pollReplaying name id settings replay).map p.world
        (Progress.map p.shift.call fun result => result) := by
  unfold World.pollReplaying
  rw [p.world_sync world lt, p.pollReplay]
  rcases (world.sync id).pollReplay replay with ⟨sync, next | failure | count⟩ <;>
    dsimp only [Prod.map_apply, Progress.map] <;> rw [p.world_putSync world lt]
  · rfl
  · rw [p.world_abandon _ (by rwa [World.length_putSync])]
  · dsimp only [Shift.replay]
    rw [p.world_finishActivate _ _ _ _ _ (by rwa [World.length_putSync])]
    rw [World.length_putSync]
    exact alive

theorem register (env : Environment) (language : String) (session : SessionId)
    (collection : CollectionId) (formatting : Bool) :
    Activation.register (p.environment env) language (p.shift.session + session)
        (p.shift.collection + collection) formatting =
      (Activation.register env language session collection formatting).map p.environment
        p.shift.activationAt := by
  have first (env : Environment) := p.env_addHandle env "session" (.session session)
  have second (env : Environment) := p.env_addHandle env "diagnostics" (.diagnostics collection)
  dsimp only [Shift.release] at first second
  simp only [Activation.register, first, second, p.env_registerAlwaysOn, p.env_makeGate,
    p.env_setEnabled, p.env_addGateHandle, Prod.map_fst, Prod.map_snd, Prod.map_apply,
    Shift.activationAt, Shift.handles, List.cons_append, List.map_cons, List.map_append,
    List.map_nil]

theorem install {env : Environment} (tidy : env.Tidy) (fits : p.shift.seats ≤ env.bus.nextId)
    (language : String) (id : ActivationId) (session : SessionId) (collection : CollectionId)
    (formatting : Bool) :
    Activation.install (p.environment env) language (p.shift.activation + id)
        (p.shift.session + session) (p.shift.collection + collection) formatting =
      (Activation.install env language id session collection formatting).map p.environment
        p.shift.activationAt := by
  have seats : p.shift.seats ≤
      (Activation.register env language session collection formatting).1.bus.nextId := by
    rwa [Activation.register_bus language session collection formatting tidy]
  have subscribes := p.env_subscribeAll
    (Activation.register env language session collection formatting).1 seats (.activation id)
    EventKind.all
  dsimp only [Shift.listener] at subscribes
  simp only [Activation.install, p.register, subscribes, Prod.map_fst, Prod.map_snd, Prod.map_apply]
  simp [Shift.activationAt, Shift.handles, Disposables.extend]

theorem world_welcome (tidy : world.env.Tidy) (fits : p.shift.seats ≤ world.env.bus.nextId)
    (session : SessionId) (collection : CollectionId) :
    (p.world world).welcome (p.shift.collection + collection) (p.shift.session + session) settings =
      p.world (world.welcome collection session settings) := by
  have installs := p.install tidy fits world.language world.activations.length session collection
    settings.formatting
  unfold World.welcome
  rw [p.world_length,
    show Activation.install (p.world world).env (p.world world).language _ _ _ _ = _ from installs]
  simp [Past.world]

theorem world_startReplay (keeps : ∀ docs, p.documents docs = docs)
    (alive : ∀ name id, world.live? name = some id → id < world.activations.length)
    (tidy : world.env.Tidy) (fits : p.shift.seats ≤ world.env.bus.nextId)
    (session : SessionId) (collection : CollectionId) :
    (p.world world).startReplay name (p.shift.collection + collection) (p.shift.session + session)
        settings =
      (world.startReplay name collection session settings).map p.world
        (Progress.map p.shift.call fun result => result) := by
  have starts (world : World) (collection : CollectionId) (session : SessionId) :
      world.startReplay name collection session settings =
        (world.welcome collection session settings).pollReplaying name world.activations.length
          settings (.start (world.welcome collection session settings).env.openDocuments) := rfl
  have length : (world.welcome collection session settings).activations.length =
      world.activations.length + 1 := by
    simp [World.welcome]
  rw [starts, starts, p.world_welcome world settings tidy fits, p.world_length]
  rw [show (p.world (world.welcome collection session settings)).env.openDocuments = _ from keeps _]
  refine p.world_pollReplaying _ name settings (.start _) (fun name id found => ?_) ?_
  · rw [length]
    exact Nat.lt_succ_of_lt (alive name id found)
  · rw [length]
    exact Nat.lt_succ_self _

theorem world_pollConfiguring (keeps : ∀ docs, p.documents docs = docs)
    (alive : ∀ name id, world.live? name = some id → id < world.activations.length)
    (tidy : world.env.Tidy) (fits : p.shift.seats ≤ world.env.bus.nextId)
    (collection : CollectionId) (session : SessionId) (ticket : TicketId) :
    (p.world world).pollConfiguring name (p.shift.collection + collection)
        (p.shift.session + session) settings (p.shift.ticket + ticket) =
      (world.pollConfiguring name collection session settings ticket).map p.world
        (Progress.map p.shift.call fun result => result) := by
  unfold World.pollConfiguring
  rw [show (p.world world).env.collectProfile? _ _ = _ from
    p.env_collectProfile? world.env settings.profile ticket]
  cases collected : world.env.collectProfile? settings.profile ticket with
  | none => rfl
  | some outcome =>
    rcases outcome with ⟨env, answer⟩
    dsimp only [Option.map_some, Prod.map_apply]
    rw [p.env_concludeBootstrap]
    have edits : Environment.Edits .plain world.env env :=
      Environment.collectProfile?_edits collected
    cases answer with
    | error failure => rfl
    | ok =>
      exact p.world_startReplay { world with env } name settings keeps alive
        (Environment.Edits.tidy edits tidy)
        (Nat.le_trans fits (Environment.Edits.evolves edits).nextId) session collection

theorem world_startActivate (keeps : ∀ docs, p.documents docs = docs)
    (alive : ∀ name id, world.live? name = some id → id < world.activations.length)
    (tidy : world.env.Tidy) (fits : p.shift.seats ≤ world.env.bus.nextId) :
    (p.world world).startActivate name =
      (world.startActivate name).map p.world (Progress.map p.shift.call fun result => result) := by
  have prepared : (p.world world).prepared = p.environment world.prepared := by
    rw [World.prepared,
      show (p.world world).env.makeCollection = _ from p.env_makeCollection world.env]
    exact congrArg Prod.fst (p.env_snapshot world.env.makeCollection.1)
  have collection : (p.world world).env.collections.length =
      p.shift.collection + world.env.collections.length :=
    List.length_append
  have settings : (p.world world).env.snapshot.2 = world.env.snapshot.2 := rfl
  have opens := p.env_openSession world.prepared world.modulePath
    (some world.env.collections.length)
  rw [Option.map_some] at opens
  rw [World.startActivate_eq, World.startActivate_eq, prepared, collection, settings,
    show (p.world world).modulePath = world.modulePath from rfl, opens]
  rcases opened : world.prepared.openSession world.modulePath (some world.env.collections.length)
    with ⟨env, failure | session⟩
  · rfl
  · dsimp only [Prod.map_apply, Except.map]
    rw [p.env_applyProfile]
    rcases applied : env.applyProfile session world.env.snapshot.2.profile with
      ⟨env', failure | ticket⟩
    · dsimp only [Prod.map_apply, Except.map]
      rw [p.env_concludeBootstrap]
      rfl
    · have edits := World.began_edits opened applied
      exact p.world_pollConfiguring { world with env := env' } name world.env.snapshot.2 keeps alive
        (Environment.Edits.tidy edits tidy)
        (Nat.le_trans fits (Environment.Edits.evolves edits).nextId) _ session ticket

theorem world_pollActivate (keeps : ∀ docs, p.documents docs = docs)
    (alive : ∀ name id, world.live? name = some id → id < world.activations.length)
    (tidy : world.env.Tidy) (fits : p.shift.seats ≤ world.env.bus.nextId) (stage : ActivateStage)
    (ids : ∀ id ∈ (Call.activate name stage).ids, id < world.activations.length) :
    (p.world world).pollActivate name (p.shift.activateStage stage) =
      (world.pollActivate name stage).map p.world
        (Progress.map p.shift.call fun result => result) := by
  cases stage with
  | arriving => exact p.world_startActivate world name keeps alive tidy fits
  | configuring collection session settings ticket =>
    exact p.world_pollConfiguring world name settings keeps alive tidy fits collection session
      ticket
  | replaying id settings replay =>
    exact p.world_pollReplaying world name settings replay alive (ids id List.mem_cons_self)

end Activating

/-! ## Publishing -/

section Publishing
variable (world : World) {id : ActivationId} (event : Event)

theorem world_concludeForwarding (lt : id < world.activations.length) (forwarding : Forwarding)
    (result : ForwardingResult) :
    (p.world world).concludeForwarding (p.shift.activation + id) (p.shift.forwarding forwarding)
        result =
      (world.concludeForwarding id forwarding result).map p.world fun answer => answer := by
  cases result with
  | error failure => rfl
  | ok taken =>
    unfold World.concludeForwarding
    rw [p.world_activation world lt]
    dsimp only
    rw [show (p.shift.forwarding forwarding).closes = forwarding.closes from rfl]
    split
    · exact congrArg (fun env => ({ p.world world with env }, _))
        (p.env_clearDiagnostics world.env (world.activation id).collection forwarding.doc.uri)
    · rfl

theorem world_pollForwarding (lt : id < world.activations.length) (forwarding : Forwarding) :
    (p.world world).pollForwarding (p.shift.activation + id) (p.shift.forwarding forwarding) =
      (world.pollForwarding id forwarding).map p.world
        (Progress.map p.shift.listenerCall fun answer => answer) := by
  unfold World.pollForwarding
  rw [p.world_sync world lt, p.sync_poll]
  rcases (world.sync id).poll forwarding with ⟨sync, next | result⟩ <;>
    dsimp only [Prod.map_apply, Progress.map] <;> rw [p.world_putSync world lt]
  · rfl
  · rw [p.world_concludeForwarding _ (by rwa [World.length_putSync])]
    rfl

theorem world_pollRouting (lt : id < world.activations.length) (route : RouteCall) :
    (p.world world).pollRouting (p.shift.activation + id) (p.shift.route route) =
      (world.pollRouting id route).map p.world
        (Progress.map p.shift.listenerCall fun answer => answer) := by
  have polled := p.router_poll world.env (world.activation id).router route
  unfold World.pollRouting
  rw [p.world_activation world lt,
    show (p.shift.activationAt (world.activation id)).router =
      p.shift.router (world.activation id).router from rfl,
    show Router.poll _ (p.world world).env _ = _ from polled]
  rcases (world.activation id).router.poll world.env route with ⟨env, next | result⟩ <;> rfl

theorem world_handle (lt : id < world.activations.length) :
    (p.world world).handle (p.shift.activation + id) event =
      (world.handle id event).map p.world
        (Progress.map p.shift.listenerCall fun answer => answer) := by
  cases event with
  | opened doc | changed doc => exact p.world_pollForwarding world lt (.update doc)
  | closed doc => exact p.world_pollForwarding world lt (.close doc)
  | configuration change => exact p.world_pollRouting world lt (.arriving change)

/-- What others answer is the same behind a past. -/
def Hears (world : World) : Prop :=
  ∀ call, (p.answers world.outsideAnswers).lookup (p.shift.outside + call) =
    world.outsideAnswers.lookup call

omit event in
variable {p world} in
theorem Hears.stays {world' : World} (h : p.Hears world) (stays : world.Stays world') :
    p.Hears world' := by
  unfold Hears
  rw [stays.answers]
  exact h

theorem world_pollListener (hears : p.Hears world) (call : ListenerCall)
    (lt : ∀ id ∈ call.activation?, id < world.activations.length) :
    (p.world world).pollListener event (p.shift.listenerCall call) =
      (world.pollListener event call).map p.world
        (Progress.map p.shift.listenerCall fun answer => answer) := by
  match call with
  | .activation id .arriving =>
    have lt : id < world.activations.length := lt id rfl
    simp only [Shift.listenerCall, Shift.listenerStage, World.pollListener,
      p.world_activation world lt]
    rw [show (p.shift.activationAt (world.activation id)).barrier =
      (world.activation id).barrier from rfl]
    cases (world.activation id).barrier with
    | replaying => rfl
    | «open» => exact p.world_handle world event lt
    | abandoned => rfl
  | .activation id (.forwarding forwarding) =>
    exact p.world_pollForwarding world (lt id rfl) forwarding
  | .activation id (.routing route) => exact p.world_pollRouting world (lt id rfl) route
  | .outside number =>
    simp only [Shift.listenerCall, World.pollListener]
    rw [show (p.world world).outsideAnswers.lookup _ = _ from hears number]
    cases world.outsideAnswers.lookup number <;> rfl

theorem world_startListener (listener : Listener) :
    (p.world world).startListener (p.shift.listener listener) =
      (world.startListener listener).map p.world p.shift.listenerCall := by
  cases listener <;> rfl

theorem world_deliver (hears : p.Hears world) (waiting : List (Subscription Listener))
    (lt : ∀ id ∈ audience waiting, id < world.activations.length) :
    (p.world world).deliver event (waiting.map p.shift.subscription) =
      (world.deliver event waiting).map p.world
        (Progress.map p.shift.call fun result => result) := by
  induction waiting generalizing world with
  | nil => rfl
  | cons next waiting ih =>
    have starts := world.stays_startListener next.listener
    have polls := starts.trans ((world.startListener next.listener).1.stays_pollListener event
      (world.startListener next.listener).2)
    have own (id : ActivationId) (hid : id ∈ next.listener.activation?) :
        id < world.activations.length :=
      lt id (List.mem_filterMap.mpr ⟨next, List.mem_cons_self, hid⟩)
    have later (id : ActivationId) (hid : id ∈ audience waiting) : id < world.activations.length :=
      lt id (((List.sublist_cons_self next waiting).filterMap _).subset hid)
    -- whether the next listener is through is the same in both worlds, and so who comes after
    have polled := p.world_pollListener (world.startListener next.listener).1 event
      (hears.stays starts) (world.startListener next.listener).2 (by
        rw [starts.length, World.startListener_activation?]
        exact own)
    simp only [List.map_cons, World.deliver]
    rw [show (p.shift.subscription next).listener = p.shift.listener next.listener from rfl,
      p.world_startListener]
    simp only [Prod.map_fst, Prod.map_snd, polled]
    revert polls
    rcases (world.startListener next.listener).1.pollListener event
      (world.startListener next.listener).2 with ⟨after, next' | failure | ⟨⟩⟩ <;> intro polls
    · rfl
    · rfl
    · refine ih after (hears.stays polls) ?_
      rwa [polls.length]

theorem world_pollPublish (hears : p.Hears world) (stage : PublishStage)
    (listen : ∀ kind, ∀ id ∈ audience (world.env.bus.subscribers kind),
      id < world.activations.length)
    (lt : ∀ id ∈ (Call.publish stage).ids, id < world.activations.length) :
    (p.world world).pollPublish (p.shift.publishStage stage) =
      (world.pollPublish stage).map p.world
        (Progress.map p.shift.call fun result => result) := by
  match stage with
  | .arriving event =>
    have noted := p.world_deliver (world.log [.publishEvent event.kind.name
      (world.env.bus.subscribers event.kind).length]) event hears
      (world.env.bus.subscribers event.kind) (listen event.kind)
    simp only [Shift.publishStage, World.pollPublish]
    rw [show (p.world world).env.bus.subscribers event.kind = _ from
      p.bus_subscribers world.env.bus event.kind, List.length_map, p.world_log]
    exact noted
  | .delivering ⟨event, none, waiting⟩ => exact p.world_deliver world event hears waiting lt
  | .delivering ⟨event, some call, waiting⟩ =>
    have own : ∀ id ∈ call.activation?, id < world.activations.length := fun id hid =>
      lt id (List.mem_append_left _ (by simpa using hid))
    have stays := world.stays_pollListener event call
    simp only [Shift.publishStage, World.pollPublish, Option.map_some,
      p.world_pollListener world event hears call own]
    revert stays
    rcases world.pollListener event call with ⟨after, next | failure | ⟨⟩⟩ <;> intro stays
    · rfl
    · rfl
    · refine p.world_deliver after event (hears.stays stays) waiting ?_
      rw [stays.length]
      exact fun id hid => lt id (List.mem_append_right _ hid)

end Publishing

/-! ## Calls -/

section Calls
variable (world : World) {calls : List Call} {id : ActivationId}

/-- **A chance behind a past**: a call goes as far as it goes without the past.  Only who activates
looks at the open documents. -/
theorem world_poll (hears : p.Hears world) (fits : p.shift.seats ≤ world.env.bus.nextId)
    (call : Call) (keeps : ∀ name stage, call = .activate name stage →
      ∀ docs, p.documents docs = docs) (sound : World.Sound world (call :: calls)) :
    (p.world world).poll (p.shift.call call) =
      (world.poll call).map p.world (Progress.map p.shift.call fun result => result) := by
  have lt (id : ActivationId) (hid : id ∈ call.ids) : id < world.activations.length :=
    sound.lt_of_ids hid
  cases call with
  | activate name stage =>
    exact p.world_pollActivate world name (keeps name stage rfl)
      (fun _ _ found => sound.live_lt found) sound.tidy fits stage lt
  | publish stage => exact p.world_pollPublish world hears stage sound.orderly.audience_lt lt
  | sync id call =>
    have lt := lt id List.mem_cons_self
    simp only [Shift.call, World.poll, p.world_sync world lt, p.pollCall]
    rcases (world.sync id).pollCall call with ⟨sync, next | result⟩ <;>
      dsimp only [Prod.map_apply] <;> rw [p.world_putSync world lt] <;> rfl

theorem world_cancel (call : Call) (sound : World.Sound world (call :: calls)) :
    (p.world world).cancel (p.shift.call call) = p.world (world.cancel call) := by
  have lt (id : ActivationId) (hid : id ∈ call.ids) : id < world.activations.length :=
    sound.lt_of_ids hid
  match call with
  | .activate name .arriving | .publish (.arriving event)
  | .publish (.delivering ⟨event, none, waiting⟩)
  | .publish (.delivering ⟨event, some (.outside number), waiting⟩)
  | .publish (.delivering ⟨event, some (.activation id .arriving), waiting⟩) => rfl
  | .activate name (.configuring collection session settings ticket) =>
    exact congrArg (fun engine => { p.world world with env := { (p.world world).env with engine } })
      (p.engine_cancel world.env.engine ticket)
  | .activate name (.replaying id settings replay) =>
    have lt := lt id List.mem_cons_self
    simp only [Shift.call, Shift.activateStage, World.cancel, p.world_sync world lt, p.cancelReplay,
      p.world_putSync world lt]
    exact p.world_abandon _ (by rwa [World.length_putSync])
  | .publish (.delivering ⟨event, some (.activation id (.forwarding forwarding)), waiting⟩) =>
    have lt := lt id List.mem_cons_self
    simp only [Shift.call, Shift.publishStage, Option.map_some, Shift.listenerCall,
      Shift.listenerStage, World.cancel, World.cancelListener, p.world_sync world lt, p.sync_cancel,
      p.world_putSync world lt]
  | .publish (.delivering ⟨event, some (.activation id (.routing route)), waiting⟩) =>
    exact congrArg (fun env => { p.world world with env }) (p.router_cancel world.env route)
  | .sync id call =>
    have lt := lt id List.mem_cons_self
    simp only [Shift.call, World.cancel, p.world_sync world lt, p.cancelCall,
      p.world_putSync world lt]

/-! ## Requests and moves -/

theorem world_isLive (id : ActivationId) :
    (p.world world).isLive (p.shift.activation + id) = world.isLive id := by
  simp [World.isLive, Past.world, List.any_map, Function.comp_def, Shift.entry]

theorem world_accept (request : WorldRequest) :
    (p.world world).accept (p.shift.request request) =
      (world.accept request).map p.shift.call := by
  cases request with
  | activate name | publish event => rfl
  | sync id request =>
    simp only [Shift.request, World.accept, p.world_isLive]
    split
    · cases request <;> rfl
    · rfl

theorem world_isOutside (number : SubscriptionId) :
    (p.world world).isOutside (p.shift.number number) = world.isOutside number := by
  simp only [World.isOutside, Past.world, Past.environment, Past.bus, List.all_map]
  refine congrArg (fun test => List.all _ test) (funext fun sub => ?_)
  rcases sub with ⟨id, kind, _ | _⟩
  · simp [Shift.subscription, Shift.listener, p.shift.number_injective.eq_iff]
  · rfl

theorem world_routeNow (lt : id < world.activations.length) (change : ConfigChange) :
    (p.world world).routeNow (p.shift.activation + id) change =
      (world.routeNow id change).map p.world fun result => result := by
  have polled : (p.shift.router (world.activation id).router).poll (p.environment world.env)
      (.arriving change) = _ :=
    p.router_poll world.env (world.activation id).router (.arriving change)
  unfold World.routeNow
  rw [p.world_activation world lt,
    show (p.shift.activationAt (world.activation id)).router =
      p.shift.router (world.activation id).router from rfl,
    show Router.poll _ (p.world world).env _ = _ from polled]
  rcases (world.activation id).router.poll world.env (.arriving change) with ⟨env, next | result⟩
  · exact congrArg (fun env => ({ p.world world with env }, none)) (p.router_cancel env next)
  · rfl

/-- Whether a past makes no difference to a move: reports do not reach a session of the past, and
answers from outside and open documents read as they should. -/
def Admits (world : World) : WorldMove → Prop
  | .report .. => world.env.engine.sessions = [] → p.sessions = []
  | .answer call result => p.answers (world.outsideAnswers ++ [(call, result)]) =
    p.answers world.outsideAnswers ++ [(p.shift.outside + call, result)]
  | .documents docs => p.documents docs = docs
  | _ => True

theorem world_surround (fits : p.shift.seats ≤ world.env.bus.nextId)
    (sound : World.Sound world calls) (move : WorldMove) (admits : p.Admits world move) :
    (p.world world).surround (p.shift.move move) = p.world (world.surround move) := by
  cases move with
  | release key =>
    exact congrArg (fun engine => { p.world world with env := { (p.world world).env with engine } })
      (p.engine_release world.env.engine key)
  | grant ticket =>
    exact congrArg (fun engine => { p.world world with env := { (p.world world).env with engine } })
      (p.engine_grant world.env.engine ticket)
  | refuse refusals | files files | source source => rfl
  | documents docs =>
    exact congrArg (fun openDocuments =>
      { p.world world with env := { (p.world world).env with openDocuments } }) admits.symm
  | report uri version diagnostics =>
    exact congrArg (fun env => { p.world world with env })
      (p.env_publishDiagnostics world.env admits uri version diagnostics)
  | listen kind number =>
    exact congrArg (fun outcome : Environment × HandleId => { p.world world with env := outcome.1 })
      (p.env_subscribe world.env fits kind (.outside number))
  | unlisten number =>
    simp only [Shift.move, World.surround, p.world_isOutside]
    split
    · exact congrArg (fun bus => { p.world world with env := { (p.world world).env with bus } })
        (p.bus_unsubscribe world.env.bus number)
    · rfl
  | answer call result =>
    exact congrArg (fun outsideAnswers => { p.world world with outsideAnswers }) admits.symm
  | deactivate name => exact p.world_deactivate world (fun _ _ found => sound.live_lt found) name
  | drop name => exact p.world_drop world (fun _ _ found => sound.live_lt found) name
  | disposeSession name =>
    simp only [Shift.move, World.surround, p.world_live?]
    cases found : world.live? name with
    | none => rfl
    | some id =>
      simp only [Option.map_some, p.world_activation world (sound.live_lt found)]
      exact congrArg (fun outcome : Environment × Bool => { p.world world with env := outcome.1 })
        (p.env_disposeSession world.env (world.activation id).session)
  | route name change =>
    simp only [Shift.move, World.surround, p.world_live?]
    cases found : world.live? name with
    | none => rfl
    | some id =>
      simp only [Option.map_some, p.world_routeNow world (sound.live_lt found)]
      rfl

end Calls
end Past
end EngineSync
