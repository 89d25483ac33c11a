import EngineSync.Proofs.Bystanders
import EngineSync.Proofs.Stock

/-!
# Accounts of a world

In every world that can be reached, everything that is registered belongs to some activation, or it
was there from the start, or somebody outside has brought it.  Most of what calls and surroundings
do leaves registrations alone; the rest is one of four things: a gate is set, an activation is torn
down, a newcomer registers, or somebody outside comes or goes.
-/
namespace EngineSync

namespace Environment
variable {env env' : Environment} {base : List ProviderKind} {cores : List Activation}

/-! ## What leaves registrations alone -/

theorem shelf_openSession (env : Environment) (path : String) (sink : Option CollectionId) :
    Shelf env (env.openSession path sink).1 := by
  unfold openSession
  split
  · exact .refl env
  · split
    · exact .refl env
    · split
      · exact .of_eq rfl rfl rfl rfl
      · exact .of_eq rfl rfl rfl rfl

theorem shelf_disposeSession (env : Environment) (session : SessionId) :
    Shelf env (env.disposeSession session).1 :=
  .of_eq rfl rfl rfl rfl

theorem shelf_collectProfile? {profile : Profile} {ticket : TicketId}
    {answer : Except EngineFailure Unit}
    (collected : env.collectProfile? profile ticket = some (env', answer)) : Shelf env env' := by
  obtain ⟨⟨engine, answer'⟩, -, same⟩ := Option.map_eq_some_iff.mp collected
  cases same
  exact .of_eq rfl rfl rfl rfl

theorem shelf_pollApplying (env : Environment) (profile : Profile) (ticket : TicketId) :
    Shelf env (Router.pollApplying env profile ticket).1 := by
  unfold Router.pollApplying
  cases collected : env.collectProfile? profile ticket with
  | none => exact .refl env
  | some outcome => exact shelf_collectProfile? collected

theorem shelf_routeProfile (router : Router) (env : Environment) :
    Shelf env (router.routeProfile env).1 := by
  unfold Router.routeProfile
  dsimp only
  have reads : Shelf env (Environment.applyProfile (env.profile.1.log
      [.routeProfile ConfigChange.profileKey env.profile.2]) router.session env.profile.2).1 :=
    .of_eq rfl rfl rfl rfl
  split
  · rename_i applied
    rw [applied] at reads
    exact reads
  · rename_i applied
    rw [applied] at reads
    exact reads.trans (shelf_pollApplying _ _ _)

theorem shelf_cancelRoute (env : Environment) (call : RouteCall) :
    Shelf env (Router.cancel env call) := by
  cases call with
  | arriving change => exact .refl env
  | applying profile ticket => exact .of_eq rfl rfl rfl rfl

theorem shelf_publishDiagnostics (env : Environment) (uri : Uri) (version : Option Int)
    (diagnostics : List Diagnostic) : Shelf env (env.publishDiagnostics uri version diagnostics) := by
  unfold publishDiagnostics
  cases env.engine.newestSink <;> exact .of_eq rfl rfl rfl rfl

/-- Somebody outside subscribes. -/
theorem shelf_subscribe (env : Environment) (kind : EventKind) (number : Nat) :
    Shelf env (env.subscribe kind (.outside number)).1 where
  handles handle release found := by
    have added := Handles.release?_extend
      [⟨kind.subscriptionLabel, some (.subscription env.bus.nextId)⟩]
      (Handles.lt_of_release? found)
    exact added.trans found
  gates := rfl
  subscriptions id := by
    simp [subscriptionsOf, subscribe, addHandle, EventBus.subscribe]
  ledger := rfl

/-! ## Changes of the configuration -/

/-- A change of the configuration sets the gate, or it leaves registrations alone. -/
theorem Stock.routes {id : ActivationId} {core : Activation} (h : env.Stock base cores)
    (apart_gates : (cores.map (·.gate)).Nodup) (own : cores[id]? = some core)
    (lt : core.gate < env.gates.length) {router : Router} (gate : router.gate = core.gate)
    (call : RouteCall) : (router.poll env call).1.Stock base cores := by
  cases call with
  | applying profile ticket => exact h.shelf (shelf_pollApplying env profile ticket)
  | arriving change =>
    simp only [Router.poll, Router.route]
    split
    · exact h.shelf (shelf_routeProfile router env)
    · split
      · unfold Router.routeFormatting
        dsimp only
        have reads : Shelf env (env.formatting.1.log
            [.routeFormatting ConfigChange.formattingKey env.formatting.2]) :=
          .of_eq rfl rfl rfl rfl
        rw [gate]
        refine (h.shelf reads).setEnabled apart_gates own ?_ env.formatting.2
        rw [reads.gates]
        exact lt
      · exact h.shelf (.of_eq rfl rfl rfl rfl)

end Environment

namespace World

theorem shelf_forwarding (world : World) (id : ActivationId) (forwarding : Forwarding) :
    Environment.Shelf world.env (world.pollForwarding id forwarding).1.env := by
  unfold World.pollForwarding
  rcases (world.sync id).poll forwarding with ⟨sync, call | failure | taken⟩
  · exact .of_eq rfl rfl rfl rfl
  · exact .of_eq rfl rfl rfl rfl
  · dsimp only [World.concludeForwarding]
    split <;> exact .of_eq rfl rfl rfl rfl

/-- Everything that is registered is accounted for. -/
def Square (base : List ProviderKind) (world : World) : Prop :=
  world.env.Stock base world.cores

namespace Square
variable {base : List ProviderKind} {world world' : World} {call : Call} {calls : List Call}
  {id : ActivationId} {name : String} {settings : Settings} {replay : Replay} {total : Nat}
  {notes : List WorldNote} {progress : Progress Call CallResult}

/-- Registrations are left alone, and activations change in their lanes and barriers only. -/
theorem shelf (h : world.Square base) (same : Environment.Shelf world.env world'.env)
    (cores : world'.cores = world.cores) : world'.Square base := by
  unfold Square
  rw [cores]
  exact Environment.Stock.shelf h same

theorem log (h : world.Square base) (journal : Journal) : (world.log journal).Square base :=
  h.shelf (.of_eq rfl rfl rfl rfl) rfl

theorem putSync (h : world.Square base) (id : ActivationId) (sync : Sync) :
    (world.putSync id sync).Square base :=
  h.shelf (.of_eq rfl rfl rfl rfl) (Sound.cores_set world id rfl)

theorem setBarrier (h : world.Square base) (id : ActivationId) (barrier : Barrier) :
    (world.setBarrier id barrier).Square base :=
  h.shelf (.refl _) (Sound.cores_setBarrier world id barrier)

/-- A step of work that leaves registrations alone. -/
theorem works (h : world.Square base) (works : Works id world world')
    (same : Environment.Shelf world.env world'.env) : world'.Square base :=
  h.shelf same (Sound.cores_works works)

/-! ## The end of an activation -/

theorem cores_teardown (world : World) (id : ActivationId) : (world.teardown id).1.cores =
    world.cores.set id (world.activation id).core.released := by
  show List.map _ (List.set _ _ _) = _
  rw [List.map_set]
  rfl

theorem teardown (h : world.Square base) (sound : Sound world calls)
    (lt : id < world.activations.length) (holds : (world.activation id).owner.held ≠ []) :
    (world.teardown id).1.Square base := by
  unfold Square
  rw [cores_teardown]
  exact Environment.Stock.teardown h sound.owned (Sound.core_eq lt) holds

theorem drop (h : world.Square base) (sound : Sound world calls) (name : String) :
    (world.drop name).Square base := by
  unfold World.drop
  cases found : world.live? name with
  | none => exact h
  | some id =>
    have holds := (sound.orderly.live _ (Sound.lookup_mem found)).2
    exact h.teardown sound (sound.live_lt found) holds

theorem deactivate (h : world.Square base) (sound : Sound world calls) (name : String) :
    (world.deactivate name).Square base := by
  unfold World.deactivate
  cases found : world.live? name with
  | none => exact h
  | some id =>
    have holds := (sound.orderly.live _ (Sound.lookup_mem found)).2
    exact (h.teardown sound (sound.live_lt found) holds).shelf (.of_eq rfl rfl rfl rfl) rfl

theorem abandon (h : world.Square base)
    (sound : Sound world (.activate name (.replaying id settings replay) :: calls)) :
    (world.abandon id).Square base := by
  have holds := (sound.orderly.replaying id List.mem_cons_self).2
  obtain ⟨moved, lt, own⟩ := sound.abandoning
  exact (h.setBarrier id .abandoned).teardown moved lt (by rw [own]; exact holds)

theorem finishActivate (h : world.Square base)
    (sound : Sound world (.activate name (.replaying id settings replay) :: calls)) :
    (world.finishActivate name id settings total).Square base := by
  have ready : (world.readied id settings total).Square base := (h.setBarrier id .open).log _
  exact ready.drop (sound.readied total) name

/-! ## Steps -/

theorem welcome (h : world.Square base) (sound : Sound world calls) (collection : CollectionId)
    (session : SessionId) (settings : Settings) :
    (world.welcome collection session settings).Square base := by
  have length : world.cores.length = world.activations.length := List.length_map _
  have installed := Environment.Stock.welcome h sound.owned world.language session collection
    settings.formatting
  rw [length] at installed
  have cores : (world.welcome collection session settings).cores = world.cores ++
      [(Activation.install world.env world.language world.activations.length session collection
        settings.formatting).2] := List.map_append
  unfold Square
  rw [cores]
  exact installed

theorem routes (h : world.Square base) (sound : Sound world calls)
    (lt : id < world.activations.length) (call : RouteCall) :
    ((world.activation id).router.poll world.env call).1.Stock base world.cores :=
  Environment.Stock.routes h sound.owned.gates (Sound.core_eq lt) (sound.within lt).gate rfl call

theorem pollForwarding (h : world.Square base) (id : ActivationId) (forwarding : Forwarding) :
    (world.pollForwarding id forwarding).1.Square base :=
  h.works (works_forwarding world id forwarding) (shelf_forwarding world id forwarding)

theorem listens {event : Event} {listener : ListenerCall} {waiting : List (Subscription Listener)}
    {progress : Progress ListenerCall (Except EngineFailure Unit)} (h : world.Square base)
    (sound : Sound world (.publish (.delivering ⟨event, some listener, waiting⟩) :: calls))
    (hop : ListenerHop event world listener notes world' progress) : world'.Square base := by
  cases hop with
  | pass | take | answered => exact h
  | forward id forwarding => exact h.pollForwarding id forwarding
  | route id route =>
    have lt : id < world.activations.length := sound.lt_of_ids List.mem_cons_self
    exact h.routes sound lt route

/-- **Every step squares the accounts.** -/
theorem hop (h : world.Square base) (sound : Sound world (call :: calls))
    (hop : Hop world call notes world' progress) : world'.Square base := by
  cases hop with
  | refused opened =>
    refine h.shelf ?_ rfl
    have opens := Environment.shelf_openSession world.prepared world.modulePath
      (some world.env.collections.length)
    rw [opened] at opens
    have prepares : Environment.Shelf world.env world.prepared := .of_eq rfl rfl rfl rfl
    exact prepares.trans opens
  | began opened applied =>
    obtain ⟨-, -, size, granted, permits, journal, rfl⟩ := began_eq opened applied
    exact h.shelf (.of_eq rfl rfl rfl rfl) rfl
  | rejected collected =>
    refine h.shelf ?_ rfl
    exact (Environment.shelf_collectProfile? collected).trans
      (Environment.shelf_disposeSession _ _)
  | @subscribed name collection session settings ticket env collected =>
    have ready : World.Square base { world with env } :=
      h.shelf (Environment.shelf_collectProfile? collected) rfl
    exact ready.welcome (sound.collects collected) collection session settings
  | replay polled => exact h.putSync _ _
  | @ready name id settings replay sync count polled =>
    have lt : id < world.activations.length := sound.lt_of_ids List.mem_cons_self
    exact (h.putSync id sync).finishActivate (sound.works lt (works_pollReplay polled))
  | @failed name id settings replay sync failure polled =>
    have lt : id < world.activations.length := sound.lt_of_ids List.mem_cons_self
    exact (h.putSync id sync).abandon (sound.works lt (works_pollReplay polled))
  | publish event => exact h.log _
  | call event next waiting =>
    unfold startListener
    cases next.listener with
    | activation id => exact h
    | outside number => exact h.shelf (.refl _) rfl
  | listen hop => exact h.listens sound hop
  | finish event => exact h
  | sync id call => exact h.putSync id _

theorem cancels (h : world.Square base) (sound : Sound world (call :: calls)) :
    (world.cancel call).Square base := by
  match call with
  | .activate name .arriving => exact h
  | .activate name (.configuring collection session settings ticket) =>
    exact h.shelf (.of_eq rfl rfl rfl rfl) rfl
  | .activate name (.replaying id settings replay) =>
    have lt : id < world.activations.length := sound.lt_of_ids List.mem_cons_self
    exact (h.putSync id _).abandon (sound.works lt (works_cancelSync world id (.replay replay)))
  | .publish (.arriving event) => exact h
  | .publish (.delivering ⟨event, none, waiting⟩) => exact h
  | .publish (.delivering ⟨event, some (.outside number), waiting⟩) => exact h
  | .publish (.delivering ⟨event, some (.activation id .arriving), waiting⟩) => exact h
  | .publish (.delivering ⟨event, some (.activation id (.forwarding forwarding)), waiting⟩) =>
    exact h.putSync id _
  | .publish (.delivering ⟨event, some (.activation id (.routing route)), waiting⟩) =>
    exact h.shelf (Environment.shelf_cancelRoute world.env route) rfl
  | .sync id call => exact h.putSync id _

theorem surrounds (h : world.Square base) (sound : Sound world calls) (move : WorldMove) :
    (world.surround move).Square base := by
  cases move with
  | release | grant | refuse | files | source | documents | answer =>
    exact h.shelf (.of_eq rfl rfl rfl rfl) rfl
  | report uri version diagnostics =>
    exact h.shelf (Environment.shelf_publishDiagnostics world.env uri version diagnostics) rfl
  | listen kind number => exact h.shelf (Environment.shelf_subscribe world.env kind number) rfl
  | unlisten number =>
    simp only [surround]
    split
    · rename_i outside
      refine h.shelf ⟨fun _ _ found => found, rfl, fun id => ?_, rfl⟩ rfl
      -- no activation has the subscription that ends
      simp only [Environment.subscriptionsOf, EventBus.unsubscribe, List.filter_filter]
      refine List.filter_congr fun sub hs => ?_
      by_cases listens : sub.listener = .activation id
      · have other := List.all_eq_true.mp outside sub hs
        rw [listens] at other
        simpa [listens] using other
      · simp [listens]
    · exact h
  | deactivate name => exact h.deactivate sound name
  | drop name => exact h.drop sound name
  | disposeSession name =>
    simp only [surround]
    cases found : world.live? name with
    | none => exact h
    | some id => exact h.shelf (Environment.shelf_disposeSession world.env _) rfl
  | route name change =>
    simp only [surround]
    cases found : world.live? name with
    | none => exact h
    | some id =>
      have routed := h.routes sound (sound.live_lt found) (.arriving change)
      simp only [routeNow]
      revert routed
      rcases (world.activation id).router.poll world.env (.arriving change) with
        ⟨env, call | result⟩ <;> intro routed
      · exact Environment.Stock.shelf routed (Environment.shelf_cancelRoute env call)
      · exact routed

/-- Who holds its subscriptions is called, whatever kind an event is of. -/
theorem audience (square : world.Square base) (lt : id < world.activations.length)
    (holds : (world.activation id).owner.held ≠ []) (kind : EventKind) :
    id ∈ EngineSync.audience (world.env.bus.subscribers kind) := by
  obtain ⟨first, -, row⟩ := square.held id _ (Sound.core_eq lt) holds
  have mem : ∃ number, (⟨number, kind, .activation id⟩ : Subscription Listener) ∈
      world.env.subscriptionsOf id := by
    rw [row]
    cases kind <;> simp [Subscription.row, EventKind.all]
  obtain ⟨number, mem⟩ := mem
  refine List.mem_filterMap.mpr ⟨_, List.mem_filter.mpr ⟨(List.mem_filter.mp mem).1, ?_⟩, rfl⟩
  exact decide_eq_true rfl

/-- Requests, steps and moves keep a world sound and its accounts square. -/
theorem tells (base : List ProviderKind) :
    Tells fun world calls _ => Sound world calls ∧ world.Square base where
  tidy h := h.1.tidy
  perm hp h := ⟨h.1.perm hp, h.2⟩
  accept h accepted := ⟨h.1.accepts accepted, h.2⟩
  hop h step := ⟨h.1.hop step, h.2.hop h.1 step⟩
  cancel h := ⟨h.1.cancels, h.2.cancels h.1⟩
  surround move h := ⟨h.1.surrounds move, h.2.surrounds h.1 move⟩

end Square
end World

/-! ## Every world that can be reached -/

/-- The world in which nothing happened yet, but that somebody else may have registered providers
before. -/
def Outset.host (outset : Outset) (ledger : Ledger) : Work World Call CallResult :=
  { outset.work with
    state := { outset.work.state with env := { outset.work.state.env with ledger } } }

namespace World

theorem sound_host (outset : Outset) (ledger : Ledger) : Sound (outset.host ledger).state [] :=
  (Sound.initial outset).plain (.single (.ledger _ ledger))

/-- **Accounts are square** in every world that can be reached: what is registered belongs to some
activation, or it was there from the start. -/
theorem square_run (outset : Outset) (ledger : Ledger)
    (actions : List (Action WorldRequest WorldMove)) :
    let work := World.machine.run (outset.host ledger) actions
    Sound work.state work.calls ∧ work.state.Square ledger.live := by
  refine (Square.tells ledger.live).keeps.run ⟨sound_host outset ledger, ?_⟩ actions
  refine ⟨fun id core found => ?_, fun _ _ => rfl, nofun, List.nodup_nil, ?_⟩
  · simp [Outset.host, Outset.work, Work.idle, World.initial, cores] at found
  · simp [Outset.host, Outset.work, Work.idle, World.initial, cores]

end World
end EngineSync
