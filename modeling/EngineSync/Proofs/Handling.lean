import EngineSync.Proofs.Fences
import EngineSync.Proofs.Reactions
import EngineSync.Proofs.Toggles
import EngineSync.Proofs.Tracking

/-!
# How an event is handled

Past the barrier an event comes to the session in the chances of its publication.  A document that
is not tracked asks for nothing.  One that is tracked stands in its lane as long as somebody else
holds it; then its request is made, once, unless the session was disposed, which turns it away.  A
change of the profile asks at once for the profile of that moment, a change of the toggle sets the
gate, and anything else asks for nothing.  All this is told of what a chance finds and what it
leaves.
-/
namespace EngineSync

/-- A chance that a call had: what it found, what it left, and how far it came. -/
structure WorldChance where
  before : World
  after : World
  progress : Progress Call CallResult

namespace ListenerStage

/-- The engine has the request of a listener. -/
inductive Awaits : ListenerStage → Prop where
  | forwarding {forwarding : Forwarding} (calling : forwarding.isCalling = true) :
      Awaits (.forwarding forwarding)
  | routing (profile : Profile) (ticket : TicketId) : Awaits (.routing (.applying profile ticket))

end ListenerStage

/-- Whether an event sets the gates of those who listen. -/
def Event.switches : Event → Bool
  | .configuration change => change.switches
  | _ => false

namespace Call

/-- A publication that is done with an activation: it is not at its listener, nor will it be. -/
def Done (id : ActivationId) (call : Call) : Prop :=
  id ∉ call.ids ∧ ∃ delivery, call = .publish (.delivering delivery)

/-- A publication that comes to an activation no more, and whose request, if it is at its listener
still, the engine has. -/
def Served (id : ActivationId) (call : Call) : Prop :=
  ∃ event current waiting, call = .publish (.delivering ⟨event, current, waiting⟩) ∧
    id ∉ audience waiting ∧ ∀ stage, current = some (.activation id stage) → stage.Awaits

/-- A publication that stands in a lane with a request for the session of an activation. -/
def Queued (id : ActivationId) (request : Request) (lane : LaneId) (turn : TurnId)
    (call : Call) : Prop :=
  ∃ event forwarding waiting,
    call = .publish (.delivering ⟨event, some (.activation id (.forwarding forwarding)), waiting⟩) ∧
      forwarding.stage = .queued lane turn ∧ forwarding.request = request ∧ id ∉ audience waiting

theorem Done.served {id : ActivationId} {call : Call} (done : call.Done id) : call.Served id := by
  obtain ⟨away, ⟨event, current, waiting⟩, rfl⟩ := done
  refine ⟨event, current, waiting, rfl, fun mem => away (List.mem_append_right _ mem), ?_⟩
  rintro stage rfl
  exact absurd (List.mem_append_left _ (Option.mem_toList.mpr rfl)) away

end Call

namespace World

/-- The chance that a call has in a world. -/
def chance (world : World) (call : Call) : WorldChance :=
  ⟨world, (world.poll call).1, (world.poll call).2⟩

/-- The gate of an activation. -/
def gateOf (world : World) (id : ActivationId) : FeatureGate :=
  world.env.gate (world.activation id).gate

/-- What the session of an activation is to be asked because of an event: the text or the end of a
document that is tracked, and the profile as it is now. -/
def owed (world : World) (id : ActivationId) : Event → Option Request
  | .opened doc | .changed doc =>
    if (world.activation id).filter.tracks doc then some (.update doc.uri doc.version doc.text)
    else none
  | .closed doc =>
    if (world.activation id).filter.tracks doc then some (.close doc.uri) else none
  | .configuration change =>
    if change.affects ConfigChange.profileKey then some (.configure world.env.profile.2) else none

end World

namespace WorldChance

/-- What the session of an activation was asked in a chance. -/
def asked (id : ActivationId) (chance : WorldChance) : List EngineCall :=
  let session := (chance.before.activation id).session
  (chance.after.env.engine.callsOf session).drop (chance.before.env.engine.callsOf session).length

/-- The gate of an activation is as it was. -/
def KeepsGate (id : ActivationId) (chance : WorldChance) : Prop :=
  chance.after.gateOf id = chance.before.gateOf id

/-- Nothing that belongs to an activation was touched. -/
def Leaves (id : ActivationId) (chance : WorldChance) : Prop :=
  World.Leaves id chance.before chance.after

/-- The barrier was closed, so that nothing happened. -/
def Idle (id : ActivationId) (chance : WorldChance) : Prop :=
  (chance.before.activation id).barrier = .replaying ∧ chance.after = chance.before

/-- The request stands in a lane that somebody else holds. -/
def Behind (id : ActivationId) (request : Request) (chance : WorldChance) : Prop :=
  ∃ call lane turn, chance.progress = .pending call ∧ call.Queued id request lane turn ∧
    (chance.after.sync id).lanes.holds lane turn = false

/-- The session was disposed, which is what the publisher was told. -/
def Refused (id : ActivationId) (chance : WorldChance) : Prop :=
  chance.before.Ended id ∧ chance.progress = .finished (.failed (.engine .disposed))

end WorldChance

/-- What a call shows of itself: the chances that it has. -/
def World.chances (world : World) (call : Call) : List WorldChance :=
  [world.chance call]

/-- What a session was asked in some chances, in order. -/
def askedIn (id : ActivationId) (chances : List WorldChance) : List EngineCall :=
  chances.flatMap (WorldChance.asked id)

/-- What a chance makes of a request: it stands in its lane still, it is made, or it is turned
away. -/
inductive WorldChance.Turn (id : ActivationId) (session : SessionId) (request : Request)
    (chance : WorldChance) : Prop where
  | stands (behind : chance.Behind id request) (silent : chance.asked id = [])
  | asked (served : ∀ call ∈ chance.progress.rest, call.Served id)
      (once : chance.asked id = [.request session request])
  | refused (refused : chance.Refused id) (silent : chance.asked id = [])

/-- How far a request came in the chances of its publication: it stands in its lane, it was made
once, or it was turned away. -/
inductive Comes (id : ActivationId) (session : SessionId) (request : Request) :
    Option Call → List WorldChance → Prop where
  | stands {call lane turn chances} (queued : call.Queued id request lane turn)
      (behind : ∀ chance ∈ chances, chance.Behind id request) (silent : askedIn id chances = []) :
      Comes id session request (some call) chances
  | asked {own chances} (served : ∀ call ∈ own, call.Served id)
      (once : askedIn id chances = [.request session request]) :
      Comes id session request own chances
  | refused {chances last} (refused : last.Refused id)
      (silent : askedIn id (chances ++ [last]) = []) :
      Comes id session request none (chances ++ [last])

/-- How what is owed to a session is paid in the chances of a publication: where nothing is owed,
nothing is asked and the publication is done, and a request comes to its session. -/
inductive Pays (id : ActivationId) (session : SessionId) :
    Option Request → Option Call → List WorldChance → Prop where
  | nothing {own chances} (done : ∀ call ∈ own, call.Done id) (silent : askedIn id chances = []) :
      Pays id session none own chances
  | request {request own chances} (comes : Comes id session request own chances) :
      Pays id session (some request) own chances

/-- An event was taken up in the first of some chances and is handled: the session is asked for what
is owed to it, once and for nothing else, and the gate is set once, as the toggle says, if that is
what the event is about. -/
structure Handled (id : ActivationId) (session : SessionId) (event : Event) (own : Option Call)
    (first : WorldChance) (further : List WorldChance) : Prop where
  released : (first.before.activation id).barrier = .open
  pays : Pays id session (first.before.owed id event) own (first :: further)
  gate : if event.switches then (first.after.gateOf id).isEnabled = first.before.env.formatting.2
    else first.KeepsGate id
  keeps : ∀ chance ∈ further, chance.KeepsGate id

/-- What becomes of an event that waits at the barrier of an activation, in the chances of its
publication: it waits, or it was given up with the activation and nothing is done, or it is
handled. -/
inductive Becomes (id : ActivationId) (session : SessionId) (event : Event) :
    Option Call → List WorldChance → Prop where
  | waits {call chances} (there : call.Waits id event) (idle : ∀ chance ∈ chances, chance.Idle id) :
      Becomes id session event (some call) chances
  | abandoned {own chances first further} (idle : ∀ chance ∈ chances, chance.Idle id)
      (given : (first.before.activation id).barrier = .abandoned)
      (done : ∀ call ∈ own, call.Done id) (leaves : ∀ chance ∈ first :: further, chance.Leaves id) :
      Becomes id session event own (chances ++ first :: further)
  | handled {own chances first further} (idle : ∀ chance ∈ chances, chance.Idle id)
      (handled : Handled id session event own first further) :
      Becomes id session event own (chances ++ first :: further)

/-! ## A request at its lane -/

namespace Sync
variable {sync : Sync} {forwarding : Forwarding} {lane : LaneId} {turn : TurnId} {ticket : TicketId}

/-- What becomes of a request at its lane: somebody else holds it, or the session was disposed and
turns the request away, or it is made and the engine may take its time. -/
inductive Turn (request : Request) (sync after : Sync) :
    Progress Forwarding ForwardingResult → Prop where
  | stands {forwarding : Forwarding} {lane turn} (queued : forwarding.stage = .queued lane turn)
      (same : forwarding.request = request) (behind : after.lanes.holds lane turn = false)
      (silent : after.engine.callsOf sync.session = sync.engine.callsOf sync.session) :
      Turn request sync after (.pending forwarding)
  | asked {progress} (calling : ∀ next, progress = .pending next → next.isCalling = true)
      (once : after.engine.callsOf sync.session =
        sync.engine.callsOf sync.session ++ [.request sync.session request]) :
      Turn request sync after progress
  | refused (disposed : sync.engine.isDisposed sync.session = true)
      (silent : after.engine.callsOf sync.session = sync.engine.callsOf sync.session) :
      Turn request sync after (.finished (.error .disposed))

/-- A forwarding whose request the engine has asks for nothing more. -/
theorem calling_poll (calling : forwarding.stage = .calling lane turn ticket) :
    (sync.poll forwarding).1.engine.calls = sync.engine.calls ∧
      ∀ next, (sync.poll forwarding).2 = .pending next → next.isCalling = true := by
  refine ⟨(hops_of_calling calling).2.1, fun next pending => ?_⟩
  simp only [poll, calling, pollCalling] at pending
  split at pending
  · cases pending
    rfl
  · cases pending

theorem queued_turn (queued : forwarding.stage = .queued lane turn) :
    Turn forwarding.request sync (sync.poll forwarding).1 (sync.poll forwarding).2 := by
  cases holds : sync.lanes.holds lane turn with
  | false =>
    rw [poll_waiting queued holds]
    exact .stands queued rfl holds rfl
  | true =>
    cases disposed : sync.engine.isDisposed sync.session with
    | true =>
      rw [poll_refused queued holds disposed]
      exact .refused disposed rfl
    | false =>
      rw [poll_issued queued holds disposed]
      -- the engine has the request now, and the rest of the chance asks for nothing
      obtain ⟨same, calling⟩ := @calling_poll
        { sync.log [forwarding.entry, Session.requestEntry forwarding.request] with
          engine := (sync.engine.issue sync.session forwarding.request).1 }
        { forwarding with
          stage := .calling lane turn (sync.engine.issue sync.session forwarding.request).2 }
        lane turn _ rfl
      refine .asked calling ?_
      rw [Engine.callsOf, same]
      exact Engine.callsOf_issue forwarding.request

/-- A tracked document reaches its lane and takes its turn there. -/
theorem tracked_turn (arriving : forwarding.stage = .arriving)
    (tracked : sync.filter.tracks forwarding.doc = true) :
    Turn forwarding.request sync (sync.poll forwarding).1 (sync.poll forwarding).2 := by
  rcases entered : sync.lanes.enter forwarding.doc.uri with ⟨lanes, lane, turn⟩
  rw [poll_tracked arriving tracked entered]
  have turned := @queued_turn { sync with lanes } { forwarding with stage := .queued lane turn }
    lane turn rfl
  revert turned
  rcases Sync.poll _ _ with ⟨after, progress⟩
  intro turned
  cases turned with
  | stands queued same behind silent => exact .stands queued same behind silent
  | asked calling once => exact .asked calling once
  | refused disposed silent => exact .refused disposed silent

theorem untracked_poll (arriving : forwarding.stage = .arriving)
    (untracked : sync.filter.tracks forwarding.doc = false) :
    (sync.poll forwarding).1.engine = sync.engine ∧
      (sync.poll forwarding).2 = .finished (.ok false) := by
  simp only [poll, arriving, pollArriving, untracked, Bool.false_eq_true, if_false, and_true]
  split <;> rfl

end Sync

/-- A profile that the engine has asks for nothing more. -/
theorem Router.pollApplying_silent (env : Environment) (profile : Profile) (ticket : TicketId) :
    (Router.pollApplying env profile ticket).1.engine.calls = env.engine.calls ∧
      ∀ next, (Router.pollApplying env profile ticket).2 = .pending next →
        next = .applying profile ticket := by
  unfold Router.pollApplying
  cases collected : env.collectProfile? profile ticket with
  | none => exact ⟨rfl, fun next pending => (Progress.pending.inj pending).symm⟩
  | some outcome =>
    obtain ⟨⟨engine, answer⟩, found, rfl⟩ := Option.map_eq_some_iff.mp collected
    obtain ⟨own, -, -, -, -, rfl⟩ := Engine.collect?_eq found
    exact ⟨rfl, nofun⟩

namespace World
variable {world world' between : World} {id : ActivationId} {event : Event} {call : Call}
  {calls : List Call} {waiting : List (Subscription Listener)} {notes : List WorldNote}
  {progress : Progress Call CallResult} {forwarding : Forwarding} {change : ConfigChange}
  {outcome : Progress ListenerCall (Except EngineFailure Unit)}

/-! ## A publication that is done with an activation -/

theorem Leaves.gateOf (h : Leaves id world world') : world'.gateOf id = world.gateOf id := by
  have same := h.spares.gate
  unfold World.gateOf
  rw [h.activation, Environment.gate, Environment.gate, Environment.formattingGate,
    Environment.formattingGate, same]

/-- A listener at work goes on to be the same listener. -/
theorem activation?_listens {listener next : ListenerCall}
    (hop : ListenerHop event world listener notes world' outcome)
    (pending : outcome = .pending next) : next.activation? = listener.activation? := by
  cases hop with
  | pass | answered => cases pending
  | take released =>
    cases pending
    rfl
  | forward id forwarding =>
    obtain ⟨stage, rfl, -⟩ := Sound.pollForwarding_pending pending
    rfl
  | route id route =>
    obtain ⟨stage, rfl, -⟩ := Sound.pollRouting_pending pending
    rfl

theorem delivered_done (later : id ∉ audience waiting)
    (other : ∀ listener, outcome = .pending listener → listener.activation? ≠ some id) :
    ∀ next ∈ (delivered event waiting outcome).rest, next.Done id := by
  intro next hn
  rcases outcome with listener | failure | ⟨⟩
  · rw [List.mem_singleton.mp hn]
    refine ⟨fun mem => ?_, _, rfl⟩
    rcases List.mem_append.mp mem with here | there
    · exact other listener rfl (Option.mem_toList.mp here)
    · exact later there
  · cases hn
  · rw [List.mem_singleton.mp hn]
    exact ⟨later, _, rfl⟩

/-- Done with an activation, a publication stays so and leaves it alone. -/
theorem done_hop (h : Sound world (call :: calls)) (lt : id < world.activations.length)
    (done : call.Done id) (hop : Hop world call notes world' progress) :
    Leaves id world world' ∧ ∀ next ∈ progress.rest, next.Done id := by
  obtain ⟨away, ⟨event, current, waiting⟩, rfl⟩ := done
  have later : id ∉ audience waiting := fun mem => away (List.mem_append_right _ mem)
  have other : ∀ listener, current = some listener → listener.activation? ≠ some id := by
    rintro listener rfl same
    exact away (List.mem_append_left _ (Option.mem_toList.mpr same))
  have idle : Call.worksFor? (.publish (.delivering ⟨event, current, waiting⟩)) ≠ some id := by
    intro works
    obtain ⟨listener, there, own⟩ := Option.bind_eq_some_iff.mp works
    refine other listener there ?_
    unfold ListenerCall.worksFor? at own
    split at own <;> first | exact own | cases own
  have silent : Call.replaying? (.publish (.delivering ⟨event, current, waiting⟩)) ≠ some id :=
    fun same => by cases same
  refine ⟨h.leaves_hop lt idle silent (fun _ _ same => by cases same) hop, ?_⟩
  cases hop with
  | call event next waiting =>
    intro next' hn
    rw [List.mem_singleton.mp hn]
    refine ⟨fun mem => later ?_, _, rfl⟩
    -- whoever is called now was the next in the audience
    have called := world.startListener_activation? next.listener
    simp only [Call.ids, Option.bind_some, called] at mem
    cases own : next.listener.activation? <;> simpa [audience, own] using mem
  | listen hop =>
    refine delivered_done later fun listener pending => ?_
    rw [activation?_listens hop pending]
    exact other _ rfl
  | finish event => exact fun _ mem => absurd mem List.not_mem_nil

theorem done_poll (h : Sound world (call :: calls)) (lt : id < world.activations.length)
    (done : call.Done id) :
    Leaves id world (world.poll call).1 ∧ ∀ next ∈ (world.poll call).2.rest, next.Done id := by
  have kept := (poll_hops h.tidy call).carries
    (fun between rest => Sound between (rest ++ calls) ∧ Leaves id world between ∧
      ∀ next ∈ rest, next.Done id)
    (fun {between call' notes after progress} kept hop => ?_)
    ⟨h, .refl id world, fun next hn => List.mem_singleton.mp hn ▸ done⟩
  · exact kept.2
  · obtain ⟨sound, leaves, away⟩ := kept
    have there := Nat.lt_of_lt_of_le lt leaves.length
    obtain ⟨more, later⟩ := done_hop sound there (away call' List.mem_cons_self) hop
    exact ⟨sound.hop hop, leaves.trans more, later⟩

/-! ## A chance at the listener -/

/-- A chance from what the listener of an activation came to: the publication waits with it or fails
with it, or it goes on without it. -/
structure Onward (id : ActivationId) (event : Event) (waiting : List (Subscription Listener))
    (between : World) (outcome : Progress ListenerCall (Except EngineFailure Unit))
    (chance : WorldChance) : Prop where
  leaves : Leaves id between chance.after
  waits : ∀ listener, outcome = .pending listener →
    chance.progress = .pending (.publish (.delivering ⟨event, some listener, waiting⟩))
  fails : ∀ failure, outcome = .finished (.error failure) →
    chance.progress = .finished (.failed (.engine failure))
  goes : ∀ result, outcome = .finished result → ∀ call ∈ chance.progress.rest, call.Done id

theorem chance_onward {listener : ListenerCall} (lt : id < world.activations.length)
    (h : Sound world (.publish (.delivering ⟨event, some listener, waiting⟩) :: calls))
    (later : id ∉ audience waiting) (hop : ListenerHop event world listener notes between outcome)
    (polled : world.pollListener event listener = (between, outcome)) :
    Onward id event waiting between outcome
      (world.chance (.publish (.delivering ⟨event, some listener, waiting⟩))) := by
  have there : id < between.activations.length :=
    Nat.lt_of_lt_of_le lt (h.length_hop (.listen hop))
  have sound := h.hop (.listen hop)
  simp only [chance, World.poll, pollPublish, polled]
  rcases outcome with listener' | failure | ⟨⟩
  · refine ⟨.refl id between, fun next same => ?_, fun _ no => ?_, fun _ no => ?_⟩
    · cases same
      rfl
    · cases no
    · cases no
  · refine ⟨.refl id between, fun _ no => ?_, fun next same => ?_, fun _ _ _ no => by cases no⟩
    · cases no
    · cases same
      rfl
  · -- the listener is done, and the publication goes on to those behind it
    obtain ⟨leaves, done⟩ := done_poll sound there ⟨later, _, rfl⟩
    refine ⟨leaves, fun _ no => ?_, fun _ no => ?_, fun _ _ => done⟩
    · cases no
    · cases no

theorem Onward.asked {chance : WorldChance} {session : SessionId} {new : List EngineCall}
    (onward : Onward id event waiting between outcome chance)
    (own : (chance.before.activation id).session = session)
    (same : (between.activation id).session = session)
    (grows : between.env.engine.callsOf session =
      chance.before.env.engine.callsOf session ++ new) : chance.asked id = new := by
  have quiet := onward.leaves.spares.quiet.calls
  rw [same] at quiet
  rw [WorldChance.asked, own, quiet, grows, List.drop_left]

theorem Onward.served {chance : WorldChance}
    (onward : Onward id event waiting between outcome chance) (later : id ∉ audience waiting)
    (awaits : ∀ listener, outcome = .pending listener →
      ∃ stage, listener = .activation id stage ∧ stage.Awaits) :
    ∀ call ∈ chance.progress.rest, call.Served id := by
  intro call hc
  rcases outcome with listener | result
  · obtain ⟨stage, rfl, engine⟩ := awaits listener rfl
    rw [onward.waits _ rfl, Progress.rest_pending, List.mem_singleton] at hc
    refine ⟨event, _, waiting, hc, later, fun other same => ?_⟩
    cases same
    exact engine
  · exact (onward.goes result rfl call hc).served

/-! ## Documents -/

theorem pollForwarding_outcome (world : World) (id : ActivationId) (forwarding : Forwarding) :
    (world.pollForwarding id forwarding).2 = ((world.sync id).poll forwarding).2.map
      (fun next => .activation id (.forwarding next)) (·.map fun _ => ()) := by
  unfold pollForwarding
  rcases (world.sync id).poll forwarding with ⟨sync, next | failure | taken⟩
  · rfl
  · rfl
  · simp only [concludeForwarding]
    split <;> rfl

section
variable (h : Sound world (.publish
  (.delivering ⟨event, some (.activation id (.forwarding forwarding)), waiting⟩) :: calls))
include h

theorem forwarding_onward : Onward id event waiting (world.pollForwarding id forwarding).1
    (world.pollForwarding id forwarding).2 (world.chance (.publish
      (.delivering ⟨event, some (.activation id (.forwarding forwarding)), waiting⟩))) :=
  chance_onward (h.lt_of_ids List.mem_cons_self) h h.comes_once (.forward world id forwarding) rfl

theorem forwarding_asked {new : List EngineCall}
    (grows : ((world.sync id).poll forwarding).1.engine.callsOf (world.activation id).session =
      world.env.engine.callsOf (world.activation id).session ++ new) :
    (world.chance (.publish (.delivering
      ⟨event, some (.activation id (.forwarding forwarding)), waiting⟩))).asked id = new := by
  have engine := congrArg Sync.engine
    (sync_pollForwarding (h.lt_of_ids List.mem_cons_self) forwarding)
  have own := congrArg Prod.fst
    (lasting_belongings.works (works_forwarding world id forwarding) id)
  refine (forwarding_onward h).asked rfl own ?_
  rw [← engine] at grows
  exact grows

/-- Forwarding a document touches no gate. -/
theorem forwarding_keeps : (world.chance (.publish (.delivering
    ⟨event, some (.activation id (.forwarding forwarding)), waiting⟩))).KeepsGate id := by
  have own := congrArg (·.2.2.1)
    (lasting_belongings.works (works_forwarding world id forwarding) id)
  have gates := (shelf_forwarding world id forwarding).gates
  refine (forwarding_onward h).leaves.gateOf.trans ?_
  unfold gateOf
  rw [Environment.gate_of_gates gates]
  exact congrArg _ own

/-- A publication whose document the engine has waits for it, or goes on. -/
theorem awaits_of_calling
    (calling : ∀ next, ((world.sync id).poll forwarding).2 = .pending next →
      next.isCalling = true) :
    ∀ call ∈ (world.chance (.publish (.delivering
      ⟨event, some (.activation id (.forwarding forwarding)), waiting⟩))).progress.rest,
        call.Served id := by
  refine (forwarding_onward h).served h.comes_once fun listener pending => ?_
  rw [pollForwarding_outcome] at pending
  rcases polled : ((world.sync id).poll forwarding).2 with next | result
  · rw [polled] at pending
    cases pending
    exact ⟨_, rfl, .forwarding (calling next polled)⟩
  · rw [polled] at pending
    cases pending

/-- What a chance makes of the request of a document. -/
theorem forwarding_turn {request : Request} (turned : Sync.Turn request (world.sync id)
      ((world.sync id).poll forwarding).1 ((world.sync id).poll forwarding).2) :
    (world.chance (.publish (.delivering
      ⟨event, some (.activation id (.forwarding forwarding)), waiting⟩))).Turn id
        (world.activation id).session request := by
  have onward := forwarding_onward h
  have outcome := pollForwarding_outcome world id forwarding
  have later := h.comes_once
  rcases polled : (world.sync id).poll forwarding with ⟨sync, progress⟩
  rw [polled] at turned outcome
  cases turned with
  | @stands next lane turn queued same behind silent =>
    refine .stands ?_ (forwarding_asked h (by rw [polled, List.append_nil]; exact silent))
    have standing := congrArg Sync.lanes
      (sync_pollForwarding (h.lt_of_ids List.mem_cons_self) forwarding)
    rw [polled] at standing
    have lanes := (congrArg Activation.lanes onward.leaves.activation).trans standing
    rw [← lanes] at behind
    exact ⟨_, lane, turn, onward.waits _ outcome,
      ⟨event, next, waiting, rfl, queued, same, later⟩, behind⟩
  | asked calling once =>
    refine .asked (awaits_of_calling h ?_) (forwarding_asked h (by rw [polled]; exact once))
    rw [polled]
    exact calling
  | refused disposed silent =>
    refine .refused ⟨disposed, onward.fails .disposed outcome⟩ (forwarding_asked h ?_)
    rw [polled, List.append_nil]
    exact silent

/-- A document whose text the engine has asks for nothing more. -/
theorem calling_served (calling : forwarding.isCalling = true) :
    let chance := world.chance (.publish (.delivering
      ⟨event, some (.activation id (.forwarding forwarding)), waiting⟩))
    chance.asked id = [] ∧ ∀ call ∈ chance.progress.rest, call.Served id := by
  cases stage : forwarding.stage with
  | arriving => simp [Forwarding.isCalling, stage] at calling
  | queued lane turn => simp [Forwarding.isCalling, stage] at calling
  | calling lane turn ticket =>
    obtain ⟨same, still⟩ := @Sync.calling_poll (world.sync id) _ _ _ _ stage
    refine ⟨forwarding_asked h ?_, awaits_of_calling h still⟩
    rw [Engine.callsOf, same, List.append_nil]
    rfl

/-- A document that is not tracked asks for nothing, and its listener is done. -/
theorem untracked_done (arriving : forwarding.stage = .arriving)
    (untracked : (world.activation id).filter.tracks forwarding.doc = false) :
    let chance := world.chance (.publish (.delivering
      ⟨event, some (.activation id (.forwarding forwarding)), waiting⟩))
    chance.asked id = [] ∧ ∀ call ∈ chance.progress.rest, call.Done id := by
  obtain ⟨same, skipped⟩ := @Sync.untracked_poll (world.sync id) _ arriving untracked
  refine ⟨forwarding_asked h ?_, (forwarding_onward h).goes (.ok ()) ?_⟩
  · rw [same, List.append_nil]
    rfl
  · rw [pollForwarding_outcome, skipped]
    rfl

end

/-! ## Changes of the configuration -/

section
variable {route : RouteCall} (h : Sound world (.publish
  (.delivering ⟨event, some (.activation id (.routing route)), waiting⟩) :: calls))
include h

theorem routing_onward : Onward id event waiting (world.pollRouting id route).1
    (world.pollRouting id route).2 (world.chance (.publish
      (.delivering ⟨event, some (.activation id (.routing route)), waiting⟩))) :=
  chance_onward (h.lt_of_ids List.mem_cons_self) h h.comes_once (.route world id route) rfl

theorem routing_asked {new : List EngineCall}
    (grows : ((world.activation id).router.poll world.env route).1.engine.callsOf
        (world.activation id).session =
      world.env.engine.callsOf (world.activation id).session ++ new) :
    (world.chance (.publish
      (.delivering ⟨event, some (.activation id (.routing route)), waiting⟩))).asked id = new :=
  (routing_onward h).asked rfl rfl grows

theorem routing_gateOf : (world.chance (.publish
    (.delivering ⟨event, some (.activation id (.routing route)), waiting⟩))).after.gateOf id =
      ((world.activation id).router.poll world.env route).1.gate (world.activation id).gate :=
  (routing_onward h).leaves.gateOf

/-- A publication whose profile the engine has waits for it, or goes on. -/
theorem awaits_of_applying
    (still : ∀ next, ((world.activation id).router.poll world.env route).2 = .pending next →
      ∃ profile ticket, next = .applying profile ticket) :
    ∀ call ∈ (world.chance (.publish (.delivering
      ⟨event, some (.activation id (.routing route)), waiting⟩))).progress.rest,
        call.Served id := by
  refine (routing_onward h).served h.comes_once fun listener pending => ?_
  unfold pollRouting at pending
  rcases polled : (world.activation id).router.poll world.env route with ⟨env, next | result⟩
  · rw [polled] at pending still
    cases pending
    obtain ⟨profile, ticket, rfl⟩ := still next rfl
    exact ⟨_, rfl, .routing profile ticket⟩
  · rw [polled] at pending
    cases pending

/-- A profile that the engine has asks for nothing more and touches no gate. -/
theorem applying_served {profile : Profile} {ticket : TicketId}
    (same : route = .applying profile ticket) :
    let chance := world.chance (.publish
      (.delivering ⟨event, some (.activation id (.routing route)), waiting⟩))
    chance.asked id = [] ∧ chance.KeepsGate id ∧ ∀ call ∈ chance.progress.rest, call.Served id := by
  subst same
  obtain ⟨calls, still⟩ := Router.pollApplying_silent world.env profile ticket
  have gates := (Environment.shelf_pollApplying world.env profile ticket).gates
  refine ⟨routing_asked h ?_, (routing_gateOf h).trans ?_,
    awaits_of_applying h fun next pending => ⟨profile, ticket, still next pending⟩⟩
  · simp only [Router.poll, Engine.callsOf, calls, List.append_nil]
  · exact Environment.gate_of_gates gates _

/-- A change of the profile asks for the profile as it is now, unless the session was disposed. -/
theorem profile_turn {change : ConfigChange} (same : route = .arriving change)
    (profile : change.affects ConfigChange.profileKey = true) :
    let chance := world.chance (.publish
      (.delivering ⟨event, some (.activation id (.routing route)), waiting⟩))
    chance.Turn id (world.activation id).session (.configure world.env.profile.2) ∧
      chance.KeepsGate id := by
  subst same
  have routes : (world.activation id).router.poll world.env (.arriving change) =
      (world.activation id).router.routeProfile world.env := by
    simp only [Router.poll, Router.route, profile, if_true]
  have gates := (Environment.shelf_routeProfile (world.activation id).router world.env).gates
  refine ⟨?_, (routing_gateOf h).trans ?_⟩
  · cases live : world.env.engine.isDisposed (world.activation id).router.session with
    | true =>
      obtain ⟨journal, refused⟩ := Router.routeProfile_refused live
      refine .refused ⟨live, (routing_onward h).fails .disposed ?_⟩ (routing_asked h ?_)
      · simp only [pollRouting, routes, refused]
        rfl
      · rw [routes, refused, List.append_nil]
    | false =>
      obtain ⟨journal, issued⟩ := Router.routeProfile_eq live
      refine .asked (awaits_of_applying h fun next pending => ?_) (routing_asked h ?_)
      · rw [routes, issued] at pending
        exact ⟨_, _, (Router.pollApplying_silent _ _ _).2 next pending⟩
      · -- the profile is with the engine, and the rest of the chance asks for nothing
        rw [routes, issued, Engine.callsOf, (Router.pollApplying_silent _ _ _).1]
        exact Engine.callsOf_issue (.configure world.env.profile.2)
  · rw [routes]
    exact Environment.gate_of_gates gates _

/-- Any other change asks for nothing; it sets the gate if it is one of the toggle. -/
theorem other_done {change : ConfigChange} (same : route = .arriving change)
    (other : change.affects ConfigChange.profileKey = false) :
    let chance := world.chance (.publish
      (.delivering ⟨event, some (.activation id (.routing route)), waiting⟩))
    chance.asked id = [] ∧ (∀ call ∈ chance.progress.rest, call.Done id) ∧
      if change.switches then (chance.after.gateOf id).isEnabled = world.env.formatting.2
      else chance.KeepsGate id := by
  subst same
  have lt := (h.within (h.lt_of_ids List.mem_cons_self)).gate
  cases toggle : change.affects ConfigChange.formattingKey with
  | true =>
    have routes : (world.activation id).router.poll world.env (.arriving change) =
        (((world.activation id).router.routeFormatting world.env).1,
          .finished (.ok (some ((world.activation id).router.routeFormatting world.env).2))) := by
      simp only [Router.poll, Router.route, other, toggle, Bool.false_eq_true, if_false, if_true]
    have switches : change.switches = true := by simp [ConfigChange.switches, other, toggle]
    refine ⟨routing_asked h ?_, (routing_onward h).goes (.ok ()) ?_, ?_⟩
    · -- the engine hears nothing of a gate that is set
      have reads : Environment.Edits .plain world.env (world.env.formatting.1.log
          [.routeFormatting ConfigChange.formattingKey world.env.formatting.2]) :=
        Environment.Edits.log (Environment.formatting_edits world.env) _
      have sets : Environment.OnlyGate (world.activation id).router.gate _
          ((world.activation id).router.routeFormatting world.env).1 :=
        Environment.onlyGate_setEnabled (Environment.Edits.tidy reads h.tidy)
          world.env.formatting.2
      have engine : ((world.activation id).router.routeFormatting world.env).1.engine =
          world.env.engine := sets.engine
      rw [routes, engine, List.append_nil]
    · simp only [pollRouting, routes]
      rfl
    · rw [if_pos switches, routing_gateOf h, routes]
      exact Environment.routeFormatting_agrees lt
  | false =>
    have routes : (world.activation id).router.poll world.env (.arriving change) =
        (world.env.log [.routeIgnored change.keys], .finished (.ok none)) := by
      simp only [Router.poll, Router.route, other, toggle, Bool.false_eq_true, if_false]
    have switches : ¬change.switches = true := by simp [ConfigChange.switches, toggle]
    refine ⟨routing_asked h ?_, (routing_onward h).goes (.ok ()) ?_, ?_⟩
    · rw [routes, List.append_nil]
      rfl
    · simp only [pollRouting, routes]
      rfl
    · rw [if_neg switches]
      refine (routing_gateOf h).trans ?_
      rw [routes]
      rfl

end

/-! ## A chance past the barrier -/

theorem asked_of_leaves {chance : WorldChance} (leaves : chance.Leaves id) :
    chance.asked id = [] := by
  have quiet := leaves.spares.quiet.calls
  rw [WorldChance.asked, quiet, List.drop_length]

/-- What was asked for and is with the engine is not asked for again. -/
theorem served_chance (h : Sound world (call :: calls)) (lt : id < world.activations.length)
    (served : call.Served id) :
    (world.chance call).asked id = [] ∧ (world.chance call).KeepsGate id ∧
      ∀ next ∈ (world.chance call).progress.rest, next.Served id := by
  obtain ⟨event, current, waiting, rfl, later, awaits⟩ := served
  by_cases own : ∃ stage, current = some (.activation id stage)
  · obtain ⟨stage, rfl⟩ := own
    cases awaits stage rfl with
    | forwarding calling =>
      obtain ⟨silent, more⟩ := calling_served h calling
      exact ⟨silent, forwarding_keeps h, more⟩
    | routing profile ticket => exact applying_served h rfl
  · have done : Call.Done id (.publish (.delivering ⟨event, current, waiting⟩)) := by
      refine ⟨fun mem => ?_, _, rfl⟩
      rcases List.mem_append.mp mem with here | there
      · obtain ⟨listener, rfl, same⟩ := Option.bind_eq_some_iff.mp (Option.mem_toList.mp here)
        cases listener with
        | activation id' stage =>
          cases same
          exact own ⟨stage, rfl⟩
        | outside number => cases same
      · exact later there
    obtain ⟨leaves, more⟩ := done_poll h lt done
    exact ⟨asked_of_leaves leaves, leaves.gateOf, fun next hn => (more next hn).served⟩

/-- A request that stands in its lane takes its turn there. -/
theorem queued_chance {request : Request} {lane : LaneId} {turn : TurnId}
    (h : Sound world (call :: calls)) (queued : call.Queued id request lane turn) :
    (world.chance call).Turn id (world.activation id).session request ∧
      (world.chance call).KeepsGate id := by
  obtain ⟨event, forwarding, waiting, rfl, standing, rfl, -⟩ := queued
  exact ⟨forwarding_turn h (Sync.queued_turn standing), forwarding_keeps h⟩

/-- A listener that finds its barrier open is at work on its event in the same chance. -/
theorem chance_taking (released : (world.activation id).barrier = .open) :
    world.chance (.publish (.delivering ⟨event, some (.activation id .arriving), waiting⟩)) =
      world.chance (.publish
        (.delivering ⟨event, some (.activation id (.taking event)), waiting⟩)) := by
  have same : world.pollListener event (.activation id .arriving) =
      world.pollListener event (.activation id (.taking event)) := by
    simp only [pollListener, released, handle]
    cases event <;> rfl
  simp only [chance, World.poll, pollPublish, same]

end World

/-! ## All chances of a publication -/

section
variable {id : ActivationId} {session : SessionId} {event : Event} {request : Request} {call : Call}
  {chance first : WorldChance} {chances further : List WorldChance} {own : Option Call}
  {world : World} {calls : List Call}

theorem askedIn_append (id : ActivationId) (before after : List WorldChance) :
    askedIn id (before ++ after) = askedIn id before ++ askedIn id after :=
  List.flatMap_append

theorem askedIn_singleton (id : ActivationId) (chance : WorldChance) :
    askedIn id [chance] = chance.asked id := by
  simp [askedIn]

/-- One more chance of a request that stood in its lane so far. -/
theorem Comes.of_turn (behind : ∀ chance ∈ chances, chance.Behind id request)
    (silent : askedIn id chances = []) (turned : chance.Turn id session request) :
    Comes id session request chance.progress.rest.head? (chances ++ [chance]) := by
  cases turned with
  | stands still none =>
    have standing := still
    obtain ⟨call, lane, turn, pending, queued, -⟩ := standing
    rw [pending]
    refine .stands queued (fun other mem => ?_) ?_
    · rcases List.mem_append.mp mem with old | new
      · exact behind other old
      · exact List.mem_singleton.mp new ▸ still
    · rw [askedIn_append, askedIn_singleton, silent, none]
      rfl
  | asked served once =>
    refine .asked (fun next hn => served next (Progress.mem_rest_head?.mp hn)) ?_
    rw [askedIn_append, askedIn_singleton, silent, once]
    rfl
  | refused refused none =>
    rw [refused.2]
    refine .refused refused ?_
    rw [askedIn_append, askedIn_singleton, silent, none]
    rfl

theorem Comes.more (comes : Comes id session request (some call) chances)
    (h : World.Sound world (call :: calls)) (lt : id < world.activations.length)
    (own : (world.activation id).session = session) :
    Comes id session request (world.chance call).progress.rest.head?
        (chances ++ [world.chance call]) ∧ (world.chance call).KeepsGate id := by
  cases comes with
  | stands queued behind silent =>
    obtain ⟨turned, keeps⟩ := World.queued_chance h queued
    rw [own] at turned
    exact ⟨.of_turn behind silent turned, keeps⟩
  | asked served once =>
    obtain ⟨silent, keeps, more⟩ := World.served_chance h lt (served call rfl)
    refine ⟨.asked (fun next hn => more next (Progress.mem_rest_head?.mp hn)) ?_, keeps⟩
    rw [askedIn_append, askedIn_singleton, once, silent]
    rfl

/-- The first chance of a request. -/
theorem Pays.of_turn (turned : chance.Turn id session request) :
    Pays id session (some request) chance.progress.rest.head? [chance] := by
  have comes : Comes id session request chance.progress.rest.head? ([] ++ [chance]) :=
    .of_turn (fun _ mem => absurd mem List.not_mem_nil) rfl turned
  exact .request comes

theorem Pays.of_nothing (silent : chance.asked id = [])
    (done : ∀ call ∈ chance.progress.rest, call.Done id) :
    Pays id session none chance.progress.rest.head? [chance] :=
  .nothing (fun next hn => done next (Progress.mem_rest_head?.mp hn))
    ((askedIn_singleton id chance).trans silent)

theorem Pays.more {owed : Option Request} (pays : Pays id session owed (some call) chances)
    (h : World.Sound world (call :: calls)) (lt : id < world.activations.length)
    (own : (world.activation id).session = session) :
    Pays id session owed (world.chance call).progress.rest.head? (chances ++ [world.chance call]) ∧
      (world.chance call).KeepsGate id := by
  cases pays with
  | nothing done silent =>
    obtain ⟨leaves, more⟩ := World.done_poll h lt (done call rfl)
    have none : (world.chance call).asked id = [] := World.asked_of_leaves leaves
    refine ⟨.nothing (fun next hn => more next (Progress.mem_rest_head?.mp hn)) ?_, leaves.gateOf⟩
    rw [askedIn_append, askedIn_singleton, silent, none]
    rfl
  | request comes =>
    obtain ⟨more, keeps⟩ := comes.more h lt own
    exact ⟨.request more, keeps⟩

/-- The first chance of an event that is about a document. -/
theorem Handled.of_document {waiting : List (Subscription Listener)} {forwarding : Forwarding}
    (h : World.Sound world
      (.publish (.delivering ⟨event, some (.activation id .arriving), waiting⟩) :: calls))
    (released : (world.activation id).barrier = .open)
    (taking : ListenerStage.taking event = .forwarding forwarding)
    (arriving : forwarding.stage = .arriving) (plain : event.switches = false)
    (owed : world.owed id event = if (world.activation id).filter.tracks forwarding.doc then
      some forwarding.request else none) :
    let chance := world.chance
      (.publish (.delivering ⟨event, some (.activation id .arriving), waiting⟩))
    Handled id (world.activation id).session event chance.progress.rest.head? chance [] := by
  have sound := h.hop (.listen (.take released))
  rw [taking] at sound
  dsimp only
  rw [World.chance_taking released, taking]
  refine ⟨released, ?_, ?_, fun _ mem => absurd mem List.not_mem_nil⟩
  · show Pays id _ (world.owed id event) _ _
    rw [owed]
    cases tracked : (world.activation id).filter.tracks forwarding.doc with
    | true => exact .of_turn (World.forwarding_turn sound (Sync.tracked_turn arriving tracked))
    | false =>
      obtain ⟨silent, done⟩ := World.untracked_done sound arriving tracked
      exact .of_nothing silent done
  · rw [plain]
    exact World.forwarding_keeps sound

/-- The first chance of an event that is about the configuration. -/
theorem Handled.of_configuration {waiting : List (Subscription Listener)} {change : ConfigChange}
    (h : World.Sound world (.publish
      (.delivering ⟨.configuration change, some (.activation id .arriving), waiting⟩) :: calls))
    (released : (world.activation id).barrier = .open) :
    let chance := world.chance
      (.publish (.delivering ⟨.configuration change, some (.activation id .arriving), waiting⟩))
    Handled id (world.activation id).session (.configuration change) chance.progress.rest.head?
      chance [] := by
  have sound : World.Sound world (.publish (.delivering ⟨.configuration change,
      some (.activation id (.routing (.arriving change))), waiting⟩) :: calls) :=
    h.hop (.listen (.take released))
  dsimp only
  rw [World.chance_taking released]
  refine ⟨released, ?_, ?_, fun _ mem => absurd mem List.not_mem_nil⟩
  · show Pays id _ (if change.affects ConfigChange.profileKey then
      some (.configure world.env.profile.2) else none) _ _
    cases profile : change.affects ConfigChange.profileKey with
    | true => exact .of_turn (World.profile_turn sound rfl profile).1
    | false =>
      obtain ⟨silent, done, -⟩ := World.other_done sound rfl profile
      exact .of_nothing silent done
  · show if change.switches then _ else _
    cases profile : change.affects ConfigChange.profileKey with
    | true =>
      have plain : ¬change.switches = true := by simp [ConfigChange.switches, profile]
      rw [if_neg plain]
      exact (World.profile_turn sound rfl profile).2
    | false => exact (World.other_done sound rfl profile).2.2

/-- The first chance past the barrier: the event is taken up, and its request comes to its lane or
to the engine. -/
theorem Handled.of_first {waiting : List (Subscription Listener)}
    (h : World.Sound world
      (.publish (.delivering ⟨event, some (.activation id .arriving), waiting⟩) :: calls))
    (released : (world.activation id).barrier = .open) :
    let chance := world.chance
      (.publish (.delivering ⟨event, some (.activation id .arriving), waiting⟩))
    Handled id (world.activation id).session event chance.progress.rest.head? chance [] := by
  cases event with
  | opened doc | changed doc | closed doc => exact .of_document h released rfl rfl rfl rfl
  | configuration change => exact .of_configuration h released

/-- One more chance of an event that was taken up. -/
theorem Handled.more (handled : Handled id session event (some call) first further)
    (h : World.Sound world (call :: calls)) (lt : id < world.activations.length)
    (own : (world.activation id).session = session) :
    Handled id session event (world.chance call).progress.rest.head? first
      (further ++ [world.chance call]) := by
  obtain ⟨released, pays, gate, keeps⟩ := handled
  obtain ⟨more, same⟩ := pays.more h lt own
  refine ⟨released, more, gate, fun other mem => ?_⟩
  rcases List.mem_append.mp mem with old | new
  · exact keeps other old
  · exact List.mem_singleton.mp new ▸ same

end

/-! ## Runs -/

namespace World
variable {id : ActivationId} {event : Event} {call : Call} {calls : List Call} {world : World}

/-- A publication that waits behind a closed barrier does nothing. -/
theorem waits_idle {waiting : List (Subscription Listener)}
    (closed : (world.activation id).barrier = .replaying) :
    world.chance (.publish (.delivering ⟨event, some (.activation id .arriving), waiting⟩)) =
      ⟨world, world,
        .pending (.publish (.delivering ⟨event, some (.activation id .arriving), waiting⟩))⟩ := by
  simp only [chance, World.poll, pollPublish, pollListener, closed]

/-- One that finds the barrier abandoned passes by. -/
theorem waits_pass {waiting : List (Subscription Listener)}
    (h : Sound world
      (.publish (.delivering ⟨event, some (.activation id .arriving), waiting⟩) :: calls))
    (abandoned : (world.activation id).barrier = .abandoned) :
    let chance := world.chance
      (.publish (.delivering ⟨event, some (.activation id .arriving), waiting⟩))
    chance.Leaves id ∧ ∀ next ∈ chance.progress.rest, next.Done id := by
  have onward := chance_onward (h.lt_of_ids List.mem_cons_self) h h.comes_once (.pass abandoned)
    (pollListener_abandoned abandoned event)
  exact ⟨onward.leaves, onward.goes _ rfl⟩

end World

theorem Becomes.more {id : ActivationId} {session : SessionId} {event : Event} {call : Call}
    {chances : List WorldChance} {world : World} {calls : List Call}
    (becomes : Becomes id session event (some call) chances)
    (h : World.Sound world (call :: calls)) (lt : id < world.activations.length)
    (own : (world.activation id).session = session) :
    Becomes id session event (world.chance call).progress.rest.head?
      (chances ++ [world.chance call]) := by
  subst own
  cases becomes with
  | waits there idle =>
    obtain ⟨waiting, rfl⟩ := there
    cases barrier : (world.activation id).barrier with
    | replaying =>
      rw [World.waits_idle barrier]
      refine .waits ⟨waiting, rfl⟩ fun other mem => ?_
      rcases List.mem_append.mp mem with old | new
      · exact idle other old
      · rw [List.mem_singleton.mp new]
        exact ⟨barrier, rfl⟩
    | abandoned =>
      obtain ⟨leaves, done⟩ := World.waits_pass h barrier
      refine .abandoned idle barrier (fun next hn => done next (Progress.mem_rest_head?.mp hn)) ?_
      exact fun other mem => List.mem_singleton.mp mem ▸ leaves
    | «open» => exact .handled idle (.of_first h barrier)
  | @abandoned _ front first further idle given done leaves =>
    obtain ⟨more, later⟩ := World.done_poll h lt (done call rfl)
    have all : ∀ other ∈ (first :: further) ++ [world.chance call], other.Leaves id := by
      intro other mem
      rcases List.mem_append.mp mem with old | new
      · exact leaves other old
      · exact List.mem_singleton.mp new ▸ more
    rw [List.append_assoc]
    exact .abandoned idle given (fun next hn => later next (Progress.mem_rest_head?.mp hn)) all
  | handled idle handled =>
    rw [List.append_assoc]
    exact .handled idle (handled.more h lt rfl)

namespace World

theorem becomes_follows (id : ActivationId) (event : Event)
    (own : SessionId × DocumentFilter × GateId × CollectionId) :
    World.machine.Follows World.chances
      (fun world calls => Sound world calls ∧ id < world.activations.length ∧
        (world.activation id).belongings = own)
      (fun _ => Becomes id own.1 event) where
  own h becomes := becomes.more h.1 h.2.1 (congrArg Prod.fst h.2.2)
  poll _ becomes := becomes
  drop _ becomes := becomes
  move _ _ becomes := becomes

/-- **What becomes of an event that waits**, in every run that does not give its publication up. -/
theorem becomes_run {work : Work World Call CallResult} {number : Nat} {id : ActivationId}
    {event : Event} (h : Sound work.state work.calls) (numbered : work.Numbered)
    (waits : ∃ call ∈ work.call? number, call.Waits id event)
    {later : List (Action WorldRequest WorldMove)}
    (kept : World.machine.KeepsUp number work later) :
    Becomes id (work.state.activation id).session event
      ((World.machine.run work later).call? number)
      (Machine.notesOf number (World.machine.chronicle World.chances work later)) := by
  obtain ⟨call, found, there⟩ := waits
  have lt : id < work.state.activations.length := by
    obtain ⟨waiting, rfl⟩ := there
    have mem : Call.publish _ ∈ work.calls := List.mem_map_of_mem (Work.mem_of_call? found)
    exact h.orderly.ids_lt _ mem id List.mem_cons_self
  have starts : Becomes id (work.state.activation id).session event (work.call? number) [] := by
    rw [found]
    exact .waits there (fun _ mem => absurd mem List.not_mem_nil)
  exact (becomes_follows id event _).run (belongings_tells id _).keeps ⟨h, lt, rfl⟩ numbered
    (numbered.lt_started found) starts kept

end World
end EngineSync
