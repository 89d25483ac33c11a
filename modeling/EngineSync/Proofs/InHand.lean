import EngineSync.Proofs.Copies
import EngineSync.Proofs.Waiting

/-!
# Documents in the order in which they are taken up

Publications that wait at a barrier are taken up in whatever order they get their chances once it is
open.  From then on their documents stand in line: whoever takes up an event goes on to the lane of
its document in the same chance, so nobody is between the barrier and the lanes when somebody else
gets a chance, and the lanes keep the order.  What the session was asked to do with a document and
what is still in hand, put in this order, are the open documents and the events that were taken up
(`World.InLine`).
-/
namespace EngineSync

/-- The document of an activation that its listener is at work on. -/
def ListenerCall.inHand (id : ActivationId) : ListenerCall → List Forwarding
  | .activation id' (.forwarding forwarding) => if id' = id then [forwarding] else []
  | _ => []

/-- The document of an activation that a publication has in hand. -/
def Call.inHand (id : ActivationId) : Call → List Forwarding
  | .publish (.delivering ⟨_, some listener, _⟩) => listener.inHand id
  | _ => []

/-- A call that has a document in hand delivers an event, and its listener is at work on it. -/
theorem Call.mem_inHand {id : ActivationId} {call : Call} {forwarding : Forwarding} :
    forwarding ∈ call.inHand id ↔ ∃ event waiting, call =
      .publish (.delivering ⟨event, some (.activation id (.forwarding forwarding)), waiting⟩) := by
  constructor
  · intro mem
    match call with
    | .publish (.delivering ⟨event, some (.activation id' (.forwarding forwarding')), waiting⟩) =>
      rw [Call.inHand, ListenerCall.inHand] at mem
      split at mem
      · next here => exact ⟨event, waiting, by rw [here, List.mem_singleton.mp mem]⟩
      · cases mem
  · rintro ⟨event, waiting, rfl⟩
    simp [Call.inHand, ListenerCall.inHand]

/-! ## Nobody stops between the barrier and the lanes -/

namespace World
variable {world world' : World} {call : Call} {calls rest : List Call} {history : List WorldNote}
  {id id' : ActivationId} {notes : List WorldNote} {progress : Progress Call CallResult}
  {base : List ProviderKind} {docs : List Document} {event : Event} {events : List Event}
  {listener : ListenerCall}

/-- A call is not between the barrier and the lanes. -/
def Halted (id : ActivationId) (call : Call) : Prop :=
  ∀ forwarding ∈ call.inHand id, forwarding.stage ≠ .arriving

theorem pollForwarding_placed {forwarding : Forwarding}
    (pending : (world.pollForwarding id' forwarding).2 = .pending listener) :
    ∀ next ∈ listener.inHand id, next.stage ≠ .arriving := by
  unfold pollForwarding at pending
  rcases polled : (world.sync id').poll forwarding with ⟨sync, forwarding' | result⟩
  · rw [polled] at pending
    cases pending
    intro next mem
    rw [ListenerCall.inHand] at mem
    split at mem
    · rw [List.mem_singleton.mp mem]
      exact Sync.poll_placed (by rw [polled])
    · cases mem
  · rw [polled] at pending
    cases pending

theorem inHand_pollRouting {route : RouteCall}
    (pending : (world.pollRouting id' route).2 = .pending listener) : listener.inHand id = [] := by
  unfold pollRouting at pending
  rcases routed : (world.activation id').router.poll world.env route with ⟨env, route' | result⟩
  · rw [routed] at pending
    cases pending
    rfl
  · rw [routed] at pending
    cases pending

theorem pollListener_placed {before : ListenerCall}
    (pending : (world.pollListener event before).2 = .pending listener) :
    ∀ next ∈ listener.inHand id, next.stage ≠ .arriving := by
  have routing {world : World} {id' : ActivationId} {route : RouteCall}
      (pending : (world.pollRouting id' route).2 = .pending listener) :
      ∀ next ∈ listener.inHand id, next.stage ≠ .arriving := by
    rw [inHand_pollRouting pending]
    exact List.forall_mem_nil _
  match before with
  | .activation id' .arriving =>
    cases barrier : (world.activation id').barrier with
    | replaying =>
      simp only [pollListener, barrier] at pending
      cases pending
      exact List.forall_mem_nil _
    | abandoned =>
      simp only [pollListener, barrier] at pending
      cases pending
    | «open» =>
      simp only [pollListener, barrier] at pending
      cases event with
      | opened doc | changed doc | closed doc => exact pollForwarding_placed pending
      | configuration change => exact routing pending
  | .activation id' (.forwarding forwarding) => exact pollForwarding_placed pending
  | .activation id' (.routing route) => exact routing pending
  | .outside number =>
    simp only [pollListener] at pending
    split at pending
    · cases pending
      exact List.forall_mem_nil _
    · cases pending

theorem deliver_halted {waiting : List (Subscription Listener)}
    (pending : (world.deliver event waiting).2 = .pending call) : Halted id call := by
  induction waiting generalizing world with
  | nil => cases pending
  | cons next waiting ih =>
    unfold deliver at pending
    rcases polled : (world.startListener next.listener).1.pollListener event
      (world.startListener next.listener).2 with ⟨after, listener | failure | ⟨⟩⟩
    · simp only [polled] at pending
      cases pending
      exact pollListener_placed (by rw [polled])
    · simp only [polled] at pending
      cases pending
    · simp only [polled] at pending
      exact ih pending

theorem pollPublish_halted {stage : PublishStage}
    (pending : (world.pollPublish stage).2 = .pending call) : Halted id call := by
  match stage with
  | .arriving event | .delivering ⟨event, none, waiting⟩ => exact deliver_halted pending
  | .delivering ⟨event, some listener, waiting⟩ =>
    unfold pollPublish at pending
    rcases polled : world.pollListener event listener with ⟨after, listener' | failure | ⟨⟩⟩
    · simp only [polled] at pending
      cases pending
      exact pollListener_placed (by rw [polled])
    · simp only [polled] at pending
      cases pending
    · simp only [polled] at pending
      exact deliver_halted pending

/-- A call that activates goes on doing so. -/
theorem activate_hop {name : String} {stage : ActivateStage}
    (hop : Hop world (.activate name stage) notes world' progress) :
    ∀ next ∈ progress.rest, ∃ stage', next = .activate name stage' := by
  intro next mem
  cases hop with
  | refused | rejected | ready | failed => cases mem
  | began | subscribed | replay =>
    rw [List.mem_singleton.mp mem]
    exact ⟨_, rfl⟩

/-- **Nobody stops between the barrier and the lanes**: a chance that takes up an event goes on to
the lane of its document. -/
theorem poll_halted (tidy : world.env.Tidy) (call : Call) :
    ∀ next ∈ (world.poll call).2.rest, Halted id next := by
  intro next mem
  have pending := Progress.eq_pending mem
  cases call with
  | activate name stage =>
    obtain ⟨stage', rfl⟩ := (poll_hops tidy (.activate name stage)).carries
      (fun world rest => ∀ next ∈ rest, ∃ stage, next = .activate name stage)
      (fun active hop next mem => by
        obtain ⟨stage, rfl⟩ := active _ List.mem_cons_self
        exact activate_hop hop next mem)
      (fun next mem => ⟨stage, List.mem_singleton.mp mem⟩) next mem
    exact nofun
  | publish stage => exact pollPublish_halted pending
  | sync id' asked =>
    rw [World.poll, Progress.rest_map] at mem
    obtain ⟨asked', -, rfl⟩ := List.mem_map.mp mem
    exact List.forall_mem_nil _

/-! ## The line -/

/-- The documents that the listener of an activation is at work on, in any order. -/
def held (id : ActivationId) (calls : List Call) : List Forwarding :=
  calls.flatMap (Call.inHand id)

/-- The barrier is open, and what the session was asked to do with a document and what is in hand,
put in a line, are the open documents and the events that were taken up. -/
structure InLine (id : ActivationId) (docs : List Document) (events : List Event) (world : World)
    (calls : List Call) : Prop where
  released : (world.activation id).barrier = .open
  line : ∃ queue, queue.Perm (held id calls) ∧
    Sync.Mirrors (outlook docs events) (world.sync id) queue

/-- Nobody asks the session of an activation for documents directly. -/
def Indirect (id : ActivationId) (calls : List Call) : Prop :=
  ∀ call ∈ calls, ∀ asked, call ≠ .sync id asked

/-- Nothing was taken up as long as the barrier is closed, and then what was taken up stands in
line; or the session was ended. -/
def LinesUp (id : ActivationId) (docs : List Document) (events : List Event) (world : World)
    (calls : List Call) : Prop :=
  Ended id world ∨ Indirect id calls ∧
    ((world.activation id).barrier = .replaying ∧ events = [] ∨ InLine id docs events world calls)

/-- What is in hand is still to come. -/
theorem mem_backlog_of_held {forwarding : Forwarding} (mem : forwarding ∈ held id calls) :
    forwarding ∈ backlog id calls := by
  obtain ⟨call, there, holds⟩ := List.mem_flatMap.mp mem
  obtain ⟨event, waiting, rfl⟩ := Call.mem_inHand.mp holds
  refine List.mem_flatMap.mpr ⟨_, there, List.mem_append_left _ ?_⟩
  simp [ListenerCall.forwardings]

/-- Only a listener past the barrier has a document in hand. -/
theorem held_closed (sound : Sound world calls) (closed : (world.activation id).barrier ≠ .open) :
    held id calls = [] := by
  refine List.eq_nil_iff_forall_not_mem.mpr fun forwarding mem => closed ?_
  obtain ⟨call, there, holds⟩ := List.mem_flatMap.mp mem
  obtain ⟨event, waiting, rfl⟩ := Call.mem_inHand.mp holds
  exact sound.orderly.working id (List.mem_filterMap.mpr ⟨_, there, rfl⟩)

theorem held_delivered {waiting : List (Subscription Listener)}
    (outcome : Progress ListenerCall (Except EngineFailure Unit)) :
    held id (delivered event waiting outcome).rest =
      outcome.rest.flatMap (ListenerCall.inHand id) := by
  rcases outcome with listener | failure | ⟨⟩ <;> simp [delivered, held, Call.inHand]

theorem held_append (id : ActivationId) (calls calls' : List Call) :
    held id (calls ++ calls') = held id calls ++ held id calls' :=
  List.flatMap_append

/-- Whoever comes has nothing in hand. -/
theorem inHand_accept {request : WorldRequest} (accepted : world.accept request = some call) :
    call.inHand id = [] := by
  cases request with
  | activate name | publish event =>
    cases accepted
    rfl
  | sync id' request =>
    simp only [World.accept, Option.ite_none_right_eq_some, Option.some.injEq] at accepted
    rw [← accepted.2]
    rfl

theorem inHand_apart (apart : ∀ event forwarding waiting, call ≠
      .publish (.delivering ⟨event, some (.activation id (.forwarding forwarding)), waiting⟩)) :
    call.inHand id = [] := by
  refine List.eq_nil_iff_forall_not_mem.mpr fun forwarding mem => ?_
  obtain ⟨event, waiting, same⟩ := Call.mem_inHand.mp mem
  exact apart event forwarding waiting same

/-- An event is taken up behind the barrier. -/
theorem taken_released (hop : Hop world call notes world' progress) (taken : takenFor id notes ≠ []) :
    (world.activation id).barrier = .open := by
  cases hop with
  | listen hop =>
    cases hop with
    | @take id' released =>
      by_cases here : id' = id
      · exact here ▸ released
      · exact absurd (by simp [takenFor, WorldNote.taken?, here]) taken
    | route id' route => exact absurd (staged_untaken world id id' (.routing route)) taken
    | _ => exact absurd rfl taken
  | _ => exact absurd rfl taken

/-- **What is taken up is in hand**, and nothing else comes there. -/
theorem held_hop (hop : Hop world call notes world' progress)
    (apart : ∀ event forwarding waiting, call ≠
      .publish (.delivering ⟨event, some (.activation id (.forwarding forwarding)), waiting⟩)) :
    held id progress.rest = (takenFor id notes).filterMap Event.forwarding? := by
  cases hop with
  | refused | began | rejected | subscribed | replay | ready | failed | publish | finish => rfl
  | call event next waiting =>
    unfold startListener
    cases next.listener <;> rfl
  | @listen event listener waiting _ _ outcome hop =>
    rw [held_delivered]
    cases hop with
    | pass | answered => rfl
    | @take id' released =>
      by_cases here : id' = id <;> cases event <;>
        simp [takenFor, WorldNote.taken?, here, ListenerStage.taking, ListenerCall.inHand,
          Event.forwarding?]
    | forward id' forwarding =>
      have other : id' ≠ id := fun same => apart event forwarding waiting (by rw [same])
      refine List.flatMap_eq_nil_iff.mpr fun listener mem => ?_
      obtain ⟨stage, rfl, -⟩ := Sound.pollForwarding_pending (Progress.eq_pending mem)
      cases stage <;> simp [ListenerCall.inHand, other]
    | route id' route =>
      have none : takenFor id (world.switching id' route) = [] :=
        staged_untaken world id id' (.routing route)
      rw [none]
      exact List.flatMap_eq_nil_iff.mpr fun listener mem =>
        inHand_pollRouting (Progress.eq_pending mem)
  | sync id' asked =>
    simp only [World.poll, Progress.rest_map, held, List.flatMap_map]
    simp [Call.inHand, takenFor]

/-! ## Steps -/

theorem held_pollForwarding {waiting : List (Subscription Listener)} (forwarding : Forwarding) :
    held id (delivered event waiting (world.pollForwarding id forwarding).2).rest =
      ((world.sync id).poll forwarding).2.rest := by
  rw [held_delivered]
  unfold pollForwarding
  rcases (world.sync id).poll forwarding with ⟨sync, forwarding' | result⟩
  · simp [ListenerCall.inHand]
  · rfl

/-- The lanes keep the line. -/
theorem InLine.forward {waiting : List (Subscription Listener)} {forwarding : Forwarding}
    (h : InLine id docs events world
      (.publish (.delivering ⟨event, some (.activation id (.forwarding forwarding)), waiting⟩) ::
        calls))
    (known : Known base world
      (.publish (.delivering ⟨event, some (.activation id (.forwarding forwarding)), waiting⟩) ::
        calls) history)
    (halted : ∀ other ∈ calls, Halted id other) (up : ¬Ended id world) :
    InLine id docs events (world.pollForwarding id forwarding).1
      ((delivered event waiting (world.pollForwarding id forwarding).2).rest ++ calls) := by
  have lt : id < world.activations.length := known.sound.lt_of_ids List.mem_cons_self
  obtain ⟨queue, same, mirrors⟩ := h.line
  have own : held id (.publish (.delivering
      ⟨event, some (.activation id (.forwarding forwarding)), waiting⟩) :: calls) =
        forwarding :: held id calls := by
    simp [held, Call.inHand, ListenerCall.inHand]
  rw [own] at same
  obtain ⟨before, behind, rfl⟩ := List.append_of_mem (same.mem_iff.mpr List.mem_cons_self)
  have others : (before ++ behind).Perm (held id calls) :=
    (List.perm_middle.symm.trans same).cons_inv
  have early {other : Forwarding} (mem : other ∈ before) : other ∈ held id calls :=
    others.mem_iff.mp (List.mem_append_left _ mem)
  have lanes := known.laned id
  have places : (Call.publish (.delivering
      ⟨event, some (.activation id (.forwarding forwarding)), waiting⟩)).places id =
        placesOf [forwarding] := if_pos rfl
  unfold Laned at lanes
  rw [List.flatMap_cons, places] at lanes
  -- whoever is earlier in the line waits for the lanes already: nobody is between them and the barrier
  have stand : ∀ other ∈ before, ∀ p ∈ other.place?, p ∈ calls.flatMap (Call.places id) :=
    fun other mem p place => mem_places (mem_backlog_of_held (early mem)) place
  have turn : ∀ other ∈ before, other.stage ≠ .arriving := fun other mem => by
    obtain ⟨call, there, holds⟩ := List.mem_flatMap.mp (early mem)
    exact halted call there other holds
  have polled := (mirrors.poll lanes stand (fun _ => turn) (Bool.not_eq_true _ ▸ up)).1
  have barrier := (works_forwarding world id forwarding).calm.barrier id
  refine ⟨barrier.trans h.released, ⟨_, ?_, sync_pollForwarding lt forwarding ▸ polled⟩⟩
  rw [held_append, held_pollForwarding, List.append_assoc]
  exact (List.perm_append_comm_assoc _ _ _).trans (others.append_left _)

/-- Who takes up an event goes to the end of the line. -/
theorem InLine.take (h : InLine id docs events world (call :: calls))
    (unmoved : Unmoved id world world') (nothing : call.inHand id = [])
    (comes : held id rest = (takenFor id notes).filterMap Event.forwarding?) :
    InLine id docs (events ++ takenFor id notes) world' (rest ++ calls) := by
  obtain ⟨queue, same, mirrors⟩ := h.line
  have longer : Sync.Mirrors (outlook docs (events ++ takenFor id notes)) (world.sync id)
      (queue ++ (takenFor id notes).filterMap Event.forwarding?) := by
    rw [outlook, List.filterMap_append, ← List.append_assoc]
    refine mirrors.append fun forwarding mem => ?_
    obtain ⟨event, -, brings⟩ := List.mem_filterMap.mp mem
    exact (Event.document_of_forwarding brings).2
  refine ⟨unmoved.activation ▸ h.released, ⟨_, ?_, unmoved.mirrors longer⟩⟩
  rw [held, List.flatMap_cons, nothing, List.nil_append] at same
  rw [held_append, comes]
  exact (same.append_right _).trans List.perm_append_comm

/-- The open documents have arrived, and nobody has taken up anything. -/
theorem Known.inLine {name : String} {settings : Settings} {replay : Replay} {sync : Sync}
    {count : Nat}
    (known : Known base world (.activate name (.replaying id settings replay) :: calls) history)
    (noted : .subscribed id docs ∈ history)
    (polled : (world.sync id).pollReplay replay = (sync, .finished (.ok count))) :
    Ended id ((world.putSync id sync).finishActivate name id settings replay.total) ∨
      InLine id docs [] ((world.putSync id sync).finishActivate name id settings replay.total) calls := by
  have closed := (known.sound.orderly.replaying id List.mem_cons_self).1
  have nothing : held id (.activate name (.replaying id settings replay) :: calls) = [] :=
    held_closed known.sound (by rw [closed]; exact Barrier.noConfusion)
  have none : held id calls = [] := (List.append_eq_nil_iff.mp nothing).2
  refine (known.opened noted polled).imp_right fun ⟨released, asked⟩ =>
    ⟨released, ⟨[], none ▸ .nil, .nil, fun uri => ?_⟩⟩
  rw [outlook, List.filterMap_nil, List.append_nil]
  exact (List.append_nil _).trans (asked uri)

/-- A step of the call that replays the documents: nobody has taken up anything. -/
theorem Known.replays {name : String} {settings : Settings} {replay : Replay}
    (known : Known base world (.activate name (.replaying id settings replay) :: calls) history)
    (noted : .subscribed id docs ∈ history)
    (hop : Hop world (.activate name (.replaying id settings replay)) notes world' progress) :
    Ended id world' ∨ (world'.activation id).barrier = .replaying ∧ takenFor id notes = [] ∨
      InLine id docs (takenFor id notes) world' (progress.rest ++ calls) := by
  cases hop with
  | replay polled =>
    have closed := (known.sound.orderly.replaying id List.mem_cons_self).1
    have barrier := (works_pollReplay polled).calm.barrier id
    exact .inr (.inl ⟨barrier.trans closed, rfl⟩)
  | ready polled => exact (known.inLine noted polled).imp_right .inr
  | failed polled =>
    have lt : id < world.activations.length := known.sound.lt_of_ids List.mem_cons_self
    exact .inl (.abandon (known.sound.works lt (works_pollReplay polled)))

theorem indirect_hop (indirect : ∀ asked, call ≠ .sync id asked)
    (hop : Hop world call notes world' progress) : Indirect id progress.rest := by
  intro next mem asked
  cases hop with
  | refused | rejected | ready | failed | finish => cases mem
  | began | subscribed | replay | publish | call =>
    rw [List.mem_singleton.mp mem]
    exact nofun
  | @listen event listener waiting _ _ outcome hop =>
    rcases outcome with listener' | failure | ⟨⟩ <;> cases mem
    · exact nofun
    · next mem => cases mem
    · exact nofun
    · next mem => cases mem
  | sync id' call =>
    rw [World.poll, Progress.rest_map] at mem
    obtain ⟨call', -, rfl⟩ := List.mem_map.mp mem
    rintro ⟨⟩
    exact indirect call rfl

/-- **A step keeps the line.** -/
theorem LinesUp.hop (h : LinesUp id docs events world (call :: calls))
    (known : Known base world (call :: calls) history) (noted : .subscribed id docs ∈ history)
    (halted : ∀ other ∈ calls, Halted id other) (hop : Hop world call notes world' progress) :
    LinesUp id docs (events ++ takenFor id notes) world' (progress.rest ++ calls) := by
  have there := known.noted_lt id docs noted
  by_cases up : Ended id world
  · exact .inl (up.hop known.sound there hop)
  obtain ⟨indirect, lines⟩ := h.resolve_left up
  have direct := indirect call List.mem_cons_self
  have indirect' : Indirect id (progress.rest ++ calls) := fun next mem =>
    (List.mem_append.mp mem).elim (indirect_hop direct hop next)
      fun old => indirect next (List.mem_cons_of_mem _ old)
  -- the line moves with the listener of the activation, and it begins with the end of the replay
  by_cases working : ∃ event forwarding waiting, call =
      .publish (.delivering ⟨event, some (.activation id (.forwarding forwarding)), waiting⟩)
  · obtain ⟨event, forwarding, waiting, rfl⟩ := working
    have released := known.sound.orderly.working id List.mem_cons_self
    rcases lines with ⟨closed, -⟩ | inLine
    · rw [released] at closed
      cases closed
    · cases hop with
      | listen hop =>
        cases hop with
        | forward =>
          refine .inr ⟨indirect', .inr ?_⟩
          have same : events ++ takenFor id [] = events := List.append_nil events
          rw [same]
          exact inLine.forward known halted up
  have apart : ∀ event forwarding waiting, call ≠ .publish (.delivering
      ⟨event, some (.activation id (.forwarding forwarding)), waiting⟩) :=
    fun event forwarding waiting same => working ⟨event, forwarding, waiting, same⟩
  by_cases still : call.replaying? = some id
  · obtain ⟨name, settings, replay, rfl⟩ := Call.of_replaying still
    have closed := (known.sound.orderly.replaying id List.mem_cons_self).1
    rcases lines with ⟨-, rfl⟩ | inLine
    · exact (known.replays noted hop).imp_right fun lines => ⟨indirect', lines⟩
    · rw [inLine.released] at closed
      cases closed
  · refine (known.sound.passes_apart there direct still apart hop).imp_right fun unmoved =>
      ⟨indirect', ?_⟩
    rcases lines with ⟨closed, rfl⟩ | inLine
    · have none : takenFor id notes = [] := by
        by_contra taken
        rw [taken_released hop taken] at closed
        cases closed
      exact .inl ⟨unmoved.activation ▸ closed, none⟩
    · exact .inr (inLine.take unmoved (inHand_apart apart) (held_hop hop apart))

/-- **A chance keeps the line**, and adds what was taken up. -/
theorem LinesUp.poll (h : LinesUp id docs events world (call :: calls))
    (known : Known base world (call :: calls) history) (noted : .subscribed id docs ∈ history)
    (halted : ∀ other ∈ calls, Halted id other) :
    LinesUp id docs (events ++ takenFor id (world.notes call)) (world.poll call).1
      ((world.poll call).2.rest ++ calls) := by
  refine ((poll_hops known.sound.tidy call).keeps
    (fun world rest notes => Known base world (rest ++ calls) (history ++ notes) ∧
      LinesUp id docs (events ++ takenFor id notes) world (rest ++ calls))
    (fun {_ _ _ _ _ notes} ⟨known, lines⟩ hop => ?_)
    (⟨by rwa [List.append_nil], by rwa [takenFor, List.filterMap_nil, List.append_nil]⟩ :
      Known base world ([call] ++ calls) (history ++ []) ∧
        LinesUp id docs (events ++ takenFor id []) world ([call] ++ calls))).2
  rw [← List.append_assoc history, takenFor_append, ← List.append_assoc events]
  exact ⟨known.hop hop, lines.hop known (List.mem_append_left notes noted) halted hop⟩

/-! ## Actions -/

/-- Publications are not given up, and the session of an activation is asked for documents in no
other way. -/
def Patient (id : ActivationId) (work : Work World Call CallResult) :
    Action WorldRequest WorldMove → Prop
  | .start (.sync id' _) => id' ≠ id
  | .start _ => True
  | .poll _ => True
  | .cancel place => ∀ job ∈ work.jobs[place]?, job.call.isPublication = false
  | .move _ => True

instance (id : ActivationId) (work : Work World Call CallResult) :
    (action : Action WorldRequest WorldMove) → Decidable (Patient id work action)
  | .start (.sync id' _) => inferInstanceAs (Decidable (id' ≠ id))
  | .start (.activate _) | .start (.publish _) | .poll _ | .move _ => isTrue trivial
  | .cancel place => inferInstanceAs (Decidable
    (∀ job ∈ work.jobs[place]?, job.call.isPublication = false))

/-- Every action of a run is patient. -/
def Waited (id : ActivationId) (work : Work World Call CallResult) :
    List (Action WorldRequest WorldMove) → Prop
  | [] => True
  | action :: rest => Patient id work action ∧ Waited id (World.machine.perform work action) rest

instance decidableWaited (id : ActivationId) : (work : Work World Call CallResult) →
    (actions : List (Action WorldRequest WorldMove)) → Decidable (Waited id work actions)
  | _, [] => isTrue trivial
  | work, action :: rest =>
    have := decidableWaited id (World.machine.perform work action) rest
    inferInstanceAs (Decidable (Patient id work action ∧ _))

variable {work : Work World Call CallResult}

/-- Nobody is ever between the barrier and the lanes when somebody else could look. -/
theorem halted_keeps (id : ActivationId) : World.machine.Keeps fun world calls =>
    Sound world calls ∧ ∀ call ∈ calls, Halted id call where
  perm hp h := ⟨h.1.perm hp, fun call mem => h.2 call (hp.mem_iff.mpr mem)⟩
  accept {world calls request call} h accepted := by
    refine ⟨h.1.accepts accepted, fun next mem => ?_⟩
    rcases List.mem_cons.mp mem with rfl | old
    · rw [Halted, inHand_accept accepted]
      exact nofun
    · exact h.2 next old
  poll {world call calls} h := by
    refine ⟨Sound.tells.keeps.poll h.1, fun next mem => ?_⟩
    rcases List.mem_append.mp mem with own | other
    · exact poll_halted h.1.tidy call next own
    · exact h.2 next (List.mem_cons_of_mem _ other)
  drop h := ⟨h.1.cancels, fun next mem => h.2 next (List.mem_cons_of_mem _ mem)⟩
  move way h := ⟨h.1.surrounds way, h.2⟩

theorem LinesUp.perm (h : LinesUp id docs events world calls) {calls' : List Call}
    (perm : calls.Perm calls') : LinesUp id docs events world calls' := by
  refine h.imp_right fun ⟨indirect, lines⟩ =>
    ⟨fun call mem => indirect call (perm.mem_iff.mpr mem), lines.imp_right fun inLine => ?_⟩
  obtain ⟨queue, same, mirrors⟩ := inLine.line
  exact ⟨inLine.released, ⟨queue, same.trans (perm.flatMap_right _), mirrors⟩⟩

/-- Whoever has nothing in hand may come and go. -/
theorem LinesUp.unmoved (h : LinesUp id docs events world calls) {calls' : List Call}
    (up : ¬Ended id world) (passes : Passes id world world') (same : held id calls' = held id calls)
    (indirect : Indirect id calls → Indirect id calls') : LinesUp id docs events world' calls' := by
  obtain ⟨indirect', lines⟩ := h.resolve_left up
  refine passes.imp_right fun unmoved => ⟨indirect indirect', ?_⟩
  rw [unmoved.activation]
  refine lines.imp_right fun inLine => ?_
  obtain ⟨queue, perm, mirrors⟩ := inLine.line
  exact ⟨unmoved.activation ▸ inLine.released, ⟨queue, same ▸ perm, unmoved.mirrors mirrors⟩⟩

theorem LinesUp.accept (h : LinesUp id docs events world calls) {request : WorldRequest}
    (accepted : world.accept request = some call) (direct : ∀ asked, call ≠ .sync id asked) :
    LinesUp id docs events world (call :: calls) := by
  by_cases up : Ended id world
  · exact .inl up
  · refine h.unmoved up (.inr (.refl id world)) ?_ fun indirect next mem => ?_
    · rw [held, List.flatMap_cons, inHand_accept accepted, List.nil_append, held]
    · rcases List.mem_cons.mp mem with rfl | old
      · exact direct
      · exact indirect next old

/-- A call that publishes nothing is given up. -/
theorem LinesUp.cancel (h : LinesUp id docs events world (call :: calls))
    (sound : Sound world (call :: calls)) (there : id < world.activations.length)
    (other : call.isPublication = false) : LinesUp id docs events (world.cancel call) calls := by
  by_cases up : Ended id world
  · exact .inl (up.cancel sound)
  · have direct := (h.resolve_left up).1 call List.mem_cons_self
    have idle : call.worksFor? ≠ some id := by
      match call with
      | .activate _ _ => exact (Option.some_ne_none id).symm
      | .publish _ => cases other
      | .sync id' asked => exact fun same => direct asked (by rw [Option.some.inj same])
    refine h.unmoved up (sound.passes_cancel there idle) ?_
      fun indirect next mem => indirect next (List.mem_cons_of_mem _ mem)
    have nothing : call.inHand id = [] := by
      match call with
      | .activate _ _ | .sync _ _ => rfl
      | .publish _ => cases other
    rw [held, held, List.flatMap_cons, nothing, List.nil_append]

/-- **An action keeps the line**, and adds what was taken up. -/
theorem LinesUp.perform (h : LinesUp id docs events work.state work.calls)
    (known : Known base work.state work.calls history) (noted : .subscribed id docs ∈ history)
    (halted : ∀ call ∈ work.calls, Halted id call) {action : Action WorldRequest WorldMove}
    (patient : Patient id work action) :
    LinesUp id docs
      (events ++ takenFor id ((Machine.told World.notes work action).map (·.2)))
      (World.machine.perform work action).state (World.machine.perform work action).calls := by
  have there := known.noted_lt id docs noted
  cases action with
  | start request =>
    simp only [Machine.told, List.map_nil, takenFor, List.filterMap_nil, List.append_nil]
    cases accepted : World.machine.accept work.state request with
    | none =>
      rw [Machine.perform_start_none accepted]
      exact h
    | some call =>
      have direct : ∀ asked, call ≠ .sync id asked := by
        rintro asked rfl
        cases request with
        | activate name | publish event => cases accepted
        | sync id' request =>
          simp only [World.machine, World.accept, Option.ite_none_right_eq_some,
            Option.some.injEq, Call.sync.injEq] at accepted
          exact patient accepted.2.1
      have added := (h.accept accepted direct).perm (List.perm_append_singleton call _).symm
      rw [Machine.perform_start accepted, Work.calls, List.map_append]
      exact added
  | poll place =>
    cases at_place : work.jobs[place]? with
    | none =>
      rw [Machine.perform_poll_none at_place]
      simpa [Machine.told, at_place, takenFor] using h
    | some job =>
      obtain ⟨jobs, jobs', split, rfl⟩ := Machine.split_at_place at_place
      have middle : work.calls.Perm (job.call :: (jobs.map (·.call) ++ jobs'.map (·.call))) :=
        calls_split split ▸ List.perm_middle
      have polled := (h.perm middle).poll ((known_tells base).machine.perm middle known) noted
        fun other mem => halted other (middle.mem_iff.mpr (List.mem_cons_of_mem _ mem))
      have shown : (Machine.told World.notes work
          (.poll jobs.length : Action WorldRequest WorldMove)).map (·.2) =
            work.state.notes job.call := by
        rw [Machine.told_poll split, List.map_map]
        simp [Function.comp_def]
      rw [shown, Machine.state_poll split, calls_poll split, List.append_assoc]
      exact polled.perm (List.perm_append_comm_assoc _ _ _)
  | cancel place =>
    simp only [Machine.told, List.map_nil, takenFor, List.filterMap_nil, List.append_nil]
    cases at_place : work.jobs[place]? with
    | none =>
      rw [Machine.perform_cancel_none at_place]
      exact h
    | some job =>
      obtain ⟨jobs, jobs', split, rfl⟩ := Machine.split_at_place at_place
      have middle : work.calls.Perm (job.call :: (jobs ++ jobs').map (·.call)) := by
        rw [calls_split split, List.map_append]
        exact List.perm_middle
      rw [Machine.perform_cancel split]
      exact (h.perm middle).cancel (known.sound.perm middle) there (patient job at_place)
  | move way =>
    simp only [Machine.told, List.map_nil, takenFor, List.filterMap_nil, List.append_nil]
    by_cases up : Ended id work.state
    · exact .inl (up.surround known.sound way)
    · exact h.unmoved up (known.sound.passes_surround there way) rfl fun indirect => indirect

/-- **A run keeps the line.** -/
theorem LinesUp.run (h : LinesUp id docs events work.state work.calls)
    (known : Known base work.state work.calls history) (noted : .subscribed id docs ∈ history)
    (halted : ∀ call ∈ work.calls, Halted id call) {actions : List (Action WorldRequest WorldMove)}
    (patient : Waited id work actions) :
    LinesUp id docs
      (events ++ takenFor id ((World.machine.chronicle World.notes work actions).map (·.2)))
      (World.machine.run work actions).state (World.machine.run work actions).calls := by
  induction actions generalizing work history events with
  | nil => simpa [Machine.chronicle, takenFor] using h
  | cons action rest ih =>
    have after := (known_tells base).machine.run known [action]
    have placed := ((halted_keeps id).perform ⟨known.sound, halted⟩ action).2
    have later := ih (h.perform known noted halted patient.1) after
      (List.mem_append_left _ noted) placed patient.2
    rw [Machine.chronicle, List.map_append, takenFor_append, ← List.append_assoc]
    exact later

end World
end EngineSync
