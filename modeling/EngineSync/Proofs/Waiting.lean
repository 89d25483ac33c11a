import EngineSync.Proofs.Records

/-!
# Events that wait

A publication that has come to a listener whose barrier is closed waits there.  Once the barrier
opens, its next chance takes the event up, and it never comes to that listener again; if the barrier
is abandoned, its next chance passes by.  Whatever the others do meanwhile, the event is taken up
once or never.  That it is taken up says no more than that the barrier is behind it; what is done for
it then is told in `EngineSync.Proofs.Handling`.
-/
namespace EngineSync

/-- The event that a listener of an activation takes up. -/
def WorldNote.taken? (id : ActivationId) : WorldNote → Option Event
  | .taken id' event => if id' = id then some event else none
  | _ => none

/-- The events that the listener of an activation takes up, in order. -/
def takenFor (id : ActivationId) (notes : List WorldNote) : List Event :=
  notes.filterMap (WorldNote.taken? id)

theorem takenFor_append (id : ActivationId) (notes notes' : List WorldNote) :
    takenFor id (notes ++ notes') = takenFor id notes ++ takenFor id notes' :=
  List.filterMap_append

namespace Call

/-- An event waits at the barrier of an activation. -/
def Waits (id : ActivationId) (event : Event) (call : Call) : Prop :=
  ∃ waiting, call = .publish (.delivering ⟨event, some (.activation id .arriving), waiting⟩)

/-- An event is past the listener of an activation, or past its barrier. -/
def Past (id : ActivationId) (call : Call) : Prop :=
  ∃ event current waiting, call = .publish (.delivering ⟨event, current, waiting⟩) ∧
    current ≠ some (.activation id .arriving) ∧ id ∉ audience waiting

end Call

namespace World

/-- An event waits at the barrier, or it is past it: taken up once if the barrier is open, and never
if it is abandoned. -/
def Fate (id : ActivationId) (event : Event) (world : World) (own : Option Call)
    (notes : List WorldNote) : Prop :=
  (∃ call ∈ own, call.Waits id event) ∧ takenFor id notes = [] ∨
    (∀ call ∈ own, call.Past id) ∧
      ((world.activation id).barrier = .open ∧ takenFor id notes = [event] ∨
        (world.activation id).barrier = .abandoned ∧ takenFor id notes = [])

variable {world world' : World} {id : ActivationId} {event : Event} {call : Call}
  {calls : List Call} {mine : Option Call} {notes notes' : List WorldNote}
  {progress : Progress Call CallResult}

/-! ## One step -/

theorem staged_untaken (world : World) (id id' : ActivationId) (stage : ListenerStage) :
    takenFor id (world.staged id' stage) = [] := by
  cases stage with
  | arriving | forwarding => rfl
  | routing call =>
    cases call with
    | arriving change =>
      show takenFor id (if change.switches then _ else _) = []
      split <;> rfl
    | applying => rfl

theorem taking_past (event : Event) :
    ListenerStage.taking event ≠ .arriving := by
  cases event <;> nofun

/-- A publication that is past a listener stays so whatever becomes of the one it is at. -/
theorem delivered_past {waiting : List (Subscription Listener)}
    {outcome : Progress ListenerCall (Except EngineFailure Unit)} (later : id ∉ audience waiting)
    (other : ∀ listener, outcome = .pending listener → listener ≠ .activation id .arriving) :
    ∀ next ∈ (delivered event waiting outcome).rest, next.Past id := by
  intro next hn
  rcases outcome with listener | failure | ⟨⟩
  · rw [List.mem_singleton.mp hn]
    exact ⟨event, some listener, waiting, rfl, fun same => other _ rfl (Option.some.inj same), later⟩
  · cases hn
  · rw [List.mem_singleton.mp hn]
    exact ⟨event, none, waiting, rfl, by simp, later⟩

/-- Past a listener, a publication stays past it and the listener takes up nothing. -/
theorem past_hop (past : call.Past id) (hop : Hop world call notes world' progress) :
    (∀ next ∈ progress.rest, next.Past id) ∧ takenFor id notes = [] := by
  obtain ⟨event, current, waiting, rfl, other, later⟩ := past
  cases hop with
  | call event next waiting =>
    refine ⟨fun next' hn => ?_, rfl⟩
    rw [List.mem_singleton.mp hn]
    refine ⟨event, _, waiting, rfl, fun same => later ?_, fun mem => later ?_⟩
    · unfold startListener at same
      cases listener : next.listener with
      | activation id' =>
        rw [listener] at same
        cases same
        exact List.mem_filterMap.mpr ⟨next, List.mem_cons_self, by rw [listener]; rfl⟩
      | outside number =>
        rw [listener] at same
        cases same
    · obtain ⟨sub, hs, found⟩ := List.mem_filterMap.mp mem
      exact List.mem_filterMap.mpr ⟨sub, List.mem_cons_of_mem _ hs, found⟩
  | listen hop =>
    cases hop with
    | pass | answered => exact ⟨delivered_past later nofun, rfl⟩
    | @take id' released =>
      have ne : id' ≠ id := fun same => other (by rw [same])
      refine ⟨delivered_past later fun listener same => ?_, ?_⟩
      · cases same
        exact fun here => ne (ListenerCall.activation.inj here).1
      · simp [takenFor, WorldNote.taken?, ne]
    | forward id' forwarding =>
      refine ⟨delivered_past later fun listener pending => ?_, rfl⟩
      obtain ⟨stage, rfl, further⟩ := Sound.pollForwarding_pending pending
      exact fun here => further (ListenerCall.activation.inj here).2
    | route id' route =>
      refine ⟨delivered_past later fun listener pending => ?_,
        staged_untaken world id id' (.routing route)⟩
      obtain ⟨stage, rfl, further⟩ := Sound.pollRouting_pending pending
      exact fun here => further (ListenerCall.activation.inj here).2
  | finish event => exact ⟨by simp, rfl⟩

/-- The publication itself gets a chance. -/
theorem Fate.own (h : Sound world (call :: calls)) (fate : Fate id event world (some call) notes)
    (hop : Hop world call notes' world' progress) :
    Fate id event world' progress.rest.head? (notes ++ notes') := by
  have only : ∀ next ∈ progress.rest.head?, next ∈ progress.rest :=
    fun next hn => Progress.mem_rest_head?.mp hn
  rcases fate with ⟨⟨_, he, waiting, rfl⟩, none⟩ | ⟨past, settled⟩
  · cases he
    have later := h.comes_once
    cases hop with
    | listen hop =>
      cases hop with
      | pass abandoned =>
        refine .inr ⟨fun next hn => ?_, .inr ?_⟩
        · exact delivered_past later (fun _ no => by cases no) next (only next hn)
        · exact ⟨abandoned, by rw [takenFor_append, none]; rfl⟩
      | take released =>
        refine .inr ⟨fun next hn => delivered_past later ?_ next (only next hn), .inl ?_⟩
        · intro listener same
          cases same
          exact fun here => taking_past event (ListenerCall.activation.inj here).2
        · exact ⟨released, by rw [takenFor_append, none]; simp [takenFor, WorldNote.taken?]⟩
  · obtain ⟨later, none⟩ := past_hop (past call rfl) hop
    refine .inr ⟨fun next hn => later next (only next hn), ?_⟩
    rw [takenFor_append, none, List.append_nil]
    have moved : (world.activation id).barrier ≠ .replaying := by
      rcases settled with ⟨state, -⟩ | ⟨state, -⟩ <;> rw [state] <;> nofun
    rw [h.settled_hop moved hop]
    exact settled

/-- Others leave the event where it is. -/
theorem Fate.other (fate : Fate id event world mine notes)
    (settled : (world.activation id).barrier ≠ .replaying →
      (world'.activation id).barrier = (world.activation id).barrier) :
    Fate id event world' mine notes := by
  rcases fate with waits | ⟨past, barrier⟩
  · exact .inl waits
  · refine .inr ⟨past, ?_⟩
    have moved : (world.activation id).barrier ≠ .replaying := by
      rcases barrier with ⟨state, -⟩ | ⟨state, -⟩ <;> rw [state] <;> nofun
    rw [settled moved]
    exact barrier

/-! ## Chances and runs -/

theorem past_poll (h : Sound world (call :: calls)) (past : call.Past id) :
    ∀ next ∈ (world.poll call).2.rest, next.Past id :=
  ((poll_hops h.tidy call).carries
    (fun world rest => Sound world (rest ++ calls) ∧ ∀ next ∈ rest, next.Past id)
    (fun {_ call _ _ _} kept hop =>
      ⟨kept.1.hop hop, (past_hop (kept.2 call List.mem_cons_self) hop).1⟩)
    ⟨h, fun _ hn => List.mem_singleton.mp hn ▸ past⟩).2

theorem fate_follows (id : ActivationId) (event : Event) :
    World.machine.Follows World.notes Sound (Fate id event) where
  own {_ call calls _} h fate :=
    ((poll_hops h.tidy call).keeps
      (fun world rest notes =>
        Sound world (rest ++ calls) ∧ Fate id event world rest.head? notes)
      (fun kept hop => ⟨kept.1.hop hop, kept.2.own kept.1 hop⟩) ⟨h, fate⟩).2
  poll {_ call calls mine notes} h fate :=
    ((poll_hops h.tidy call).carries
      (fun world rest => Sound world (rest ++ calls) ∧ Fate id event world mine notes)
      (fun kept hop =>
        ⟨kept.1.hop hop, kept.2.other fun moved => kept.1.settled_hop moved hop⟩)
      ⟨h, fate⟩).2
  drop h fate := fate.other fun moved => h.settled_cancel moved
  move way h fate := fate.other fun _ => lasting_barrier.surround h id way

/-- Once the barrier was moved, the next chance takes a publication past it. -/
theorem waits_poll (h : Sound world (call :: calls)) (waits : call.Waits id event)
    (moved : (world.activation id).barrier ≠ .replaying) :
    ∀ next ∈ (world.poll call).2.rest, next.Past id := by
  obtain ⟨waiting, rfl⟩ := waits
  have later := h.comes_once
  cases barrier : (world.activation id).barrier with
  | replaying => exact absurd barrier moved
  | «open» =>
    -- the event is taken up, so that it does not wait any more
    have fate := (fate_follows id event).own h
      (.inl ⟨⟨_, rfl, waiting, rfl⟩, rfl⟩ : Fate id event world _ [])
    rcases fate with ⟨-, none⟩ | ⟨past, -⟩
    · have taken : takenFor id ([] ++ world.notes
          (.publish (.delivering ⟨event, some (.activation id .arriving), waiting⟩))) ≠ [] := by
        simp [takenFor, World.notes, takings, takenBy, barrier, WorldNote.taken?]
      exact absurd none taken
    · exact fun next hn => past next (Progress.mem_rest_head?.mpr hn)
  | abandoned =>
    have passes : world.poll
        (.publish (.delivering ⟨event, some (.activation id .arriving), waiting⟩)) =
          world.poll (.publish (.delivering ⟨event, none, waiting⟩)) := by
      simp [World.poll, pollPublish, pollListener, barrier]
    rw [passes]
    exact past_poll (h.hop (.listen (.pass barrier))) ⟨event, none, waiting, rfl, by simp, later⟩

end World
end EngineSync
