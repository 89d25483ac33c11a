import EngineSync.Proofs.Replays

/-!
# Barriers

The barrier of an activation is moved once, by the call that replays its open documents: it opens
when they have arrived, and it is abandoned when the engine refuses one of them or the call is given
up.  Nobody else moves it, and nothing moves it again.
-/
namespace EngineSync

/-- What belongs to an activation and never changes. -/
def Activation.belongings (activation : Activation) :
    SessionId × DocumentFilter × GateId × CollectionId :=
  (activation.session, activation.filter, activation.gate, activation.collection)

namespace World

/-- What work and teardowns leave alone. -/
structure Lasting {β : Type} (view : Activation → β) : Prop where
  lanes : ∀ activation lanes, view { activation with lanes } = view activation
  owner : ∀ activation owner, view { activation with owner } = view activation

theorem lasting_barrier : Lasting Activation.barrier :=
  ⟨fun _ _ => rfl, fun _ _ => rfl⟩

theorem lasting_belongings : Lasting Activation.belongings :=
  ⟨fun _ _ => rfl, fun _ _ => rfl⟩

namespace Lasting
variable {β : Type} {view : Activation → β} {world world' : World} {call : Call}
  {calls : List Call} {id : ActivationId} {notes : List WorldNote}
  {progress : Progress Call CallResult}

theorem setActivation (world : World) (id : ActivationId) {id' : ActivationId}
    {activation : Activation} (same : id = id' → view activation = view (world.activation id)) :
    view ((world.setActivation id' activation).activation id) = view (world.activation id) := by
  rw [activation_setActivation]
  split
  · rename_i here
    exact same here.1
  · rfl

theorem works (lasting : Lasting view) {id' : ActivationId} (works : Works id' world world')
    (id : ActivationId) : view (world'.activation id) = view (world.activation id) := by
  obtain ⟨lanes, activations⟩ := works.activations
  have same : world'.activation id =
      (world.setActivation id' { world.activation id' with lanes }).activation id := by
    unfold World.activation
    rw [activations]
    rfl
  rw [same]
  refine setActivation world id fun here => ?_
  rw [here, lasting.lanes]

theorem teardown (lasting : Lasting view) (world : World) (id id' : ActivationId) :
    view ((world.teardown id').1.activation id) = view (world.activation id) := by
  refine setActivation { world with env := (world.env.disposeAll (world.activation id').owner).1 }
    id fun here => ?_
  rw [lasting.owner, here]
  rfl

theorem drop (lasting : Lasting view) (world : World) (id : ActivationId) (name : String) :
    view ((world.drop name).activation id) = view (world.activation id) := by
  unfold World.drop
  cases world.live? name with
  | none => rfl
  | some id' => exact lasting.teardown world id id'

theorem deactivate (lasting : Lasting view) (world : World) (id : ActivationId) (name : String) :
    view ((world.deactivate name).activation id) = view (world.activation id) := by
  unfold World.deactivate
  cases world.live? name with
  | none => rfl
  | some id' => exact lasting.teardown world id id'

/-- What moving the barrier of an activation leaves alone: all of the others, and what has nothing
to do with barriers. -/
def Apart (view : Activation → β) (moved : Option ActivationId) (id : ActivationId) : Prop :=
  moved ≠ some id ∨ ∀ activation barrier, view { activation with barrier } = view activation

theorem setBarrier {id' : ActivationId} (world : World) (apart : Apart view (some id') id)
    (barrier : Barrier) :
    view ((world.setBarrier id' barrier).activation id) = view (world.activation id) := by
  refine setActivation world id fun here => ?_
  subst here
  rcases apart with ne | same
  · exact absurd rfl ne
  · exact same _ barrier

theorem finishActivate (lasting : Lasting view) {id' : ActivationId} (world : World)
    (name : String) (apart : Apart view (some id') id) (settings : Settings) {total : Nat} :
    view ((world.finishActivate name id' settings total).activation id) =
      view (world.activation id) :=
  (lasting.drop (world.readied id' settings total) id name).trans (setBarrier world apart .open)

theorem abandon (lasting : Lasting view) {id' : ActivationId} (world : World)
    (apart : Apart view (some id') id) :
    view ((world.abandon id').activation id) = view (world.activation id) :=
  (lasting.teardown (world.setBarrier id' .abandoned) id id').trans
    (setBarrier world apart .abandoned)

/-- A step leaves what lasts alone, and moves no barrier but that of the activation it replays. -/
theorem hop (lasting : Lasting view) (h : Sound world (call :: calls))
    (lt : id < world.activations.length) (apart : Apart view call.replaying? id)
    (hop : Hop world call notes world' progress) :
    view (world'.activation id) = view (world.activation id) := by
  cases hop with
  | refused | began | rejected | publish | finish => rfl
  | @subscribed name collection session settings ticket env collected =>
    rw [activation_welcome, if_neg (Nat.ne_of_lt lt)]
    rfl
  | @replay name id' settings replay sync replay' polled =>
    exact lasting.works (works_pollReplay polled) id
  | @ready name id' settings replay sync count polled =>
    exact (lasting.finishActivate _ name apart settings).trans
      (lasting.works (works_pollReplay polled) id)
  | @failed name id' settings replay sync failure polled =>
    exact (lasting.abandon _ apart).trans (lasting.works (works_pollReplay polled) id)
  | call event next waiting =>
    unfold startListener
    cases next.listener <;> rfl
  | listen hop =>
    cases hop with
    | pass | take | answered => rfl
    | forward id' forwarding => exact lasting.works (works_forwarding world id' forwarding) id
    | route id' route => exact lasting.works (works_routing h.tidy id' route) id
  | sync id' call => exact lasting.works (works_sync world id' call) id

/-- So does a call that is given up. -/
theorem cancel (lasting : Lasting view) (world : World) (id : ActivationId) {call : Call}
    (apart : Apart view call.replaying? id) :
    view ((world.cancel call).activation id) = view (world.activation id) := by
  match call with
  | .activate name .arriving | .activate name (.configuring ..) | .publish (.arriving event)
  | .publish (.delivering ⟨event, none, waiting⟩)
  | .publish (.delivering ⟨event, some (.outside number), waiting⟩) => rfl
  | .activate name (.replaying id' settings replay) =>
    exact (lasting.abandon _ apart).trans
      (lasting.works (works_cancelSync world id' (.replay replay)) id)
  | .publish (.delivering ⟨event, some (.activation id' stage), waiting⟩) =>
    exact lasting.works (works_cancelListener world id' stage) id
  | .sync id' call => exact lasting.works (works_cancelSync world id' call) id

/-- The surroundings leave what lasts alone, and move no barrier. -/
theorem surround (lasting : Lasting view) (h : Sound world calls) (id : ActivationId)
    (move : WorldMove) :
    view ((world.surround move).activation id) = view (world.activation id) := by
  cases move with
  | release | grant | refuse | files | source | documents | report | listen | answer => rfl
  | unlisten number =>
    simp only [World.surround]
    split <;> rfl
  | deactivate name => exact lasting.deactivate world id name
  | drop name => exact lasting.drop world id name
  | disposeSession name =>
    simp only [World.surround]
    cases world.live? name <;> rfl
  | route name change =>
    simp only [World.surround]
    cases world.live? name with
    | none => rfl
    | some id' => exact lasting.works (works_routeNow h.tidy id' change) id

end Lasting

namespace Sound
variable {world world' : World} {call : Call} {calls : List Call} {id id' : ActivationId}
  {name : String} {settings : Settings} {replay : Replay} {total : Nat} {notes : List WorldNote}
  {progress : Progress Call CallResult}

theorem barrier_moved (lt : id < world.activations.length) (barrier : Barrier) :
    ((world.setBarrier id barrier).activation id).barrier = barrier := by
  rw [World.setBarrier, activation_setActivation, if_pos ⟨rfl, lt⟩]

theorem barrier_finishActivate (lt : id < world.activations.length) (name : String)
    (settings : Settings) :
    ((world.finishActivate name id settings total).activation id).barrier = .open :=
  (lasting_barrier.drop (world.readied id settings total) id name).trans (barrier_moved lt .open)

theorem barrier_abandon (lt : id < world.activations.length) :
    ((world.abandon id).activation id).barrier = .abandoned :=
  (lasting_barrier.teardown (world.setBarrier id .abandoned) id id).trans
    (barrier_moved lt .abandoned)

/-! ## How many activations there are -/

theorem length_teardown (world : World) (id : ActivationId) :
    (world.teardown id).1.activations.length = world.activations.length :=
  List.length_set ..

theorem length_setBarrier (world : World) (id : ActivationId) (barrier : Barrier) :
    (world.setBarrier id barrier).activations.length = world.activations.length :=
  List.length_set ..

theorem length_drop (world : World) (name : String) :
    (world.drop name).activations.length = world.activations.length := by
  unfold World.drop
  cases world.live? name with
  | none => rfl
  | some id => exact length_teardown world id

theorem length_finishActivate (world : World) (name : String) (id : ActivationId)
    (settings : Settings) :
    (world.finishActivate name id settings total).activations.length = world.activations.length :=
  (length_drop (world.readied id settings total) name).trans (length_setBarrier world id .open)

theorem length_abandon (world : World) (id : ActivationId) :
    (world.abandon id).activations.length = world.activations.length :=
  (length_teardown _ id).trans (length_setBarrier world id .abandoned)

theorem length_hop (h : Sound world (call :: calls)) (hop : Hop world call notes world' progress) :
    world.activations.length ≤ world'.activations.length := by
  cases hop with
  | refused | began | rejected | publish | finish => exact Nat.le_refl _
  | subscribed => simp [World.welcome]
  | replay polled => exact Nat.le_of_eq (works_pollReplay polled).calm.length.symm
  | ready polled =>
    rw [length_finishActivate]
    exact Nat.le_of_eq (works_pollReplay polled).calm.length.symm
  | failed polled =>
    rw [length_abandon]
    exact Nat.le_of_eq (works_pollReplay polled).calm.length.symm
  | call event next waiting =>
    unfold startListener
    cases next.listener <;> exact Nat.le_refl _
  | listen hop =>
    cases hop with
    | pass | take | answered => exact Nat.le_refl _
    | forward id' forwarding =>
      exact Nat.le_of_eq (works_forwarding world id' forwarding).calm.length.symm
    | route id' route => exact Nat.le_of_eq (works_routing h.tidy id' route).calm.length.symm
  | sync id' call => exact Nat.le_of_eq (works_sync world id' call).calm.length.symm

/-- Activations come one by one, and a call replays the open documents for the one that comes, which
tracks those in the language of the world. -/
theorem newcomer_hop (h : Sound world (call :: calls)) (hop : Hop world call notes world' progress)
    (lt : id < world'.activations.length) : id < world.activations.length ∨
      (world'.activation id).barrier = .replaying ∧
        (world'.activation id).filter = ⟨world.language⟩ ∧
        ∃ next ∈ progress.rest, next.replaying? = some id := by
  cases hop with
  | refused | began | rejected | publish | finish => exact .inl lt
  | @subscribed name collection session settings ticket env collected =>
    have bound : id < world.activations.length + 1 := by
      simpa [World.welcome] using lt
    rcases Nat.lt_succ_iff_lt_or_eq.mp bound with old | rfl
    · exact .inl old
    · have newcomer := activation_welcome { world with env } collection session settings
        world.activations.length
      rw [if_pos rfl] at newcomer
      exact .inr ⟨congrArg Activation.barrier newcomer, congrArg Activation.filter newcomer, _,
        List.mem_cons_self, rfl⟩
  | @replay name id' settings replay sync replay' polled =>
    exact .inl ((works_pollReplay polled).calm.length ▸ lt)
  | @ready name id' settings replay sync count polled =>
    rw [length_finishActivate] at lt
    exact .inl ((works_pollReplay polled).calm.length ▸ lt)
  | @failed name id' settings replay sync failure polled =>
    rw [length_abandon] at lt
    exact .inl ((works_pollReplay polled).calm.length ▸ lt)
  | call event next waiting =>
    refine .inl ?_
    revert lt
    unfold startListener
    cases next.listener <;> exact fun lt => lt
  | listen hop =>
    cases hop with
    | pass | take | answered => exact .inl lt
    | forward id' forwarding => exact .inl ((works_forwarding world id' forwarding).calm.length ▸ lt)
    | route id' route => exact .inl ((works_routing h.tidy id' route).calm.length ▸ lt)
  | sync id' call => exact .inl ((works_sync world id' call).calm.length ▸ lt)

theorem length_cancel (world : World) (call : Call) :
    (world.cancel call).activations.length = world.activations.length := by
  match call with
  | .activate name .arriving | .activate name (.configuring ..) | .publish (.arriving event)
  | .publish (.delivering ⟨event, none, waiting⟩)
  | .publish (.delivering ⟨event, some (.outside number), waiting⟩) => rfl
  | .activate name (.replaying id settings replay) =>
    exact (length_abandon _ id).trans (works_cancelSync world id (.replay replay)).calm.length
  | .publish (.delivering ⟨event, some (.activation id stage), waiting⟩) =>
    exact (works_cancelListener world id stage).calm.length
  | .sync id call => exact (works_cancelSync world id call).calm.length

theorem length_surround (h : Sound world calls) (move : WorldMove) :
    (world.surround move).activations.length = world.activations.length := by
  cases move with
  | release | grant | refuse | files | source | documents | report | listen | answer => rfl
  | unlisten number =>
    simp only [surround]
    split <;> rfl
  | deactivate name =>
    simp only [surround, World.deactivate]
    cases world.live? name with
    | none => rfl
    | some id => exact length_teardown world id
  | drop name => exact length_drop world name
  | disposeSession name =>
    simp only [surround]
    cases world.live? name <;> rfl
  | route name change =>
    simp only [surround]
    cases world.live? name with
    | none => rfl
    | some id => exact (works_routeNow h.tidy id change).calm.length

/-! ## Settled barriers -/

/-- An activation whose barrier was moved is there. -/
theorem lt_of_moved (moved : (world.activation id).barrier ≠ .replaying) :
    id < world.activations.length := by
  by_cases lt : id < world.activations.length
  · exact lt
  · rw [World.activation, List.getElem?_eq_none (Nat.le_of_not_lt lt)] at moved
    exact absurd rfl moved

/-- Nobody replays an activation whose barrier was moved. -/
theorem replays_none (h : Sound world (call :: calls))
    (moved : (world.activation id).barrier ≠ .replaying) : call.replaying? ≠ some id :=
  fun replays => moved (h.orderly.replaying id
    (List.mem_filterMap.mpr ⟨call, List.mem_cons_self, replays⟩)).1

theorem settled_hop (h : Sound world (call :: calls))
    (moved : (world.activation id).barrier ≠ .replaying)
    (hop : Hop world call notes world' progress) :
    (world'.activation id).barrier = (world.activation id).barrier :=
  lasting_barrier.hop h (lt_of_moved moved) (.inl (h.replays_none moved)) hop

theorem settled_cancel (h : Sound world (call :: calls))
    (moved : (world.activation id).barrier ≠ .replaying) :
    ((world.cancel call).activation id).barrier = (world.activation id).barrier :=
  lasting_barrier.cancel world id (.inl (h.replays_none moved))

/-! ## The call that replays -/

/-- What a step of the call that replays the open documents makes of the barrier. -/
theorem replay_hop
    (h : Sound world (.activate name (.replaying id settings replay) :: calls))
    (hop : Hop world (.activate name (.replaying id settings replay)) notes world' progress) :
    ((world'.activation id).barrier = .replaying ∧
        ∃ replay', progress = .pending (.activate name (.replaying id settings replay'))) ∨
      ((world'.activation id).barrier = .open ∧ progress = .finished .active) ∨
      ((world'.activation id).barrier = .abandoned ∧
        ∃ failure, progress = .finished (.failed (.engine failure))) := by
  have lt : id < world.activations.length := h.lt_of_ids List.mem_cons_self
  have waiting := (h.orderly.replaying id List.mem_cons_self).1
  cases hop with
  | @replay name id settings replay sync replay' polled =>
    have calm := (works_pollReplay polled).calm
    exact .inl ⟨(calm.barrier id).trans waiting, replay', rfl⟩
  | @ready name id settings replay sync count polled =>
    have calm := (works_pollReplay polled).calm
    exact .inr (.inl ⟨barrier_finishActivate (calm.length ▸ lt) name settings, rfl⟩)
  | @failed name id settings replay sync failure polled =>
    have calm := (works_pollReplay polled).calm
    exact .inr (.inr ⟨barrier_abandon (calm.length ▸ lt), failure, rfl⟩)

/-- The barrier of a call that is given up in its replay is abandoned. -/
theorem replay_cancel
    (h : Sound world (.activate name (.replaying id settings replay) :: calls)) :
    ((world.cancel (.activate name (.replaying id settings replay))).activation id).barrier =
      .abandoned := by
  have lt : id < world.activations.length := h.lt_of_ids List.mem_cons_self
  have calm := (works_cancelSync world id (.replay replay)).calm
  exact barrier_abandon (calm.length ▸ lt)

end Sound

/-! ## Runs -/

/-- An activation that is there keeps what belongs to it along every run. -/
theorem belongings_tells (id : ActivationId) (own : SessionId × DocumentFilter × GateId × CollectionId) :
    Tells fun world calls _ => Sound world calls ∧ id < world.activations.length ∧
      (world.activation id).belongings = own where
  tidy h := h.1.tidy
  perm hp h := ⟨h.1.perm hp, h.2⟩
  accept h accepted := ⟨h.1.accepts accepted, h.2⟩
  hop {_ _ _ _ _ _ _} h step := by
    obtain ⟨sound, lt, same⟩ := h
    exact ⟨sound.hop step, Nat.lt_of_lt_of_le lt (sound.length_hop step),
      (lasting_belongings.hop sound lt (.inr fun _ _ => rfl) step).trans same⟩
  cancel {world call _ _} h := by
    obtain ⟨sound, lt, same⟩ := h
    exact ⟨sound.cancels, Sound.length_cancel world call ▸ lt,
      (lasting_belongings.cancel world id (.inr fun _ _ => rfl)).trans same⟩
  surround {_ _ _} move h := by
    obtain ⟨sound, lt, same⟩ := h
    exact ⟨sound.surrounds move, sound.length_surround move ▸ lt,
      (lasting_belongings.surround sound id move).trans same⟩

theorem belongings_run {work : Work World Call CallResult} {id : ActivationId}
    (h : Sound work.state work.calls) (lt : id < work.state.activations.length)
    (actions : List (Action WorldRequest WorldMove)) :
    let after := World.machine.run work actions
    id < after.state.activations.length ∧
      (after.state.activation id).belongings = (work.state.activation id).belongings :=
  (@Machine.Keeps.run _ _ _ _ _ _ _ (belongings_tells id _).keeps work ⟨h, lt, rfl⟩ actions).2

end World
end EngineSync
