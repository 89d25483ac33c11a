import EngineSync.Proofs.Waiting

/-!
# Fences

While the barrier of an activation is closed nothing happens to it but what the call that replays
does, and behind an abandoned one nothing happens any more.  A chance of that call goes on with the
replay, opens the barrier or abandons it; once the barrier was moved, the events that wait there
come past it with their next chance.
-/
namespace EngineSync
namespace World

/-- An action is neither a chance nor the end for the call that replays an activation, and it
reports no diagnostics. -/
def Undisturbed (id : ActivationId) (work : Work World Call CallResult) :
    Action WorldRequest WorldMove → Prop
  | .start _ => True
  | .poll place | .cancel place => ∀ job ∈ work.jobs[place]?, job.call.replaying? ≠ some id
  | .move move => move.isReport = false

variable {world world' : World} {id : ActivationId} {call : Call} {calls : List Call}
  {notes : List WorldNote} {progress : Progress Call CallResult}
  {work : Work World Call CallResult}

/-! ## Behind a closed barrier -/

/-- A call does not come to replay an activation that is there already. -/
theorem still_hop (lt : id < world.activations.length) (still : call.replaying? ≠ some id)
    (hop : Hop world call notes world' progress) :
    ∀ next ∈ progress.rest, next.replaying? ≠ some id := by
  intro next hn
  cases hop with
  | refused | rejected | ready | failed | finish => cases hn
  | began | publish | call =>
    rw [List.mem_singleton.mp hn]
    exact (Option.some_ne_none id).symm
  | @subscribed name collection session settings ticket env collected =>
    rw [List.mem_singleton.mp hn]
    exact fun same => Nat.ne_of_gt lt (Option.some.inj same)
  | @replay name id' settings replay sync replay' polled =>
    rw [List.mem_singleton.mp hn]
    exact still
  | @listen event listener waiting _ _ outcome step =>
    rcases outcome with listener' | failure | ⟨⟩
    · rw [List.mem_singleton.mp hn]
      exact (Option.some_ne_none id).symm
    · cases hn
    · rw [List.mem_singleton.mp hn]
      exact (Option.some_ne_none id).symm
  | sync id' call =>
    simp only [World.poll] at hn
    revert hn
    rcases (world.sync id').pollCall call with ⟨sync, call' | result⟩ <;> intro hn
    · rw [List.mem_singleton.mp hn]
      exact (Option.some_ne_none id).symm
    · cases hn

theorem leaves_poll_closed (h : Sound world (call :: calls)) (lt : id < world.activations.length)
    (closed : (world.activation id).barrier ≠ .open) (still : call.replaying? ≠ some id) :
    Leaves id world (world.poll call).1 := by
  refine ((poll_hops h.tidy call).carries
    (fun world' rest => Sound world' (rest ++ calls) ∧ Leaves id world world' ∧
      ∀ next ∈ rest, next.replaying? ≠ some id)
    (fun {world' call' notes after progress} kept hop => ?_)
    ⟨h, .refl id world, fun next hn => List.mem_singleton.mp hn ▸ still⟩).2.1
  obtain ⟨sound, leaves, away⟩ := kept
  have there := Nat.lt_of_lt_of_le lt leaves.length
  have idle := away call' List.mem_cons_self
  refine ⟨sound.hop hop, leaves.trans ?_, still_hop there idle hop⟩
  exact sound.leaves_hop_closed there (by rw [leaves.activation]; exact closed) idle hop

/-- **Behind a closed barrier nothing happens** but what the call that replays does. -/
theorem leaves_perform (h : Sound work.state work.calls) (lt : id < work.state.activations.length)
    (closed : (work.state.activation id).barrier ≠ .open) {action : Action WorldRequest WorldMove}
    (undisturbed : Undisturbed id work action) :
    Leaves id work.state (World.machine.perform work action).state := by
  cases action with
  | start request =>
    simp only [Machine.perform]
    cases World.machine.accept work.state request <;> exact .refl id work.state
  | poll place =>
    cases at_place : work.jobs[place]? with
    | none =>
      rw [Machine.perform_poll_none at_place]
      exact .refl id work.state
    | some job =>
      obtain ⟨before, after, split, rfl⟩ := Machine.split_at_place at_place
      rw [Machine.perform_poll split]
      exact leaves_poll_closed (Sound.tells.keeps.at_place h split) lt closed
        (undisturbed job at_place)
  | cancel place =>
    cases at_place : work.jobs[place]? with
    | none =>
      rw [Machine.perform_cancel_none at_place]
      exact .refl id work.state
    | some job =>
      obtain ⟨before, after, split, rfl⟩ := Machine.split_at_place at_place
      rw [Machine.perform_cancel split]
      exact (Sound.tells.keeps.at_place h split).leaves_cancel_closed lt closed
        (undisturbed job at_place)
  | move move => exact h.leaves_surround_closed lt closed undisturbed

/-! ## Behind an abandoned barrier -/

theorem abandoned_undisturbed (h : Sound work.state work.calls)
    (abandoned : (work.state.activation id).barrier = .abandoned)
    {action : Action WorldRequest WorldMove}
    (silent : ∀ move, action = .move move → move.isReport = false) :
    Undisturbed id work action := by
  have none : ∀ job ∈ work.jobs, job.call.replaying? ≠ some id := by
    intro job hj replays
    have waiting := (h.orderly.replaying id
      (List.mem_filterMap.mpr ⟨job.call, List.mem_map_of_mem hj, replays⟩)).1
    rw [abandoned] at waiting
    cases waiting
  cases action with
  | start request => trivial
  | poll place | cancel place => exact fun job found => none job (List.mem_of_getElem? found)
  | move move => exact silent move rfl

/-- Behind an abandoned barrier nothing happens any more, reports of diagnostics apart. -/
theorem abandoned_perform (h : Sound work.state work.calls)
    (abandoned : (work.state.activation id).barrier = .abandoned)
    (action : Action WorldRequest WorldMove) :
    Rests id work.state (World.machine.perform work action).state := by
  have closed : (work.state.activation id).barrier ≠ .open := by
    rw [abandoned]
    nofun
  have lt : id < work.state.activations.length := Sound.lt_of_moved (by rw [abandoned]; nofun)
  by_cases reports : ∃ uri version diagnostics, action = .move (.report uri version diagnostics)
  · obtain ⟨uri, version, diagnostics, rfl⟩ := reports
    exact Sound.rests_report work.state id uri version diagnostics
  · refine (leaves_perform h lt closed (abandoned_undisturbed h abandoned ?_)).rests
    intro move same
    cases move with
    | report uri version diagnostics => exact absurd ⟨uri, version, diagnostics, same⟩ reports
    | _ => rfl

theorem abandoned_run (h : Sound work.state work.calls)
    (abandoned : (work.state.activation id).barrier = .abandoned)
    (actions : List (Action WorldRequest WorldMove)) :
    Rests id work.state (World.machine.run work actions).state := by
  induction actions generalizing work with
  | nil => exact .refl id work.state
  | cons action rest ih =>
    have first := abandoned_perform h abandoned action
    refine first.trans (ih (Sound.tells.keeps.perform h action) ?_)
    rw [first.activation]
    exact abandoned

theorem abandoned_run_leaves (h : Sound work.state work.calls)
    (abandoned : (work.state.activation id).barrier = .abandoned)
    {actions : List (Action WorldRequest WorldMove)}
    (silent : ∀ move, .move move ∈ actions → move.isReport = false) :
    Leaves id work.state (World.machine.run work actions).state := by
  induction actions generalizing work with
  | nil => exact .refl id work.state
  | cons action rest ih =>
    have lt : id < work.state.activations.length := Sound.lt_of_moved (by rw [abandoned]; nofun)
    have undisturbed : Undisturbed id work action :=
      abandoned_undisturbed h abandoned fun move same =>
        silent move (same ▸ List.mem_cons_self)
    have first := leaves_perform h lt (by rw [abandoned]; nofun) undisturbed
    refine first.trans (ih (Sound.tells.keeps.perform h action) ?_ fun move mem => ?_)
    · rw [first.activation]
      exact abandoned
    · exact silent move (List.mem_cons_of_mem _ mem)

/-! ## The exits -/

/-- What a chance makes of a replay: it goes on, or the barrier opens and the activation is active,
or the barrier is abandoned and the activation has failed. -/
def Turns (id : ActivationId) (name : String) (settings : Settings) (number : Nat)
    (work : Work World Call CallResult) : Prop :=
  ((work.state.activation id).barrier = .replaying ∧
      ∃ replay, work.call? number = some (.activate name (.replaying id settings replay))) ∨
    ((work.state.activation id).barrier = .open ∧ (number, .active) ∈ work.results) ∨
      ((work.state.activation id).barrier = .abandoned ∧
        ∃ failure, (number, .failed (.engine failure)) ∈ work.results)

variable {place number : Nat} {job : Job Call} {name : String} {settings : Settings}
  {replay : Replay} {event : Event}

theorem turns_poll (h : Sound work.state work.calls) (numbered : work.Numbered)
    (at_place : work.jobs[place]? = some job)
    (replays : job.call = .activate name (.replaying id settings replay)) :
    Turns id name settings job.number (World.machine.perform work (.poll place)) := by
  obtain ⟨before, after, split, rfl⟩ := Machine.split_at_place at_place
  have sound := Sound.tells.keeps.at_place h split
  rw [replays] at sound
  have turned := sound.replay_hop (replaying_hop work.state name id settings replay)
  have polled : World.machine.poll work.state job.call =
      work.state.pollReplaying name id settings replay := by
    rw [replays]
    rfl
  rw [← polled] at turned
  unfold Turns
  rw [Machine.state_poll split, Machine.call?_poll_own numbered split]
  rcases turned with ⟨waiting, replay', same⟩ | ⟨released, same⟩ | ⟨abandoned, failure, same⟩
  · exact .inl ⟨waiting, replay', by rw [same]; rfl⟩
  · exact .inr (.inl ⟨released, Machine.result_poll split same⟩)
  · exact .inr (.inr ⟨abandoned, failure, Machine.result_poll split same⟩)

theorem abandoned_cancel (h : Sound work.state work.calls)
    (at_place : work.jobs[place]? = some job)
    (replays : job.call = .activate name (.replaying id settings replay)) :
    ((World.machine.perform work (.cancel place)).state.activation id).barrier = .abandoned := by
  obtain ⟨before, after, split, rfl⟩ := Machine.split_at_place at_place
  have sound := Sound.tells.keeps.at_place h split
  rw [Machine.perform_cancel split, replays]
  rw [replays] at sound
  exact sound.replay_cancel

/-! ## The events that wait -/

theorem past_waits (h : Sound work.state work.calls) (numbered : work.Numbered)
    (at_place : work.jobs[place]? = some job) (waits : job.call.Waits id event)
    (moved : (work.state.activation id).barrier ≠ .replaying) :
    ∀ next ∈ (World.machine.perform work (.poll place)).call? job.number, next.Past id := by
  obtain ⟨before, after, split, rfl⟩ := Machine.split_at_place at_place
  rw [Machine.call?_poll_own numbered split]
  intro next hn
  exact waits_poll (Sound.tells.keeps.at_place h split) waits moved next
    (Progress.mem_rest_head?.mp hn)

theorem fate_run (h : Sound work.state work.calls) (numbered : work.Numbered)
    (waits : ∃ call ∈ work.call? number, call.Waits id event)
    {later : List (Action WorldRequest WorldMove)}
    (kept : World.machine.KeepsUp number work later) :
    Fate id event (World.machine.run work later).state
      ((World.machine.run work later).call? number)
      (Machine.notesOf number (World.machine.chronicle World.notes work later)) := by
  have there := waits
  obtain ⟨call, found, -⟩ := there
  exact (fate_follows id event).run Sound.tells.keeps h numbered (numbered.lt_started found)
    (.inl ⟨waits, rfl⟩ : Fate id event work.state (work.call? number) []) kept

/-- Behind an abandoned barrier a listener has nothing to do. -/
theorem pollListener_abandoned (abandoned : (world.activation id).barrier = .abandoned)
    (event : Event) :
    world.pollListener event (.activation id .arriving) = (world, .finished (.ok ())) := by
  simp only [pollListener, abandoned]

end World
end EngineSync
