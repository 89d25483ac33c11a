import EngineSync.Proofs.Handling

/-!
# The barrier of a replay

What callers may rely on while the open documents of an activation are on their way, and after that:
its session records nothing but them, nobody else touches what belongs to it, and the events that
wait are handled once if the documents arrive and never if they do not.
-/
namespace EngineSync

/-- **Replays are fenced.**  Whatever is asked for, published, answered, refused or given up in any
order: the log of an activation's session is what the activation and its open documents make it; a
barrier that is closed and not abandoned has one call that replays the documents, at most one of
them at a time; nothing else touches what belongs to the activation meanwhile; the replay ends with
the barrier open or abandoned, and with the call given up it is abandoned; an event that waits does
nothing until its publication gets a chance after the barrier was moved, and from then on it is
handled, with its request made once or turned away once and its gate set once, if the barrier has
opened, and nothing is done for it if the barrier was abandoned; and behind an abandoned barrier
listeners finish at once, with nothing done for ever. -/
theorem replay_barrier (outset : Outset) (actions : List (Action WorldRequest WorldMove)) :
    let work := outset.reach actions
    let history := (outset.notes actions).map (·.2)
    (∀ id < work.state.activations.length, ∃ settings docs,
      World.Recorded work.state history id settings docs) ∧
    (∀ id < work.state.activations.length, (work.state.activation id).barrier = .replaying →
      ∃ name settings replay, .activate name (.replaying id settings replay) ∈ work.calls ∧
        World.Replaying work.state history id settings replay) ∧
    (∀ id < work.state.activations.length, (work.state.activation id).barrier ≠ .open →
      ∀ action, World.Undisturbed id work action →
        World.Leaves id work.state (World.machine.perform work action).state) ∧
    (∀ (place : Nat) job name id settings replay, work.jobs[place]? = some job →
      job.call = .activate name (.replaying id settings replay) →
        World.Turns id name settings job.number (World.machine.perform work (.poll place)) ∧
        ((World.machine.perform work (.cancel place)).state.activation id).barrier = .abandoned) ∧
    (∀ number id event, (∃ call ∈ work.call? number, call.Waits id event) →
      ∀ later, World.machine.KeepsUp number work later →
        Becomes id (work.state.activation id).session event
          ((World.machine.run work later).call? number)
          (Machine.notesOf number (World.machine.chronicle World.chances work later))) ∧
    (∀ (place : Nat) job id event, work.jobs[place]? = some job → job.call.Waits id event →
      (work.state.activation id).barrier ≠ .replaying →
        ∀ next ∈ (World.machine.perform work (.poll place)).call? job.number, next.Past id) ∧
    ∀ id, (work.state.activation id).barrier = .abandoned →
      (∀ event, work.state.pollListener event (.activation id .arriving) =
        (work.state, .finished (.ok ()))) ∧
      ∀ later, World.Rests id work.state (World.machine.run work later).state ∧
        ((∀ move, .move move ∈ later → move.isReport = false) →
          World.Leaves id work.state (World.machine.run work later).state) := by
  intro work history
  obtain ⟨⟨sound, told⟩, accounts⟩ := World.accounted_reach outset actions
  have numbered : work.Numbered := Machine.numbered_run (.idle _) actions
  refine ⟨fun id lt => World.recorded_reach outset actions lt, fun id lt waiting => ?_,
    fun id lt closed action undisturbed => World.leaves_perform sound lt closed undisturbed,
    fun place job name id settings replay at_place replays =>
      ⟨World.turns_poll sound numbered at_place replays,
        World.abandoned_cancel sound at_place replays⟩,
    fun number id event waits later kept => World.becomes_run sound numbered waits kept,
    fun place job id event at_place waits moved =>
      World.past_waits sound numbered at_place waits moved,
    fun id abandoned => ⟨World.pollListener_abandoned abandoned, fun later =>
      ⟨World.abandoned_run sound abandoned later, World.abandoned_run_leaves sound abandoned⟩⟩⟩
  have account := accounts id lt
  unfold World.Accounted at account
  rw [if_pos waiting] at account
  obtain ⟨call, hc, replays⟩ := account
  obtain ⟨name, settings, replay, rfl⟩ := Call.of_replaying replays
  exact ⟨name, settings, replay, hc, told _ hc⟩

/-- A document changes while its first text is held back, and its new text is held back as well: the
change waits, then the session is asked for it, and when it was answered nothing is asked again. -/
theorem replay_barrier_of_held_text :
    let doc : Document := ⟨⟨"file:///a.qs"⟩, "qsharp", 1, "old", false⟩
    let event : Event := .changed { doc with version := 2, text := "new" }
    let outset : Outset := ⟨⟨false, false, false⟩, ⟨false, false, false, []⟩,
      ["file:///a.qs@1", "file:///a.qs@2"], ⟨.directory [("engine.wasm", .file [0])]⟩,
      .memory .standard, [doc], "qsharp", "engine.wasm"⟩
    let work := outset.reach
      [.start (.activate "a"), .poll 0, .start (.publish event), .poll 1]
    let later := [.poll 1, .move (.release "file:///a.qs@1"), .poll 0, .poll 0,
      .move (.release "file:///a.qs@2"), .poll 0]
    let chances := Machine.notesOf 1 (World.machine.chronicle World.chances work later)
    (work.state.activation 0).barrier = .replaying ∧
      work.state.env.engine.callsOf 0 = World.opening 0 .standard ++ [doc.updateCall 0] ∧
      work.call? 1 =
        some (.publish (.delivering ⟨event, some (.activation 0 .arriving), []⟩)) ∧
      Becomes 0 0 event ((World.machine.run work later).call? 1) chances ∧
      chances.map (WorldChance.asked 0) =
        [[], [.request 0 (.update doc.uri 2 "new")], []] := by
  intro doc event outset work later chances
  have waits : work.call? 1 =
      some (.publish (.delivering ⟨event, some (.activation 0 .arriving), []⟩)) := by
    decide +kernel
  have session : (work.state.activation 0).session = 0 := by decide +kernel
  have kept : World.machine.KeepsUp 1 work later :=
    ⟨fun no => no, fun no => no, fun no => no, fun no => no, fun no => no, fun no => no, trivial⟩
  have becomes := (replay_barrier outset _).2.2.2.2.1 1 0 event ⟨_, waits, [], rfl⟩ later kept
  rw [session] at becomes
  exact ⟨by decide +kernel, by decide +kernel, waits, becomes, by decide +kernel⟩

end EngineSync
