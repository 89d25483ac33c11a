import EngineSync.Proofs.Failures

/-!
# Activations that are given up

A call that activates can be dropped whenever it waits.  Nothing that it has registered is left
then: while the open documents are on their way, the activation holds everything, the session
included, and is torn down as a whole.  But while the first profile is with the engine nobody holds
the session yet.  It was created, no handle releases it, and so it is never disposed.
-/
namespace EngineSync
namespace World

/-- What becomes of a call that activates and of its session, once the call was given up. -/
inductive GivenUp (history : List WorldNote) (world : World) :
    Call → Work World Call CallResult → Prop where
  /-- It has not run: nothing has happened. -/
  | arriving {name : String} {after : Work World Call CallResult} (state : after.state = world) :
      GivenUp history world (.activate name .arriving) after
  /-- It waits for the answer to the first profile: its session stays up for ever. -/
  | configuring {name : String} {collection : CollectionId} {session : SessionId}
      {settings : Settings} {ticket : TicketId} {after : Work World Call CallResult}
      (created : session < after.state.env.engine.sessions.length)
      (forgotten : ∀ later, let engine := (World.machine.run after later).state.env.engine
        engine.callsOf session = opening session settings ∧ engine.isDisposed session = false) :
      GivenUp history world (.activate name (.configuring collection session settings ticket)) after
  /-- The open documents are on their way: the disposal of its session is the last thing that this
  one records. -/
  | replaying {name : String} {id : ActivationId} {settings : Settings} {replay : Replay}
      {after : Work World Call CallResult} {docs sent : List Document}
      (noted : .subscribed id docs ∈ history)
      (early : sent <+: docs.filter (world.activation id).filter.tracks)
      (calls : after.state.env.engine.callsOf (world.activation id).session =
        opening (world.activation id).session settings ++
          sent.map (·.updateCall (world.activation id).session) ++
            [.dispose (world.activation id).session])
      (silent : Silent (world.activation id).session after) :
      GivenUp history world (.activate name (.replaying id settings replay)) after

variable {world : World} {calls : List Call} {id : ActivationId} {base : List ProviderKind}
  {name : String} {settings : Settings} {replay : Replay} {history : List WorldNote}
  {work : Work World Call CallResult} {stage : ActivateStage}

/-- Whenever a call that activates is given up, nothing stays registered. -/
theorem undone_cancel (sound : Sound world (.activate name stage :: calls))
    (square : world.Square base) :
    Undone base (world.activationOf (.activate name stage)) world
      (world.cancel (.activate name stage)) := by
  cases stage with
  | arriving => exact (Elsewhere.refl _ world).undone_unborn square rfl
  | configuring collection session settings ticket =>
    have same : Elsewhere world.activations.length world (world.cancel
        (.activate name (.configuring collection session settings ticket))) := .of_eq rfl rfl rfl
    exact same.undone_unborn (square.cancels sound) rfl
  | replaying id settings replay =>
    have lt : id < world.activations.length := sound.lt_of_ids List.mem_cons_self
    have works := works_cancelSync world id (.replay replay)
    exact (undone_abandon (sound.works lt works) (square.putSync id _)).before
      (.putSync world id id _)

/-- The session of a call that was given up before the first profile was answered is up, and nobody
knows it any more. -/
theorem GivenUp.of_configuring {collection : CollectionId} {session : SessionId}
    {ticket : TicketId}
    (sound : Sound world
      (.activate name (.configuring collection session settings ticket) :: calls))
    (told : Configuring world history session settings ticket)
    (state : work.state = world.cancel
      (.activate name (.configuring collection session settings ticket)))
    (perm : work.calls.Perm calls) :
    GivenUp history world (.activate name (.configuring collection session settings ticket))
      work := by
  have edit : Environment.Edits .plain world.env
      { world.env with engine := world.env.engine.cancel ticket } :=
    .single (Environment.cancel_edit world.env ticket)
  -- the call is still there as far as anybody else is concerned
  have ghost := sound.plain edit
  have lt := (ghost.owned.newborn_within _ List.mem_cons_self).2
  obtain ⟨tickets, permits, cancelled, -⟩ := world.env.engine.cancel_eq ticket
  have same : work.state.env.engine = { world.env.engine with tickets, permits } := by
    rw [state]
    exact cancelled
  change Sound (world.cancel
    (.activate name (.configuring collection session settings ticket))) _ at ghost
  rw [← state] at ghost
  refine .configuring (by rw [state]; exact lt) fun later => ?_
  have quiet := ghost_run (ghost.perm (perm.symm.cons _)) rfl later
  refine ⟨quiet.calls.trans ?_, quiet.disposed.trans ?_⟩
  · rw [same]
    exact told.calls
  · rw [same]
    exact told.disposed

theorem GivenUp.of_replaying
    (sound : Sound world (.activate name (.replaying id settings replay) :: calls))
    (told : Replaying world history id settings replay)
    (state : work.state = world.cancel (.activate name (.replaying id settings replay)))
    (perm : work.calls.Perm calls) :
    GivenUp history world (.activate name (.replaying id settings replay)) work := by
  have abandoned := sound.replay_cancel
  have after := sound.cancels
  have same : ((world.cancel (.activate name (.replaying id settings replay))).activation
      id).belongings = (world.activation id).belongings :=
    lasting_belongings.cancel world id (.inr fun _ _ => rfl)
  simp only [Activation.belongings, Prod.mk.injEq] at same
  obtain ⟨docs, -, noted, logged⟩ := told.given_up sound
  dsimp only [Logged] at logged
  rw [abandoned] at logged
  obtain ⟨sent, early, recorded⟩ := logged
  rw [← state] at after abandoned same early recorded
  have silent := silent_of_abandoned (after.perm perm.symm) abandoned
  rw [same.1] at silent recorded
  rw [same.2.1] at early
  exact .replaying noted early recorded silent

theorem givenUp_cancel (sound : Sound world (.activate name stage :: calls))
    (told : Told world history (.activate name stage))
    (state : work.state = world.cancel (.activate name stage)) (perm : work.calls.Perm calls) :
    GivenUp history world (.activate name stage) work := by
  cases stage with
  | arriving => exact .arriving state
  | configuring => exact .of_configuring sound told state perm
  | replaying => exact .of_replaying sound told state perm

end World

/-- **A cancelled activation leaves nothing registered.**  Whatever was done before and whoever else
is there: when a call that activates is given up, its subscriptions are gone and all other ones
stay, and live are the providers that were live from the start and those of other activations.  Its
session records its disposal, as the last thing it will ever record, if the open documents were on
their way; if the first profile was with the engine, the session is never disposed. -/
theorem cancelled_activation (outset : Outset) (ledger : Ledger)
    (actions : List (Action WorldRequest WorldMove)) :
    let work := World.machine.run (outset.host ledger) actions
    ∀ (place : Nat) job name stage, work.jobs[place]? = some job →
      job.call = .activate name stage →
      let after := World.machine.perform work (.cancel place)
      let history := (World.machine.chronicle World.notes (outset.host ledger) actions).map (·.2)
      World.Undone ledger.live (work.state.activationOf job.call) work.state after.state ∧
        World.GivenUp history work.state job.call after := by
  intro work place job name stage at_place activates after history
  obtain ⟨-, square⟩ := World.square_run outset ledger actions
  obtain ⟨before, behind, split, rfl⟩ := Machine.split_at_place at_place
  obtain ⟨sound, told⟩ := World.told_tells.machine.perm (by
    show work.calls.Perm (job.call :: (before ++ behind).map (·.call))
    simp [Work.calls, split, List.perm_middle]) (World.told_host outset ledger actions)
  have given : after = { work with
      state := work.state.cancel job.call, jobs := before ++ behind } :=
    Machine.perform_cancel split
  rw [activates] at sound told
  refine ⟨?_, ?_⟩
  · rw [given, activates]
    exact World.undone_cancel sound square
  · rw [activates]
    refine World.givenUp_cancel sound (told _ List.mem_cons_self) ?_ ?_
    · rw [given, activates]
    · rw [given]
      exact .refl _

/-- The text of the first of two documents is held back, and the call that activates is given up:
the session is disposed, and the listener outside is the only one that is left. -/
theorem cancelled_activation_of_held_text :
    let doc (name : String) : Document := ⟨⟨"file:///" ++ name ++ ".qs"⟩, "qsharp", 1, name, false⟩
    let outset : Outset := ⟨⟨false, false, false⟩, ⟨false, false, false, []⟩, ["file:///a.qs@1"],
      ⟨.directory [("engine.wasm", .file [0])]⟩, .memory .standard, [doc "a", doc "b"], "qsharp",
      "engine.wasm"⟩
    let ledger : Ledger := ⟨[.registered .hover], [⟨.hover, "qsharp"⟩]⟩
    let actions : List (Action WorldRequest WorldMove) :=
      [.move (.listen .documentOpened 7), .start (.activate "a"), .poll 0]
    let work := World.machine.run (outset.host ledger) actions
    let after := World.machine.perform work (.cancel 0)
    let history := (World.machine.chronicle World.notes (outset.host ledger) actions).map (·.2)
    let sending : Forwarding := ⟨doc "a", false, .calling 0 0 1⟩
    let job : Job Call :=
      ⟨0, .activate "a" (.replaying 0 .standard ⟨some sending, [doc "b"], 0, 2⟩)⟩
    work.jobs[0]? = some job ∧ World.Undone ledger.live 0 work.state after.state ∧
      World.GivenUp history work.state job.call after ∧
      work.state.env.bus.subscriptions.length = 5 ∧
      after.state.env.bus.subscriptions.map (·.listener) = [.outside 7] ∧
      after.state.env.ledger.live = [.hover] ∧
      after.state.env.engine.callsOf 0 =
        World.opening 0 .standard ++ [(doc "a").updateCall 0, .dispose 0] := by
  intro doc outset ledger actions work after history sending job
  have at_place : work.jobs[0]? = some job := by decide +kernel
  obtain ⟨undone, given⟩ := cancelled_activation outset ledger actions 0 job "a" _ at_place rfl
  exact ⟨at_place, undone, given, by decide +kernel, by decide +kernel, by decide +kernel,
    by decide +kernel⟩

/-- The first profile is held back, and the call that activates is given up: no call is under way
any more, and the session that was created has not recorded its disposal. -/
theorem cancelled_activation_forgets_session :
    let outset : Outset := ⟨⟨false, false, false⟩, ⟨false, false, false, []⟩,
      ["configure@unrestricted"], ⟨.directory [("engine.wasm", .file [0])]⟩, .memory .standard, [],
      "qsharp", "engine.wasm"⟩
    let work := outset.reach [.start (.activate "a"), .poll 0]
    let after := World.machine.perform work (.cancel 0)
    work.calls = [.activate "a" (.configuring 0 0 .standard 0)] ∧ after.calls = [] ∧
      after.state.env.engine.sessions.length = 1 ∧
      after.state.env.engine.callsOf 0 = World.opening 0 .standard ∧
      (after.state.env.engine.callsOf 0).count (.dispose 0) ≠ 1 := by
  intro outset work after
  exact ⟨by decide +kernel, by decide +kernel, by decide +kernel, by decide +kernel,
    by decide +kernel⟩

end EngineSync
