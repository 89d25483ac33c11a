import EngineSync.Proofs.Finality

/-!
# The end of an activation

Whatever has happened to a live activation, and whatever calls are still pending, its end takes away
all that belongs to it and nothing else, in one order: the subscriptions, what its gate holds, the
providers, the diagnostics and at last the session.  The accounts of the world carry the argument:
they know every handle that the activation and its gate hold at that moment, however often the gate
was opened and closed before, and that each of them still has its release.
-/
namespace EngineSync

/-- What the end of an activation makes of the environment. -/
structure Environment.Ended (base : List ProviderKind) (id : ActivationId) (activation : Activation)
    (env env' : Environment) : Prop where
  /-- It had one subscription to each kind of event. -/
  row : ∃ first, env.subscriptionsOf id = Subscription.row (.activation id) first EventKind.all
  /-- Just these are gone, and the others keep their order. -/
  bus : env'.bus.subscriptions = env.bus.subscriptions.filter (·.listener ≠ .activation id)
  /-- The ends of its registrations are noted, each once, those of the gate first. -/
  changes : env'.ledger.changes = env.ledger.changes ++
    ((if (env.gate activation.gate).isEnabled then
        [.unregistered .rangeFormatting, .unregistered .documentFormatting] else []) ++
      [.unregistered .codeLens, .unregistered .rename, .unregistered .signatureHelp,
        .unregistered .references, .unregistered .definition, .unregistered .hover,
        .unregistered .completion])
  /-- Its providers were live, and they are no more; the others stay. -/
  live : ∃ others, env.ledger.live.Perm (env.providersOf activation ++ (base ++ others)) ∧
    env'.ledger.live.Perm (base ++ others)
  /-- Its diagnostics are forgotten. -/
  diagnostics : (env'.collection activation.collection).reports = []
  /-- The session is disposed when all the rest is done. -/
  last : ∃ numbers handles journal entries,
    env' = ((env.stripped activation numbers handles journal).disposeSession
      activation.session).1.log entries
  /-- That is recorded unless the session was disposed before. -/
  recorded : env'.engine.callsOf activation.session = env.engine.callsOf activation.session ++
    if env.engine.isDisposed activation.session then [] else [.dispose activation.session]
  once : (env'.engine.callsOf activation.session).count (.dispose activation.session) = 1
  /-- The handles that it and its gate held are spent, and no other one is. -/
  spent : ∀ handle ∈ env.stock activation, Environment.Spent handle env'
  kept : ∀ handle release, handle ∉ env.stock activation →
    env.handles.release? handle = some release → env'.handles.release? handle = some release

namespace Environment
variable {base : List ProviderKind} {env env' : Environment} {cores : List Activation}
  {newborn : List (CollectionId × SessionId)} {id : ActivationId} {core : Activation}

/-- Clearing a collection leaves no report in it. -/
theorem clearAll_reports (collection : DiagnosticsCollection) : collection.clearAll.1.reports = [] := by
  have emits (cleared : List Report) (from' : DiagnosticsCollection) (empty : from'.reports = []) :
      (cleared.foldl (fun collection report => collection.emit report.uri []) from').reports = [] := by
    induction cleared generalizing from' with
    | nil => exact empty
    | cons report cleared ih =>
      refine ih (from'.emit report.uri []) ?_
      unfold DiagnosticsCollection.emit
      split <;> exact empty
  exact emits _ _ rfl

/-- **An activation comes to its end**, whatever it has been through. -/
theorem Stock.ended (h : env.Stock base cores) (owned : Owned env cores newborn)
    (own : cores[id]? = some core) (holds : core.owner.held ≠ [])
    (once : Once core.session env) (entries : Journal) :
    Ended base id core env ((env.disposeAll core.owner).1.log entries) := by
  have mem := List.mem_of_getElem? own
  have within := owned.within core mem
  have edits := owned.teardown_edits own
  have after := Edits.once edits within.session once
  obtain ⟨first, stocked, row⟩ := h.stocked own holds
  obtain ⟨handles, journal, perm, disposed⟩ := disposeAll_stripped stocked
  rw [disposed] at after edits ⊢
  have down : (((env.stripped core (List.range' first EventKind.all.length) handles
      journal).disposeSession core.session).1.log
        [.teardown core.owner.size core.owner.size]).engine.isDisposed core.session = true :=
    disposeSession_disposed within.session
  refine {
    row := ⟨first, row⟩
    bus := leave_row owned own stocked row
    changes := ?_
    live := ⟨others env cores id, h.live_own own,
      Ledger.live_unregisterAll_perm (h.live_own own) (endings_perm holds)⟩
    diagnostics := ?_
    last := ⟨List.range' first EventKind.all.length, handles, journal,
      [.teardown core.owner.size core.owner.size] ++ entries, by simp [log]⟩
    recorded := ?_
    once := ?_
    spent := fun handle stock => ⟨?_, ?_⟩
    kept := fun handle release away pending => ?_ }
  · -- what ends is what the gate holds and what needs no gate, each the last one first
    show env.ledger.changes ++ (env.endings core).map ProviderChange.unregistered = _
    unfold endings
    split <;> rfl
  · show (((env.collections.set core.collection
      (env.collection core.collection).clearAll.1)[core.collection]?).getD .silent).reports = []
    rw [List.getElem?_set_self within.collection]
    exact clearAll_reports _
  · show ((Environment.disposeSession (env.stripped core _ handles journal)
      core.session).1.engine.callsOf core.session) = _
    have same : (env.stripped core (List.range' first EventKind.all.length) handles
        journal).engine = env.engine := rfl
    cases disposed : env.engine.isDisposed core.session with
    | true => simp [disposeSession, Session.dispose, same, disposed, log]
    | false =>
      simp [disposeSession, Session.dispose, same, disposed, log, Engine.dispose, Engine.record,
        Engine.callsOf, EngineCall.session?]
  · unfold Once at after
    rw [down] at after
    exact after
  · exact Nat.lt_of_lt_of_le (h.lt own stock) (Edits.evolves edits).handles
  · exact (Handles.release?_retireAll handles handle).trans (if_pos (perm.mem_iff.mpr stock))
  · refine (Handles.release?_retireAll handles handle).trans ((if_neg fun retired => ?_).trans pending)
    exact away (perm.mem_iff.mp retired)

/-- Lanes and barriers make no difference to what the end takes away. -/
theorem Ended.of_core {activation : Activation} (h : Ended base id activation.core env env') :
    Ended base id activation env env' :=
  ⟨h.row, h.bus, h.changes, h.live, h.diagnostics, h.last, h.recorded, h.once, h.spent, h.kept⟩

end Environment

namespace World
variable {base : List ProviderKind} {world : World} {calls : List Call} {id : ActivationId}

theorem ended_teardown (sound : Sound world calls) (square : world.Square base)
    (disposals : Disposals world) {name : String} (found : world.live? name = some id)
    (entries : Journal) :
    Environment.Ended base id (world.activation id) world.env
      ((world.teardown id).1.env.log entries) := by
  have lt := sound.live_lt found
  have holds := (sound.orderly.live _ (Sound.lookup_mem found)).2
  exact (Environment.Stock.ended square sound.owned (Sound.core_eq lt) holds (disposals id lt)
    entries).of_core

/-- Ending an activation and dropping it come to the same, but for what is noted. -/
theorem ended_surround (sound : Sound world calls) (square : world.Square base)
    (disposals : Disposals world) {name : String} (found : world.live? name = some id)
    {move : WorldMove} (ends : move = .deactivate name ∨ move = .drop name) :
    Environment.Ended base id (world.activation id) world.env (world.surround move).env := by
  rcases ends with rfl | rfl
  · have ended := ended_teardown sound square disposals found [.deactivated (world.teardown id).2]
    simp only [surround, World.deactivate, found]
    exact ended
  · have ended := ended_teardown sound square disposals found []
    simp only [surround, World.drop, found]
    simpa only [Environment.log, List.append_nil] using ended

end World

/-- **Teardown is complete and ordered.**  Whatever was done before and whatever is still pending,
deactivating a live activation or dropping it takes away its four subscriptions, the formatting
providers if its gate is open and then the others, its diagnostics and at last its session, and
nothing else; the session records one disposal in all.  Whoever runs the release of a handle leaves
the handle spent, and so does a gate that is closed with each handle that it held; a spent handle
stays so for ever, and disposing it does nothing: so no release runs twice, those of formatting
providers that were toggled away included. -/
theorem teardown_complete (outset : Outset) (ledger : Ledger)
    (actions : List (Action WorldRequest WorldMove)) :
    let work := World.machine.run (outset.host ledger) actions
    (∀ name id, work.state.live? name = some id →
      ∀ move, move = .deactivate name ∨ move = .drop name →
        Environment.Ended ledger.live id (work.state.activation id) work.state.env
          (World.machine.perform work (.move move)).state.env) ∧
    ∀ handle,
      ((work.state.env.dispose handle).2 = true →
        Environment.Spent handle (work.state.env.dispose handle).1) ∧
      ((work.state.env.disposePlain handle).2 = true →
        Environment.Spent handle (work.state.env.disposePlain handle).1) ∧
      (∀ gate, handle ∈ (work.state.env.gate gate).held →
        Environment.Spent handle (work.state.env.setEnabled gate false).1) ∧
      (Environment.Spent handle work.state.env → ∀ later,
        let env := (World.machine.run work later).state.env
        Environment.Spent handle env ∧ env.dispose handle = (env, false) ∧
          env.disposePlain handle = (env, false)) := by
  intro work
  obtain ⟨sound, square⟩ := World.square_run outset ledger actions
  have disposals := World.disposals_run outset ledger actions
  refine ⟨fun name id found move ends => World.ended_surround sound square disposals found ends,
    fun handle => ⟨Environment.spent_of_dispose sound.tidy, Environment.spent_of_disposePlain,
      fun gate held => Environment.spent_of_closing sound.tidy held, fun spent later => ?_⟩⟩
  have still := World.spent_run sound spent later
  exact ⟨still, still.dispose⟩

/-- The gate of an activation is closed and opened again, and the activation comes to its end while
a text is still held back: the handles of the formatting providers that were toggled away are spent
by then, and they stay so. -/
theorem teardown_complete_after_toggles :
    let doc : Document := ⟨⟨"file:///a.qs"⟩, "qsharp", 1, "old", false⟩
    let outset : Outset := ⟨⟨false, false, false⟩, ⟨false, false, false, []⟩, ["file:///a.qs@1"],
      ⟨.directory [("engine.wasm", .file [0])]⟩, .memory ⟨.unrestricted, true⟩, [], "qsharp",
      "engine.wasm"⟩
    let ledger : Ledger := ⟨[.registered .hover], [⟨.hover, "qsharp"⟩]⟩
    let toggle (enabled : Bool) : List (Action WorldRequest WorldMove) :=
      [.move (.source (.memory ⟨.unrestricted, enabled⟩)),
        .move (.route "a" ⟨[ConfigChange.formattingKey]⟩)]
    let work := World.machine.run (outset.host ledger)
      ([.start (.activate "a"), .poll 0, .start (.publish (.opened doc)), .poll 0] ++
        toggle false ++ toggle true)
    let after := World.machine.perform work (.move (.deactivate "a"))
    work.state.live? "a" = some 0 ∧ work.calls.length = 1 ∧
      work.state.env.ledger.live.length = 10 ∧
      Environment.Ended ledger.live 0 (work.state.activation 0) work.state.env after.state.env ∧
      after.state.env.ledger.live = [.hover] ∧
      Environment.Spent 9 work.state.env ∧
      ∀ later, Environment.Spent 9 (World.machine.run work later).state.env := by
  intro doc outset ledger toggle work after
  have live : work.state.live? "a" = some 0 := by decide +kernel
  have spent : Environment.Spent 9 work.state.env := by
    unfold Environment.Spent
    decide +kernel
  obtain ⟨ends, handles⟩ := teardown_complete outset ledger
    ([.start (.activate "a"), .poll 0, .start (.publish (.opened doc)), .poll 0] ++
      toggle false ++ toggle true)
  exact ⟨live, by decide +kernel, by decide +kernel, ends "a" 0 live _ (.inl rfl),
    by decide +kernel, spent, fun later => ((handles 9).2.2.2 spent later).1⟩

end EngineSync
