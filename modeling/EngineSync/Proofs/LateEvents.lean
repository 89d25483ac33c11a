import EngineSync.Proofs.Fences
import EngineSync.Proofs.Takings

/-!
# Events that come late

Events that are published while the open documents of an activation are on their way wait at its
barrier, and the barrier keeps no order among them: once it is open, each is taken up when its
publication gets a chance.  Its session is asked for them in this order, which is the order of their
publications as long as these get their chances in it.
-/
namespace EngineSync
namespace World
variable {world : World} {calls : List Call} {id : ActivationId} {docs : List Document}
  {events : List Event} {work : Work World Call CallResult}

/-- What stands in line is asked for in the order in which it was taken up, and once no publication
is under way, all of it was. -/
theorem InLine.asked (h : InLine id docs events world calls) (uri : Uri) :
    let filter := (world.activation id).filter
    let due := (docs.filter fun doc => filter.tracks doc && doc.uri = uri).map Document.update ++
      (events.filter (·.isOf filter uri)).filterMap Event.request?
    world.asked id uri <+: due ∧
      ((∀ call ∈ calls, call.isPublication = false) → world.asked id uri = due) := by
  intro filter due
  obtain ⟨queue, same, mirrors⟩ := h.line
  have asked := (mirrors.asked uri).trans (due_outlook filter docs events uri)
  refine ⟨⟨_, asked⟩, fun finished => ?_⟩
  have nothing : held id calls = [] := List.eq_nil_iff_forall_not_mem.mpr fun forwarding mem =>
    List.not_mem_nil (backlog_eq_nil finished ▸ mem_backlog_of_held mem)
  rw [nothing] at same
  rw [same.eq_nil, List.flatMap_nil, List.filter_nil, List.append_nil] at asked
  exact asked

/-- A publication keeps its event as long as it is under way. -/
theorem event_perform {number : Nat} {event : Event} (sound : Sound work.state work.calls)
    (numbered : work.Numbered) (given : number < work.started)
    (brings : ∀ call ∈ work.call? number, call.event? = some event)
    {action : Action WorldRequest WorldMove} (kept : ¬Machine.GivesUp number work action) :
    ∀ call ∈ (World.machine.perform work action).call? number, call.event? = some event := by
  intro next mem
  cases found : work.call? number with
  | none =>
    rw [(Machine.gone_perform given found action).1] at mem
    cases mem
  | some call =>
    rcases Machine.kept_perform numbered found kept with ⟨same, -⟩ | ⟨before, behind, split, rfl⟩
    · rw [same] at mem
      exact brings next (found ▸ mem)
    · rw [Machine.call?_poll_own numbered split] at mem
      have own := (@taking_poll _ _ _ 0 (Sound.tells.keeps.at_place sound split)).1 next
        (Progress.mem_rest_head?.mp mem)
      exact own.trans (brings call found)

/-- A run that gives up no publication keeps one that is under way. -/
theorem Waited.keepsUp {number : Nat} {event : Event} {later : List (Action WorldRequest WorldMove)}
    (waited : Waited id work later) (sound : Sound work.state work.calls) (numbered : work.Numbered)
    (given : number < work.started)
    (brings : ∀ call ∈ work.call? number, call.event? = some event) :
    World.machine.KeepsUp number work later := by
  induction later generalizing work with
  | nil => trivial
  | cons action rest ih =>
    have kept : ¬Machine.GivesUp number work action := by
      cases action with
      | start request | poll place | move way => exact fun given => given
      | cancel place =>
        rintro ⟨job, at_place, rfl⟩
        have there : job ∈ work.jobs := List.mem_of_getElem? at_place
        have own := brings job.call (numbered.call?_of_mem there)
        have other := waited.1 job at_place
        match job.call, own, other with
        | .publish _, _, other => cases other
    exact ⟨kept, ih waited.2 (Sound.tells.keeps.perform sound action)
      (Machine.numbered_perform numbered action)
      (Nat.lt_of_lt_of_le given (Machine.started_le work action))
      (event_perform sound numbered given brings kept)⟩

/-- **An event that waits is taken up**, if the barrier opens and its publication comes to its
end. -/
theorem Waited.taken {number : Nat} {event : Event} {later : List (Action WorldRequest WorldMove)}
    (waited : Waited id work later) (sound : Sound work.state work.calls) (numbered : work.Numbered)
    (waits : ∃ call ∈ work.call? number, call.Waits id event)
    (released : ((World.machine.run work later).state.activation id).barrier = .open)
    (gone : (World.machine.run work later).call? number = none) :
    (number, event) ∈ takenUp id (World.machine.chronicle World.notes work later) := by
  have there := waits
  obtain ⟨call, found, waiting, rfl⟩ := there
  have kept := waited.keepsUp sound numbered (numbered.lt_started found)
    (fun call mem => by cases found.symm.trans mem; rfl)
  have fate := fate_run sound numbered waits kept
  rw [gone] at fate
  -- it is gone, so it is past the listener, and the barrier was not abandoned
  rcases fate with ⟨⟨call, here, -⟩, -⟩ | ⟨-, ⟨-, taken⟩ | ⟨abandoned, -⟩⟩
  · cases here
  · exact mem_takenUp (taken ▸ List.mem_singleton_self event)
  · rw [released] at abandoned
    cases abandoned

end World

open World in
/-- **Late events keep the order in which they are taken up.**  The open documents of an activation
are on their way, and whatever is published meanwhile waits.  Whoever gets a chance when, whatever
the engine answers and whenever it does: if publications are not given up, the barrier opens and the
session is not ended, then it is asked for the tracked documents that were open and after them for
the tracked documents of the events in the order in which these were taken up, with none of them
missing once no publication is under way.  Every event that waits is taken up before its publication
ends, and none of them twice.  So if the events of a document are taken up in the order in which
they were published, its session is asked for them in that order. -/
theorem late_events (outset : Outset) (ledger : Ledger)
    (before later : List (Action WorldRequest WorldMove)) (id : ActivationId)
    (docs : List Document) (uri : Uri) :
    let start := outset.host ledger
    let work := World.machine.run start before
    let after := World.machine.run work later
    let taken := takenUp id (World.machine.chronicle World.notes work later)
    let filter := (after.state.activation id).filter
    let mine := taken.filter (·.2.isOf filter uri)
    let due := (docs.filter fun doc => filter.tracks doc && doc.uri = uri).map Document.update ++
      (mine.map (·.2)).filterMap Event.request?
    .subscribed id docs ∈ (World.machine.chronicle World.notes start before).map (·.2) →
    (work.state.activation id).barrier = .replaying → Waited id work later →
    (after.state.activation id).barrier = .open → ¬Ended id after.state →
    after.state.asked id uri <+: due ∧
      ((∀ call ∈ after.calls, call.isPublication = false) → after.state.asked id uri = due) ∧
      (∀ number event, (∃ call ∈ work.call? number, call.Waits id event) →
        after.call? number = none → (number, event) ∈ taken) ∧
      (taken.map (·.1)).Nodup ∧
      (mine.Pairwise (·.1 < ·.1) →
        mine.Sublist ((publications start (before ++ later)).filter (·.2.isOf filter uri))) := by
  intro start work after taken filter mine due noted closed waited released up
  have known : Known ledger.live work.state work.calls
      ((World.machine.chronicle World.notes start before).map (·.2)) :=
    (known_tells ledger.live).machine.run (known_host outset ledger) before
  have numbered : work.Numbered := Machine.numbered_run (.idle _) before
  have halted :=
    ((halted_keeps id).run ⟨sound_host outset ledger, List.forall_mem_nil _⟩ before).2
  have account : Takings id after (publications start (before ++ later)) taken := by
    have outset : Takings id start [] [] :=
      ⟨.nil, List.forall_mem_nil _, List.forall_mem_nil _, List.nil_subset _, .nil,
        List.forall_mem_nil _⟩
    have since := (outset.run (sound_host _ ledger) (.idle _) before).since.run known.sound numbered
      later
    rwa [publications_append]
  have lines : LinesUp id docs [] work.state work.calls := by
    -- whoever asks a session directly found its barrier open
    refine .inr ⟨fun call mem asked same => ?_, .inl ⟨closed, rfl⟩⟩
    have open' := known.sound.orderly.working id (List.mem_filterMap.mpr ⟨call, mem, same ▸ rfl⟩)
    rw [open'] at closed
    cases closed
  have inLine : InLine id docs (takenFor id ((World.machine.chronicle World.notes work later).map
      (·.2))) after.state after.calls := by
    rcases (lines.run known noted halted waited).resolve_left up with ⟨-, ⟨closed', -⟩ | inLine⟩
    · exact absurd (released.symm.trans closed') Barrier.noConfusion
    · exact inLine
  have asked := inLine.asked uri
  have events : (takenFor id ((World.machine.chronicle World.notes work later).map (·.2))).filter
      (·.isOf filter uri) = mine.map (·.2) := by
    rw [← takenUp_events, List.filter_map]
    rfl
  dsimp only at asked
  rw [events] at asked
  exact ⟨asked.1, asked.2,
    fun number event waits gone => waited.taken known.sound numbered waits released gone,
    account.once, account.sublist _⟩

open World in
/-- Two documents change twice while the open text of one of them is held back.  Its second change
is taken up first, so the engine is left with the first one; the changes of the other one are taken
up in the order in which they were published. -/
theorem late_events_of_two_documents :
    let doc (name : String) (version : Int) : Document :=
      ⟨⟨"file:///" ++ name⟩, "qsharp", version, name, false⟩
    let x := doc "x"
    let y := doc "y"
    let outset : Outset := ⟨⟨false, false, false⟩, ⟨false, false, false, []⟩, ["file:///x@1"],
      ⟨.directory [("engine.wasm", .file [0])]⟩, .memory .standard, [x 1], "qsharp",
      "engine.wasm"⟩
    let ledger : Ledger := ⟨[], []⟩
    let publish (event : Event) : Action WorldRequest WorldMove := .start (.publish event)
    let before := [.start (.activate "a"), .poll 0, publish (.changed (x 2)), .poll 1,
      publish (.changed (x 3)), .poll 2, publish (.opened (y 1)), .poll 3, publish (.changed (y 2)),
      .poll 4]
    let later : List (Action WorldRequest WorldMove) := [.move (.release "file:///x@1"), .poll 0,
      .poll 1, .poll 1, .poll 0, .poll 0]
    let start := outset.host ledger
    let work := World.machine.run start before
    let after := World.machine.run work later
    let taken := takenUp 0 (World.machine.chronicle World.notes work later)
    let published := publications start (before ++ later)
    taken = [(2, .changed (x 3)), (3, .opened (y 1)), (1, .changed (x 2)), (4, .changed (y 2))] ∧
      after.state.asked 0 (x 1).uri = [(x 1).update, (x 3).update, (x 2).update] ∧
      after.state.asked 0 (y 1).uri = [(y 1).update, (y 2).update] ∧
      (4, .changed (y 2)) ∈ taken ∧
      (taken.filter (·.2.isOf (after.state.activation 0).filter (y 1).uri)).Sublist
        (published.filter (·.2.isOf (after.state.activation 0).filter (y 1).uri)) := by
  intro doc x y outset ledger publish before later start work after taken published
  have noted : .subscribed 0 [x 1] ∈
      (World.machine.chronicle World.notes start before).map (·.2) := by decide +kernel
  have closed : (work.state.activation 0).barrier = .replaying := by decide +kernel
  have waited : Waited 0 work later := by decide +kernel
  have released : (after.state.activation 0).barrier = .open := by decide +kernel
  have up : ¬Ended 0 after.state := by
    unfold Ended
    decide +kernel
  have finished : ∀ call ∈ after.calls, call.isPublication = false := by decide +kernel
  have late (uri : Uri) :=
    late_events outset ledger before later 0 [x 1] uri noted closed waited released up
  have waits : ∃ call ∈ work.call? 4, call.Waits 0 (.changed (y 2)) :=
    ⟨.publish (.delivering ⟨.changed (y 2), some (.activation 0 .arriving), []⟩), by decide +kernel,
      [], rfl⟩
  exact ⟨by decide +kernel, ((late (x 1).uri).2.1 finished).trans (by decide +kernel),
    ((late (y 1).uri).2.1 finished).trans (by decide +kernel),
    (late (x 1).uri).2.2.1 4 (.changed (y 2)) waits (by decide +kernel),
    (late (y 1).uri).2.2.2.2 (by decide +kernel)⟩

open World in
/-- Two texts of a document are published while an activation replays it, the first one before the
second one.  Another activation stands in front, and its engine call holds the first publication
back while the activation is ended; so the second one passes the barrier first, and the engine is
left with the older text. -/
theorem late_events_overtaken :
    let x (version : Int) (text : String) : Document :=
      ⟨⟨"file:///x"⟩, "qsharp", version, text, false⟩
    let opened := x 1 "v1"
    let older := x 2 "v2"
    let newer := x 3 "v3"
    let outset : Outset := ⟨⟨false, false, false⟩, ⟨false, false, false, []⟩,
      ["file:///x@1", "file:///x@2"], ⟨.directory [("engine.wasm", .file [0])]⟩, .memory .standard,
      [opened], "qsharp", "engine.wasm"⟩
    let release (key : String) : Action WorldRequest WorldMove := .move (.release key)
    let front := [.start (.activate "a"), .poll 0, release "file:///x@1", .poll 0]
    let subscribes : List (Action WorldRequest WorldMove) := [.start (.activate "b"), .poll 0]
    let publishes : List (Action WorldRequest WorldMove) := [
      .start (.publish (.changed older)), .poll 1, .move (.deactivate "a"),
      .start (.publish (.changed newer)), .poll 2]
    let replays := [release "file:///x@1", .poll 0, .poll 1]
    let rest := [release "file:///x@2", .poll 0, release "file:///x@2", .poll 0]
    let replaying := outset.reach (front ++ subscribes)
    let published := outset.reach (front ++ subscribes ++ publishes)
    let after := outset.reach (front ++ subscribes ++ publishes ++ replays ++ rest)
    (replaying.state.activation 1).barrier = .replaying ∧
      (published.state.activation 1).barrier = .replaying ∧
      publications replaying publishes = [(2, .changed older), (3, .changed newer)] ∧
      after.calls = [] ∧
      after.results = [(0, .active), (1, .active), (3, .delivered), (2, .delivered)] ∧
      after.state.live? "b" = some 1 ∧ ¬Ended 1 after.state ∧
      after.state.asked 1 opened.uri = [opened.update, newer.update, older.update] ∧
      (after.state.asked 1 opened.uri).foldl Request.applied none = some ⟨2, "v2"⟩ := by
  intro x opened older newer outset release front subscribes publishes replays rest replaying
    published after
  have up : ¬Ended 1 after.state := by
    unfold Ended
    decide +kernel
  exact ⟨by decide +kernel, by decide +kernel, by decide +kernel, by decide +kernel,
    by decide +kernel, by decide +kernel, up, by decide +kernel, by decide +kernel⟩

end EngineSync
