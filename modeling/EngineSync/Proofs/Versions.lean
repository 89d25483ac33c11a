import EngineSync.Proofs.Collections
import EngineSync.Proofs.Summaries

/-!
# Versions of reports

A collection keeps the version of a report when the diagnostics are cleared, and forgets it only
when its activation is torn down.  So as long as an activation holds anything, the version that its
collection has of a document is the greatest that was ever reported for it, whatever was opened and
closed in between (`World.Kept`).  A report of the engine is therefore taken just if no greater
version was reported before, and this goes for documents that were closed and opened again as well.
-/
namespace EngineSync

namespace DiagnosticsCollection

/-- Every version that a collection had of a document, it still has. -/
structure Recalls (before after : DiagnosticsCollection) : Prop where
  events : after.hasEvents = before.hasEvents
  version : ∀ uri, after.version? uri = before.version? uri

namespace Recalls
variable {before between after : DiagnosticsCollection}

theorem refl (collection : DiagnosticsCollection) : Recalls collection collection :=
  ⟨rfl, fun _ => rfl⟩

theorem of_eq (same : after = before) : Recalls before after :=
  same ▸ .refl before

theorem trans (h : Recalls before between) (h' : Recalls between after) : Recalls before after :=
  ⟨h'.events.trans h.events, fun uri => (h'.version uri).trans (h.version uri)⟩

theorem clear (collection : DiagnosticsCollection) (uri : Uri) :
    Recalls collection (collection.clear uri) := by
  refine ⟨hasEvents_change collection (.clear uri), fun other => ?_⟩
  rw [version?, version?, find?_clear]
  split
  · next here =>
    subst here
    cases collection.find? uri <;> rfl
  · rfl

theorem clearEach (collection : DiagnosticsCollection) (uris : List Uri) :
    Recalls collection (collection.clearEach uris) := by
  induction uris generalizing collection with
  | nil => exact .refl collection
  | cons uri rest ih => exact (clear collection uri).trans (ih _)

end Recalls

variable {collection : DiagnosticsCollection} {uri : Uri} {versions : List Int}

theorem max?_concat (versions : List Int) (new : Int) :
    (versions ++ [new]).max? = some (versions.max?.elim new (max · new)) := by
  cases versions with
  | nil => rfl
  | cons first rest =>
    rw [List.cons_append, List.max?_cons', List.max?_cons', List.foldl_append]
    rfl

/-- The greatest of the versions that were reported is known after one more report, whether it is
taken or ignored. -/
theorem version?_publish (known : collection.version? uri = versions.max?) (uri' : Uri)
    (version : Option Int) (diagnostics : List Diagnostic) :
    (collection.publish uri' version diagnostics).1.version? uri =
      (versions ++ if uri' = uri then version.toList else []).max? := by
  by_cases stale : isStale version (collection.version? uri') = false
  · rw [version?, find?_publish stale]
    split
    · next here =>
      subst here
      cases version with
      | none => simpa using known
      | some new =>
        rw [known] at stale ⊢
        rw [Option.toList_some, max?_concat]
        cases greatest : versions.max? with
        | none => rfl
        | some old =>
          rw [greatest] at stale
          have le : old ≤ new := by simpa [isStale] using stale
          simp [max_eq_right le]
    · rw [List.append_nil]
      exact known
  · rw [publish_ignored stale]
    split
    · next here =>
      subst here
      rw [known] at stale ⊢
      cases version with
      | none => simp
      | some new =>
        rw [Option.toList_some, max?_concat]
        cases greatest : versions.max? with
        | none => simp [greatest, isStale] at stale
        | some old =>
          have lt : new < old := by simpa [greatest, isStale] using stale
          simp [max_eq_left lt.le]
    · rw [List.append_nil]
      exact known

/-- A report is taken just if no greater version was reported before. -/
theorem isStale_iff (known : collection.version? uri = versions.max?) (version : Int) :
    isStale (some version) (collection.version? uri) = false ↔ ∀ old ∈ versions, old ≤ version := by
  rw [known]
  cases greatest : versions.max? with
  | none =>
    rw [List.max?_eq_none_iff.mp greatest]
    simp [isStale]
  | some old =>
    obtain ⟨mem, le⟩ := List.max?_eq_some_iff.mp greatest
    simp only [isStale, decide_eq_false_iff_not, Int.not_lt]
    exact ⟨fun fresh other there => (le other there).trans fresh, fun all => all old mem⟩

end DiagnosticsCollection

namespace World

/-! ## What happens to collections -/

/-- No version is forgotten but by the collections of activations that hold nothing any more, and
whoever holds something, held it before. -/
structure Recalls (world world' : World) : Prop where
  length : world.activations.length ≤ world'.activations.length
  collections : world.env.collections.length ≤ world'.env.collections.length
  belongs : ∀ id < world.activations.length,
    (world'.activation id).collection = (world.activation id).collection
  holds : ∀ id < world.activations.length, (world.activation id).owner.held = [] →
    (world'.activation id).owner.held = []
  collection : ∀ number < world.env.collections.length,
    (world.env.collection number).Recalls (world'.env.collection number) ∨
      ∃ id < world'.activations.length, (world'.activation id).collection = number ∧
        (world'.activation id).owner.held = []

namespace Recalls
variable {world world' : World} {call : Call} {calls : List Call}

theorem of_alters {allowed : CollectionId → DiagnosticsCollection → DiagnosticsCollection → Prop}
    (h : Alters allowed world world')
    (recalls : ∀ {number before after}, allowed number before after → before.Recalls after) :
    Recalls world world' :=
  ⟨h.length, h.collections, h.belongs, h.holds, fun number lt =>
    (h.collection number lt).imp_left recalls⟩

theorem of_still (h : Still world world') : Recalls world world' :=
  of_alters h .of_eq

theorem refl (world : World) : Recalls world world :=
  of_still (.refl world)

/-- **No step makes a collection forget a version** as long as its activation holds anything. -/
theorem hop {notes : List WorldNote} {progress : Progress Call CallResult}
    (h : Sound world (call :: calls)) (hop : Hop world call notes world' progress) :
    Recalls world world' :=
  of_alters (.hop h hop) fun {_ before after} cleared => by
    rw [cleared]
    exact .clearEach before _

theorem cancel (h : Sound world (call :: calls)) : Recalls world (world.cancel call) :=
  of_still (.cancel h)

theorem surround (h : Sound world calls) {move : WorldMove} (silent : move.isReport = false) :
    Recalls world (world.surround move) :=
  of_still (.surround h silent)

end Recalls

/-! ## Collections in use -/

section
variable {world world' : World} {call : Call} {calls calls' : List Call} {number : CollectionId}

/-- A collection in use has forgotten nothing. -/
theorem Collects.recalls (used : Collects number world' calls') (h : Sound world' calls')
    (recalls : Recalls world world') (lt : number < world.env.collections.length) :
    (world.env.collection number).Recalls (world'.env.collection number) :=
  (recalls.collection number lt).resolve_right fun ⟨_, there, own, nothing⟩ =>
    used.holds h there own nothing

/-- Activations that hold something held it before. -/
theorem Recalls.collects (recalls : Recalls world world')
    (length : world'.activations.length = world.activations.length)
    (fewer : ∀ pair ∈ calls'.filterMap Call.newborn?, pair ∈ calls.filterMap Call.newborn?)
    (used : Collects number world' calls') : Collects number world calls := by
  rcases used with ⟨session, newborn⟩ | ⟨id, lt, own, holds⟩
  · exact .inl ⟨session, fewer _ newborn⟩
  · have lt' := length ▸ lt
    exact .inr ⟨id, lt', (recalls.belongs id lt').symm.trans own,
      fun none => holds (recalls.holds id lt' none)⟩

/-- A collection that is in use after a step was in use before, or it was just made. -/
theorem Collects.hop {notes : List WorldNote} {progress : Progress Call CallResult}
    (h : Sound world (call :: calls)) (hop : Hop world call notes world' progress)
    (used : Collects number world' (progress.rest ++ calls)) :
    Collects number world (call :: calls) ∨
      number = world.env.collections.length ∧ world'.env.collection number = .withEvents := by
  have recalls := Recalls.hop h hop
  rcases used with ⟨session, newborn⟩ | ⟨id, lt, own, holds⟩
  · rw [List.filterMap_append, List.mem_append] at newborn
    rcases newborn with new | old
    · cases hop with
      | @began name env session' env' ticket opened applied =>
        obtain ⟨-, -, size, granted, permits, journal, rfl⟩ := began_eq opened applied
        cases List.mem_singleton.mp new
        exact .inr ⟨rfl, by simp [Environment.collection]⟩
      | refused | rejected | subscribed | replay | ready | failed | publish | call | finish =>
        cases new
      | @listen event listener waiting _ _ outcome _ =>
        rcases outcome with listener | failure | ⟨⟩ <;> cases new
      | sync id call =>
        rw [World.poll, Progress.rest_map] at new
        simp [Call.newborn?] at new
    · refine .inl (.inl ⟨session, ?_⟩)
      rw [List.filterMap_cons]
      split
      · exact old
      · exact List.mem_cons_of_mem _ old
  · by_cases there : id < world.activations.length
    · exact .inl (.inr ⟨id, there, (recalls.belongs id there).symm.trans own,
        fun none => holds (recalls.holds id there none)⟩)
    · -- a newcomer has taken over the collection of the session that came up
      obtain ⟨-, -, next, mem, replays⟩ := (h.newcomer_hop hop lt).resolve_left there
      cases hop with
      | refused | rejected | ready | failed | finish => cases mem
      | began | publish | call => cases List.mem_singleton.mp mem; cases replays
      | @subscribed name collection session settings ticket env collected =>
        cases List.mem_singleton.mp mem
        cases replays
        rw [activation_welcome, if_pos rfl] at own
        exact .inl (.inl ⟨session, by simp [Call.newborn?, ← own, Activation.install,
          Activation.register]⟩)
      | replay =>
        cases List.mem_singleton.mp mem
        cases replays
        exact absurd (h.lt_of_ids List.mem_cons_self) there
      | @listen event listener waiting _ _ outcome _ =>
        rcases outcome with listener | failure | ⟨⟩
        · cases List.mem_singleton.mp mem; cases replays
        · cases mem
        · cases List.mem_singleton.mp mem; cases replays
      | sync id call =>
        rw [World.poll, Progress.rest_map] at mem
        obtain ⟨call', -, rfl⟩ := List.mem_map.mp mem
        cases replays

end

/-! ## What was reported -/

/-- The version that a report brings to a collection, if it is about a document. -/
def reported (number : CollectionId) (uri : Uri) (work : Work World Call CallResult) :
    Action WorldRequest WorldMove → List Int
  | .move (.report uri' version _) =>
    if work.state.env.engine.newestSink = some number ∧
        number < work.state.env.collections.length ∧ uri' = uri then version.toList
    else []
  | _ => []

/-- The versions that reports bring to a collection, in order. -/
def reports (number : CollectionId) (uri : Uri) (work : Work World Call CallResult) :
    List (Action WorldRequest WorldMove) → List Int
  | [] => []
  | action :: rest =>
    reported number uri work action ++ reports number uri (World.machine.perform work action) rest

/-- As long as a collection is in use, it has events, and the version that it has of a document is
the greatest that was reported. -/
structure Kept (number : CollectionId) (uri : Uri) (versions : List Int) (world : World)
    (calls : List Call) : Prop where
  sound : Sound world calls
  unborn : world.env.collections.length ≤ number → versions = []
  events : Collects number world calls → (world.env.collection number).hasEvents = true
  known : Collects number world calls →
    (world.env.collection number).version? uri = versions.max?

namespace Kept
variable {number : CollectionId} {uri : Uri} {versions : List Int} {world world' : World}
  {call : Call} {calls calls' : List Call} {work : Work World Call CallResult}

theorem recalls (h : Kept number uri versions world calls) (sound : Sound world' calls')
    (recalls : Recalls world world')
    (before : Collects number world' calls' → Collects number world calls) :
    Kept number uri versions world' calls' where
  sound := sound
  unborn le := h.unborn (Nat.le_trans recalls.collections le)
  events used := ((used.recalls sound recalls ((before used).lt h.sound)).events).trans
    (h.events (before used))
  known used := ((used.recalls sound recalls ((before used).lt h.sound)).version uri).trans
    (h.known (before used))

theorem perm (h : Kept number uri versions world calls) (hp : calls.Perm calls') :
    Kept number uri versions world calls' :=
  h.recalls (h.sound.perm hp) (.refl world)
    (Recalls.collects (.refl world) rfl fun _ mem => (hp.filterMap _).mem_iff.mpr mem)

theorem hop (h : Kept number uri versions world (call :: calls)) {notes : List WorldNote}
    {progress : Progress Call CallResult} (hop : Hop world call notes world' progress) :
    Kept number uri versions world' (progress.rest ++ calls) := by
  have sound := h.sound.hop hop
  have recalls := Recalls.hop h.sound hop
  refine ⟨sound, fun le => h.unborn (Nat.le_trans recalls.collections le), fun used => ?_,
    fun used => ?_⟩
  -- a collection that has just been made is one of which no report could know
  all_goals rcases Collects.hop h.sound hop used with before | ⟨new, made⟩
  · exact ((used.recalls sound recalls (before.lt h.sound)).events).trans (h.events before)
  · rw [made]
    rfl
  · exact ((used.recalls sound recalls (before.lt h.sound)).version uri).trans (h.known before)
  · rw [made, h.unborn (Nat.le_of_eq new.symm)]
    rfl

theorem poll (h : Kept number uri versions world (call :: calls)) :
    Kept number uri versions (world.poll call).1 ((world.poll call).2.rest ++ calls) :=
  (poll_hops h.sound.tidy call).carries
    (fun world rest => Kept number uri versions world (rest ++ calls)) (fun h step => h.hop step) h

theorem accept (h : Kept number uri versions world calls) {request : WorldRequest}
    (accepted : world.accept request = some call) :
    Kept number uri versions world (call :: calls) := by
  refine h.recalls (h.sound.accepts accepted) (.refl world)
    (Recalls.collects (.refl world) rfl fun pair mem => ?_)
  have none : call.newborn? = none := by
    cases request with
    | activate | publish => cases accepted; rfl
    | sync id request =>
      simp only [World.accept, Option.ite_none_right_eq_some, Option.some.injEq] at accepted
      rw [← accepted.2]
      rfl
  rwa [List.filterMap_cons_none none] at mem

theorem cancel (h : Kept number uri versions world (call :: calls)) :
    Kept number uri versions (world.cancel call) calls := by
  refine h.recalls h.sound.cancels (.cancel h.sound)
    (Recalls.collects (.cancel h.sound) (Sound.length_cancel world call) fun pair mem => ?_)
  rw [List.filterMap_cons]
  split
  · exact mem
  · exact List.mem_cons_of_mem _ mem

theorem surround (h : Kept number uri versions world calls) {move : WorldMove}
    (silent : move.isReport = false) : Kept number uri versions (world.surround move) calls :=
  h.recalls (h.sound.surrounds move) (.surround h.sound silent)
    (Recalls.collects (.surround h.sound silent) (h.sound.length_surround move) fun _ mem => mem)

/-- A report brings its version. -/
theorem report (h : Kept number uri versions work.state work.calls) (uri' : Uri)
    (version : Option Int) (diagnostics : List Diagnostic) :
    let move : Action WorldRequest WorldMove := .move (.report uri' version diagnostics)
    Kept number uri (versions ++ reported number uri work move)
      (work.state.surround (.report uri' version diagnostics)) work.calls := by
  intro move
  have sound := h.sound.surrounds (.report uri' version diagnostics)
  cases newest : work.state.env.engine.newestSink with
  | none =>
    have nothing : reported number uri work move = [] := by simp [reported, move, newest]
    have same : work.state.surround (.report uri' version diagnostics) = work.state := by
      simp [World.surround, Environment.publishDiagnostics, newest]
    rw [nothing, same, List.append_nil]
    exact h
  | some sink =>
    let published := ((work.state.env.collection sink).publish uri' version diagnostics).1
    have env : (work.state.surround (.report uri' version diagnostics)).env.collections =
        work.state.env.collections.set sink published := by
      simp only [World.surround, Environment.publishDiagnostics, newest]
      rfl
    have length : (work.state.surround (.report uri' version diagnostics)).env.collections.length =
        work.state.env.collections.length := by rw [env, List.length_set]
    have before (used : Collects number (work.state.surround (.report uri' version diagnostics))
        work.calls) : Collects number work.state work.calls := used
    refine ⟨sound, fun le => ?_, fun used => ?_, fun used => ?_⟩
    · have nothing : reported number uri work move = [] :=
        if_neg fun brought => Nat.not_le_of_lt brought.2.1 (length ▸ le)
      rw [nothing, h.unborn (length ▸ le), List.append_nil]
    all_goals
      have lt := (before used).lt h.sound
      have events := h.events (before used)
      have known := h.known (before used)
      rw [Environment.collection, env]
      by_cases here : sink = number
    · subst here
      rw [List.getElem?_set_self lt]
      exact (DiagnosticsCollection.hasEvents_change _ (.publish uri' version diagnostics)).trans events
    · rw [List.getElem?_set_ne here]
      exact events
    · subst here
      rw [List.getElem?_set_self lt]
      refine (DiagnosticsCollection.version?_publish known uri' version diagnostics).trans ?_
      simp [reported, move, newest, lt]
    · rw [List.getElem?_set_ne here]
      refine known.trans (congrArg List.max? ?_)
      simp [reported, move, newest, here]

/-- **Every action** keeps what a collection in use knows of a document. -/
theorem perform (h : Kept number uri versions work.state work.calls)
    (action : Action WorldRequest WorldMove) :
    let after := World.machine.perform work action
    Kept number uri (versions ++ reported number uri work action) after.state after.calls := by
  intro after
  by_cases report : ∃ uri' version diagnostics, action = .move (.report uri' version diagnostics)
  · obtain ⟨uri', version, diagnostics, rfl⟩ := report
    exact h.report uri' version diagnostics
  · -- reports apart, every action keeps the versions that were reported until now
    let quiet : Machine World Call CallResult WorldRequest WorldMove :=
      { World.machine with move := fun world way => if way.isReport then world else world.surround way }
    have keeps : quiet.Keeps (Kept number uri versions) := by
      refine ⟨fun hp h => h.perm hp, fun h accepted => h.accept accepted, fun h => h.poll,
        fun h => h.cancel, fun way h => ?_⟩
      by_cases silent : way.isReport = false
      · simpa [quiet, silent] using h.surround silent
      · simpa [quiet, silent] using h
    have nothing : reported number uri work action = [] := by
      cases action with
      | move way =>
        cases way with
        | report => exact absurd ⟨_, _, _, rfl⟩ report
        | _ => rfl
      | _ => rfl
    have same : quiet.perform work action = after := by
      cases action with
      | move way =>
        cases way with
        | report => exact absurd ⟨_, _, _, rfl⟩ report
        | _ => rfl
      | _ => rfl
    rw [nothing, List.append_nil, ← same]
    exact keeps.perform h action

theorem run (h : Kept number uri versions work.state work.calls)
    (actions : List (Action WorldRequest WorldMove)) :
    let after := World.machine.run work actions
    Kept number uri (versions ++ reports number uri work actions) after.state after.calls := by
  induction actions generalizing work versions with
  | nil => simpa [reports] using h
  | cons action rest ih => simpa [reports] using ih (h.perform action)

/-- What becomes of the next report on a document. -/
theorem next (h : Kept number uri versions world calls) (used : Collects number world calls)
    (newest : world.env.engine.newestSink = some number) (version : Int)
    (diagnostics : List Diagnostic) :
    let before := world.env.collection number
    let after := (world.surround (.report uri (some version) diagnostics)).env.collection number
    ((∀ old ∈ versions, old ≤ version) → after.get uri = diagnostics ∧
        after.emitted = before.emitted ++ [.summary uri diagnostics]) ∧
      ((∃ old ∈ versions, version < old) → after = before) := by
  intro before after
  have known := h.known used
  have reached : after = (before.publish uri (some version) diagnostics).1 := by
    have lt := used.lt h.sound
    simp only [after, World.surround, Environment.publishDiagnostics, newest, Environment.log,
      Environment.setCollection, Environment.collection, List.getElem?_set_self lt, Option.getD_some]
    rfl
  rw [reached]
  refine ⟨fun all => ?_, ?_⟩
  · have fresh := (DiagnosticsCollection.isStale_iff known version).mpr all
    refine ⟨?_, DiagnosticsCollection.emitted_publish (h.events used) fresh⟩
    rw [DiagnosticsCollection.get_publish fresh, if_pos rfl]
  · rintro ⟨old, mem, lt⟩
    have stale := (not_congr (DiagnosticsCollection.isStale_iff known version)).mpr fun all =>
      Int.not_le.mpr lt (all old mem)
    rw [DiagnosticsCollection.publish_ignored stale]

end Kept

/-- Whatever happens, a collection in use knows the greatest version that was reported. -/
theorem kept_run (outset : Outset) (ledger : Ledger) (actions : List (Action WorldRequest WorldMove))
    (number : CollectionId) (uri : Uri) :
    let work := World.machine.run (outset.host ledger) actions
    Kept number uri (reports number uri (outset.host ledger) actions) work.state work.calls := by
  have unused : ¬Collects number (outset.host ledger).state (outset.host ledger).calls := by
    rintro (⟨session, newborn⟩ | ⟨id, lt, -⟩)
    · cases newborn
    · cases lt
  have start : Kept number uri [] (outset.host ledger).state (outset.host ledger).calls :=
    ⟨sound_host outset ledger, fun _ => rfl, fun used => absurd used unused,
      fun used => absurd used unused⟩
  exact start.run actions

/-- The session of an activation was told that a document is closed and then that it is there again,
last with some version. -/
def Reopened (world : World) (id : ActivationId) (uri : Uri) (version : Int) : Prop :=
  ∃ earlier between text,
    world.asked id uri = earlier ++ .close uri :: between ++ [.update uri version text]

end World

/-- **A document that was closed and opened again gets its diagnostics, unless its version is
behind.** Whatever was published, reported and cleared before, and whichever version the document
has now: as long as its activation holds anything, a report on this version is taken, with the event
that sums it up, if no report for the document carried a greater version since the activation set
out.  Else the report is ignored, because the collection keeps the greatest version even when the
document is closed. -/
theorem reopened_document_reported (outset : Outset) (ledger : Ledger)
    (actions : List (Action WorldRequest WorldMove)) (id : ActivationId) (uri : Uri) (version : Int)
    (diagnostics : List Diagnostic) :
    let work := World.machine.run (outset.host ledger) actions
    let own := (work.state.activation id).collection
    let reported := World.reports own uri (outset.host ledger) actions
    let before := work.state.env.collection own
    let after := (World.machine.perform work
      (.move (.report uri (some version) diagnostics))).state.env.collection own
    (work.state.activation id).owner.held ≠ [] → work.state.env.engine.newestSink = some own →
    work.state.Reopened id uri version →
      ((∀ old ∈ reported, old ≤ version) → after.get uri = diagnostics ∧
        after.emitted = before.emitted ++ [.summary uri diagnostics]) ∧
      ((∃ old ∈ reported, version < old) → after = before) := by
  intro work own reported before after holds newest _
  have lt : id < work.state.activations.length := by
    by_contra none
    refine holds ?_
    rw [World.activation, List.getElem?_eq_none (Nat.le_of_not_lt none)]
    rfl
  exact (World.kept_run outset ledger actions own uri).next (.inr ⟨id, lt, rfl, holds⟩) newest version
    diagnostics

/-- A document is reported on, closed, and opened again with the next version. -/
theorem reopened_document_reported_with_next_version :
    let outset : Outset := ⟨⟨false, false, false⟩, ⟨false, false, false, []⟩, [],
      ⟨.directory [("engine.wasm", .file [0])]⟩, .memory ⟨.unrestricted, true⟩, [], "qsharp",
      "engine.wasm"⟩
    let uri : Uri := ⟨"file:///a"⟩
    let document (version : Int) : Document := ⟨uri, "qsharp", version, "a", false⟩
    let finding : Diagnostic := ⟨some 1, "finding", 0⟩
    let actions : List (Action WorldRequest WorldMove) := [.start (.activate "a"), .poll 0,
      .start (.publish (.opened (document 5))), .poll 0, .move (.report uri (some 5) [finding]),
      .start (.publish (.closed (document 5))), .poll 0,
      .start (.publish (.opened (document 6))), .poll 0]
    let work := World.machine.run (outset.host ⟨[], []⟩) actions
    let after := World.machine.perform work (.move (.report uri (some 6) [finding]))
    work.state.Reopened 0 uri 6 ∧ (work.state.env.collection 0).get uri = [] ∧
      (after.state.env.collection 0).get uri = [finding] := by
  intro outset uri document finding actions work after
  have reopened : work.state.Reopened 0 uri 6 :=
    ⟨[.update uri 5 "a"], [], "a", by decide +kernel⟩
  have own : (work.state.activation 0).collection = 0 := by decide +kernel
  have reported : World.reports (work.state.activation 0).collection uri (outset.host ⟨[], []⟩)
      actions = [5] := by decide +kernel
  have taken := (reopened_document_reported outset ⟨[], []⟩ actions 0 uri 6 [finding]
    (by decide +kernel) (by decide +kernel) reopened).1 (by rw [reported]; decide)
  refine ⟨reopened, by decide +kernel, ?_⟩
  rw [← own]
  exact taken.1

/-- A document is reported on, closed, and opened again with a smaller version: the report on this
version is lost, with its error, although it is the last that the engine was sent. -/
theorem reopened_document_unreported :
    let outset : Outset := ⟨⟨false, false, false⟩, ⟨false, false, false, []⟩, [],
      ⟨.directory [("engine.wasm", .file [0])]⟩, .memory ⟨.unrestricted, true⟩, [], "qsharp",
      "engine.wasm"⟩
    let uri : Uri := ⟨"file:///a"⟩
    let document (version : Int) : Document := ⟨uri, "qsharp", version, "a", false⟩
    let finding : Diagnostic := ⟨some 1, "finding", 0⟩
    let work := outset.reach [.start (.activate "a"), .poll 0,
      .start (.publish (.opened (document 5))), .poll 0, .move (.report uri (some 5) [finding]),
      .start (.publish (.closed (document 5))), .poll 0,
      .start (.publish (.opened (document 1))), .poll 0]
    let after := World.machine.perform work (.move (.report uri (some 1) [finding]))
    work.state.live? "a" = some 0 ∧ (work.state.activation 0).collection = 0 ∧
      work.state.env.engine.newestSink = some 0 ∧
      work.results = [(0, .active), (1, .delivered), (2, .delivered), (3, .delivered)] ∧
      work.state.asked 0 uri = [.update uri 5 "a", .close uri, .update uri 1 "a"] ∧
      (after.state.env.collection 0).get uri = [] ∧
      (after.state.env.collection 0).emitted = (work.state.env.collection 0).emitted := by
  intro outset uri document finding work after
  exact ⟨by decide +kernel, by decide +kernel, by decide +kernel, by decide +kernel,
    by decide +kernel, by decide +kernel, by decide +kernel⟩

end EngineSync
