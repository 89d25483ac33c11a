import EngineSync.Proofs.Reports

/-!
# Diagnostics and their events

Whoever reads the events of a collection and looks at nothing else knows how many errors and
warnings every document has: the last event about it says so.  `DiagnosticsCollection.Followed` is
this agreement; each change emits just the events that keep it.
-/
namespace EngineSync

/-- What the events tell of a document: the last one about it, and nothing found if there is
none. -/
def DiagnosticsEvent.latest (events : List DiagnosticsEvent) (uri : Uri) : DiagnosticsEvent :=
  (events.filter (·.uri = uri)).getLast?.getD (.summary uri [])

namespace DiagnosticsCollection
open DiagnosticsEvent DiagnosticsChange

variable {collection : DiagnosticsCollection} {past : List DiagnosticsChange} {uri uri' : Uri}
  {version : Option Int} {diagnostics : List Diagnostic}

theorem latest_concat (events : List DiagnosticsEvent) (event : DiagnosticsEvent) (uri : Uri) :
    latest (events ++ [event]) uri = if event.uri = uri then event else latest events uri := by
  unfold latest
  rw [List.filter_append]
  split
  · next here => simp [here]
  · next other => simp [other]

/-- Documents that are announced without findings, and no others, have none. -/
theorem latest_cleared (events : List DiagnosticsEvent) (cleared : List Uri) (uri : Uri) :
    latest (events ++ cleared.map (.summary · [])) uri =
      if uri ∈ cleared then .summary uri [] else latest events uri := by
  induction cleared using List.reverseRecOn with
  | nil => simp
  | append_singleton rest last ih =>
    rw [List.map_append, ← List.append_assoc, List.map_singleton, latest_concat, ih]
    by_cases here : last = uri
    · subst here
      simp [summary]
    · simp [summary, here, Ne.symm here]

/-! ## What a change emits -/

theorem emitted_emit (events : collection.hasEvents = true) (uri : Uri)
    (diagnostics : List Diagnostic) : (collection.emit uri diagnostics).emitted =
      collection.emitted ++ [.summary uri diagnostics] := by
  rw [emit, if_pos events]

@[simp] theorem hasEvents_emit (collection : DiagnosticsCollection) (uri : Uri)
    (diagnostics : List Diagnostic) :
    (collection.emit uri diagnostics).hasEvents = collection.hasEvents := by
  unfold emit
  split <;> rfl

theorem hasEvents_change (collection : DiagnosticsCollection) (last : DiagnosticsChange) :
    (collection.change last).hasEvents = collection.hasEvents := by
  cases last with
  | publish uri version diagnostics =>
    simp only [change, publish]
    split
    · rfl
    · rw [hasEvents_emit]
      rfl
  | clear uri =>
    simp only [change, clear]
    split
    · rfl
    · split
      · rw [hasEvents_emit]
        rfl
      · rfl
  | clearAll => simp [change, clearAll, foldl_emit]

/-- A publication that is taken is summed up. -/
theorem emitted_publish (events : collection.hasEvents = true)
    (fresh : isStale version (collection.version? uri) = false) :
    (collection.publish uri version diagnostics).1.emitted =
      collection.emitted ++ [.summary uri diagnostics] := by
  simp only [publish, fresh, Bool.false_eq_true, if_false]
  exact emitted_emit (by exact events) uri diagnostics

/-- Dropping diagnostics is announced if there are any. -/
theorem emitted_clear (events : collection.hasEvents = true) (uri : Uri) :
    (collection.clear uri).emitted =
      collection.emitted ++ if collection.get uri = [] then [] else [.summary uri []] := by
  unfold clear get
  cases collection.find? uri with
  | none => simp
  | some report =>
    by_cases nothing : report.diagnostics = []
    · simp [Report.isNonempty, nothing, store]
    · have announced : ((collection.store report.cleared).emit uri []).emitted =
          collection.emitted ++ [.summary uri []] :=
        emitted_emit (by exact events) uri []
      simpa [Report.isNonempty, nothing] using announced

/-- Dropping everything is announced for each document with diagnostics. -/
theorem Single.emitted_clearAll (single : collection.Single)
    (events : collection.hasEvents = true) :
    ∃ cleared : List Uri, cleared.Nodup ∧ (∀ uri, uri ∈ cleared ↔ collection.get uri ≠ []) ∧
      collection.clearAll.1.emitted = collection.emitted ++ cleared.map (.summary · []) := by
  -- they are announced in the order of their identifiers
  let reports := (collection.reports.filter Report.isNonempty).mergeSort fun a b =>
    Text.bytewiseLE a.uri.text b.uri.text
  have sorted : (reports.map (·.uri)).Perm
      ((collection.reports.filter Report.isNonempty).map (·.uri)) :=
    (List.mergeSort_perm _ _).map _
  refine ⟨reports.map (·.uri), sorted.nodup_iff.mpr ?_, fun uri => ?_, ?_⟩
  · exact List.Nodup.sublist (List.filter_sublist.map _) single
  · rw [sorted.mem_iff, single.get_ne_nil_iff]
  · simp [clearAll, foldl_emit, events, reports]

/-! ## Followers -/

/-- Whoever has read the events knows what every document has. -/
structure Followed (collection : DiagnosticsCollection) : Prop where
  single : collection.Single
  events : collection.hasEvents = true
  latest : ∀ uri, latest collection.emitted uri = .summary uri (collection.get uri)

/-- **Every change emits what its followers have to know.** -/
theorem Followed.change (followed : collection.Followed) (last : DiagnosticsChange) :
    (collection.change last).Followed := by
  refine ⟨followed.single.change last, (hasEvents_change collection last).trans followed.events,
    fun uri => ?_⟩
  cases last with
  | publish uri' version diagnostics =>
    rw [DiagnosticsCollection.change]
    by_cases fresh : isStale version (collection.version? uri') = false
    · rw [emitted_publish followed.events fresh, latest_concat, get_publish fresh,
        followed.latest]
      by_cases here : uri' = uri
      · simp [summary, here]
      · simp [summary, here]
    · rw [publish_ignored fresh]
      exact followed.latest uri
  | clear uri' =>
    rw [DiagnosticsCollection.change, emitted_clear followed.events, get_clear]
    by_cases nothing : collection.get uri' = []
    · rw [if_pos nothing, List.append_nil, followed.latest]
      split
      · next here => rw [← here, nothing]
      · rfl
    · rw [if_neg nothing, latest_concat, followed.latest]
      by_cases here : uri' = uri
      · simp [summary, here]
      · simp [summary, here]
  | clearAll =>
    obtain ⟨cleared, -, had, emitted⟩ := followed.single.emitted_clearAll followed.events
    rw [DiagnosticsCollection.change, emitted, latest_cleared, get_clearAll, followed.latest]
    split
    · rfl
    · next none => rw [not_not.mp fun some => none ((had uri).mpr some)]

theorem followed_changes (past : List DiagnosticsChange) :
    (withEvents.changes past).Followed := by
  induction past using List.reverseRecOn with
  | nil => exact ⟨List.nodup_nil, rfl, fun _ => rfl⟩
  | append_singleton past last ih =>
    rw [changes_concat]
    exact ih.change last

end DiagnosticsCollection

open DiagnosticsCollection DiagnosticsChange in
/-- **The events of a collection sum it up.**  Whatever was published and dropped in any order: the
last event about a document counts the errors and warnings that it has, so these events taken
together count all errors; and a publication emits one event if it is taken and none if it is
ignored, dropping the diagnostics of a document emits one if there were any, and dropping everything
emits one for each document that had some. -/
theorem events_sum_up (past : List DiagnosticsChange) :
    let collection := withEvents.changes past
    let latest := DiagnosticsEvent.latest collection.emitted
    (∀ uri, (latest uri).errors = (collection.get uri).countP Diagnostic.isError ∧
      (latest uri).warnings = (collection.get uri).countP Diagnostic.isWarning) ∧
    ∑ᶠ uri, (latest uri).errors = collection.errorCount ∧
    (∀ uri version diagnostics,
      (Takes past uri version → (collection.publish uri version diagnostics).1.emitted =
        collection.emitted ++ [.summary uri diagnostics]) ∧
      (¬Takes past uri version → (collection.publish uri version diagnostics).1.emitted =
        collection.emitted)) ∧
    (∀ uri, (collection.clear uri).emitted =
      collection.emitted ++ if collection.get uri = [] then [] else [.summary uri []]) ∧
    ∃ cleared : List Uri, cleared.Nodup ∧ (∀ uri, uri ∈ cleared ↔ collection.get uri ≠ []) ∧
      collection.clearAll.1.emitted = collection.emitted ++ cleared.map (.summary · []) := by
  intro collection latest
  have followed : collection.Followed := followed_changes past
  have reflects : Reflects past collection := reflects_changes true past
  have known (uri : Uri) : latest uri = .summary uri (collection.get uri) := followed.latest uri
  refine ⟨fun uri => ?_, ?_, fun uri version diagnostics => ?_, emitted_clear followed.events,
    followed.single.emitted_clearAll followed.events⟩
  · rw [known]
    exact ⟨rfl, rfl⟩
  · simp only [known]
    exact followed.single.errorCount_eq.symm
  · rw [(reflects.at_uri uri).takes_iff]
    exact ⟨emitted_publish followed.events, fun stale => by rw [publish_ignored stale]⟩

end EngineSync
