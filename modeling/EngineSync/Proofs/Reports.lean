import Mathlib.Algebra.BigOperators.Finprod
import Mathlib.Data.Set.Card
import EngineSync.Diagnostics

/-!
# Diagnostics and their history

A collection keeps one report for each document.  What it has to say is fixed by its history: a
publication is taken unless it carries a version below one that was published for the document since
everything was forgotten, and the document has the diagnostics of the last publication that was
taken, unless they were dropped after it.  `DiagnosticsChange.Remembers`, `Takes` and `Shows` say so
of a history alone, without a collection; the invariant `DiagnosticsCollection.Reflects` ties the
two together.
-/
namespace EngineSync

/-- What happens to a collection. -/
inductive DiagnosticsChange where
  | publish (uri : Uri) (version : Option Int) (diagnostics : List Diagnostic)
  | clear (uri : Uri)
  | clearAll
deriving DecidableEq, Repr

namespace DiagnosticsChange

/-! ## What a history says -/

/-- A version was published for a document since everything was forgotten. -/
def Remembers (past : List DiagnosticsChange) (uri : Uri) (version : Int) : Prop :=
  ∃ before diagnostics after,
    past = before ++ .publish uri (some version) diagnostics :: after ∧ .clearAll ∉ after

/-- A publication is taken: it carries no version, or none that is below a remembered one. -/
def Takes (past : List DiagnosticsChange) (uri : Uri) (version : Option Int) : Prop :=
  ∀ new ∈ version, ∀ old, Remembers past uri old → old ≤ new

/-- The last publication for a document that was taken carried these diagnostics, and they were not
dropped after it. -/
def Shows (past : List DiagnosticsChange) (uri : Uri) (diagnostics : List Diagnostic) : Prop :=
  ∃ before version after, past = before ++ .publish uri version diagnostics :: after ∧
    Takes before uri version ∧ .clear uri ∉ after ∧ .clearAll ∉ after ∧
    ∀ before' version' diagnostics' after',
      after = before' ++ .publish uri version' diagnostics' :: after' →
        ¬Takes (before ++ .publish uri version diagnostics :: before') uri version'

variable {past : List DiagnosticsChange} {uri uri' : Uri} {version : Option Int} {old : Int}
  {change : DiagnosticsChange} {diagnostics shown : List Diagnostic}

/-- The last change is the one that is looked at, or it comes after it. -/
theorem concat_eq_split {before after : List DiagnosticsChange} {found : DiagnosticsChange} :
    past ++ [change] = before ++ found :: after ↔
      (past = before ∧ change = found ∧ after = []) ∨
        ∃ after', past = before ++ found :: after' ∧ after = after' ++ [change] := by
  constructor
  · intro same
    rcases List.eq_nil_or_concat' after with rfl | ⟨after', last, rfl⟩
    · obtain ⟨rfl, single⟩ := List.append_inj' same rfl
      exact .inl ⟨rfl, (List.cons.inj single).1, rfl⟩
    · rw [← List.cons_append, ← List.append_assoc] at same
      obtain ⟨rfl, single⟩ := List.append_inj' same rfl
      exact .inr ⟨after', rfl, by rw [(List.cons.inj single).1]⟩
  · rintro (⟨rfl, rfl, rfl⟩ | ⟨after', rfl, rfl⟩)
    · rfl
    · simp

theorem not_remembers_nil : ¬Remembers [] uri old := by
  rintro ⟨before, diagnostics, after, split, -⟩
  simp at split

theorem not_shows_nil : ¬Shows [] uri shown := by
  rintro ⟨before, version, after, split, -⟩
  simp at split

/-- What is remembered after one more change. -/
theorem remembers_concat : Remembers (past ++ [change]) uri old ↔
    change ≠ .clearAll ∧
      (Remembers past uri old ∨ ∃ diagnostics, change = .publish uri (some old) diagnostics) := by
  constructor
  · rintro ⟨before, diagnostics, after, split, kept⟩
    rcases concat_eq_split.mp split with ⟨-, rfl, -⟩ | ⟨after', earlier, rfl⟩
    · exact ⟨DiagnosticsChange.noConfusion, .inr ⟨diagnostics, rfl⟩⟩
    · rw [List.mem_append, not_or] at kept
      exact ⟨fun last => kept.2 (List.mem_singleton.mpr last.symm),
        .inl ⟨before, diagnostics, after', earlier, kept.1⟩⟩
  · rintro ⟨kept, ⟨before, diagnostics, after, rfl, none⟩ | ⟨diagnostics, rfl⟩⟩
    · refine ⟨before, diagnostics, after ++ [change], by simp, fun mem => ?_⟩
      rcases List.mem_append.mp mem with mem | last
      · exact none mem
      · exact kept (List.mem_singleton.mp last).symm
    · exact ⟨past, diagnostics, [], rfl, List.not_mem_nil⟩

/-- Nothing is remembered once everything was forgotten. -/
theorem not_remembers_clearAll : ¬Remembers (past ++ [.clearAll]) uri old :=
  fun remembered => (remembers_concat.mp remembered).1 rfl

theorem remembers_clear : Remembers (past ++ [.clear uri']) uri old ↔ Remembers past uri old := by
  simp [remembers_concat]

theorem remembers_publish : Remembers (past ++ [.publish uri' version diagnostics]) uri old ↔
    Remembers past uri old ∨ uri' = uri ∧ version = some old := by
  simp [remembers_concat]

/-- A publication that is taken replaces what a document has. -/
theorem shows_taken (takes : Takes past uri version) :
    Shows (past ++ [.publish uri version diagnostics]) uri shown ↔ shown = diagnostics := by
  constructor
  · rintro ⟨before, version', after, split, -, -, -, last⟩
    rcases concat_eq_split.mp split with ⟨-, same, -⟩ | ⟨after', rfl, rfl⟩
    · cases same
      rfl
    · exact absurd takes (last after' version diagnostics [] rfl)
  · rintro rfl
    exact ⟨past, version, [], rfl, takes, List.not_mem_nil, List.not_mem_nil,
      fun _ _ _ _ none => by simp at none⟩

/-- Every other change keeps what a document has, unless it drops it. -/
theorem shows_passed (taken : ∀ version diagnostics, change = .publish uri version diagnostics →
      ¬Takes past uri version) :
    Shows (past ++ [change]) uri shown ↔
      Shows past uri shown ∧ change ≠ .clear uri ∧ change ≠ .clearAll := by
  constructor
  · rintro ⟨before, version, after, split, takes, clear, clearAll, last⟩
    rcases concat_eq_split.mp split with ⟨rfl, same, -⟩ | ⟨after', rfl, rfl⟩
    · exact absurd takes (taken version shown same)
    · rw [List.mem_append, List.mem_singleton, not_or] at clear clearAll
      refine ⟨⟨before, version, after', rfl, takes, clear.1, clearAll.1, ?_⟩,
        fun same => clear.2 same.symm, fun same => clearAll.2 same.symm⟩
      rintro before' version' diagnostics' after rfl
      exact last before' version' diagnostics' (after ++ [change]) (by simp)
  · rintro ⟨⟨before, version, after, rfl, takes, clear, clearAll, last⟩, kept, remains⟩
    refine ⟨before, version, after ++ [change], by simp, takes, ?_, ?_, ?_⟩
    · simpa [clear] using Ne.symm kept
    · simpa [clearAll] using Ne.symm remains
    · intro before' version' diagnostics' after' split
      rcases concat_eq_split.mp split with ⟨rfl, same, -⟩ | ⟨after'', rfl, -⟩
      · exact taken version' diagnostics' same
      · exact last before' version' diagnostics' after'' rfl

/-- What is not about a document makes no difference to it. -/
theorem shows_elsewhere (unpublished : ∀ version diagnostics,
      change ≠ .publish uri version diagnostics)
    (kept : change ≠ .clear uri) (remains : change ≠ .clearAll) :
    Shows (past ++ [change]) uri shown ↔ Shows past uri shown := by
  rw [shows_passed fun version diagnostics same => absurd same (unpublished version diagnostics)]
  exact ⟨And.left, fun shows => ⟨shows, kept, remains⟩⟩

end DiagnosticsChange

namespace DiagnosticsCollection
open DiagnosticsChange

/-- One change. -/
def change (collection : DiagnosticsCollection) : DiagnosticsChange → DiagnosticsCollection
  | .publish uri version diagnostics => (collection.publish uri version diagnostics).1
  | .clear uri => collection.clear uri
  | .clearAll => collection.clearAll.1

/-- Changes one after another. -/
def changes (collection : DiagnosticsCollection) (past : List DiagnosticsChange) :
    DiagnosticsCollection :=
  past.foldl change collection

variable {collection : DiagnosticsCollection} {past : List DiagnosticsChange} {uri uri' : Uri}
  {version : Option Int} {diagnostics : List Diagnostic}

theorem changes_concat (collection : DiagnosticsCollection) (past : List DiagnosticsChange)
    (last : DiagnosticsChange) :
    collection.changes (past ++ [last]) = (collection.changes past).change last := by
  simp [changes]

/-! ## Looking a document up -/

@[simp] theorem reports_emit (collection : DiagnosticsCollection) (uri : Uri)
    (diagnostics : List Diagnostic) : (collection.emit uri diagnostics).reports =
      collection.reports := by
  unfold emit
  split <;> rfl

@[simp] theorem find?_emit (collection : DiagnosticsCollection) (uri uri' : Uri)
    (diagnostics : List Diagnostic) :
    (collection.emit uri diagnostics).find? uri' = collection.find? uri' := by
  rw [find?, reports_emit, find?]

theorem find?_uri {report : Report} (found : collection.find? uri = some report) :
    report.uri = uri := by
  simpa using List.find?_some found

theorem find?_store (collection : DiagnosticsCollection) (report : Report) (uri : Uri) :
    (collection.store report).find? uri =
      if report.uri = uri then some report else collection.find? uri := by
  unfold find? store
  by_cases here : report.uri = uri
  · have none : (collection.reports.filter (·.uri ≠ report.uri)).find? (·.uri = uri) = none := by
      refine List.find?_eq_none.mpr fun other mem => ?_
      simpa [here] using (List.mem_filter.mp mem).2
    rw [List.find?_append, none, if_pos here, Option.none_or]
    simp [here]
  · have same : (collection.reports.filter (·.uri ≠ report.uri)).find? (·.uri = uri) =
        collection.reports.find? (·.uri = uri) := by
      rw [List.find?_filter]
      refine congrArg (List.find? · _) (funext fun other => ?_)
      by_cases own : other.uri = uri <;> simp [own, Ne.symm here]
    rw [List.find?_append, same, if_neg here]
    simp [here]

/-- The report of a publication that is taken. -/
theorem find?_publish (fresh : isStale version (collection.version? uri) = false) :
    (collection.publish uri version diagnostics).1.find? uri' =
      if uri = uri' then some ⟨uri, version.or (collection.version? uri), diagnostics⟩
      else collection.find? uri' := by
  simp [publish, fresh, find?_store]

/-- A publication that is ignored leaves the collection as it is. -/
theorem publish_ignored (stale : ¬isStale version (collection.version? uri) = false) :
    collection.publish uri version diagnostics =
      (collection, [.staleDiagnostics uri (version.getD 0)
        ((collection.version? uri).getD 0)]) := by
  simp only [publish, Bool.not_eq_false _ ▸ stale, if_true]

/-- The journal tells whether a publication was ignored. -/
theorem publish_ignored_iff :
    (∃ new old, collection.publish uri version diagnostics =
        (collection, [.staleDiagnostics uri new old])) ↔
      ¬isStale version (collection.version? uri) = false := by
  refine ⟨fun ⟨new, old, ignored⟩ fresh => ?_, fun stale => ⟨_, _, publish_ignored stale⟩⟩
  simp [publish, fresh] at ignored

theorem find?_clear (collection : DiagnosticsCollection) (uri uri' : Uri) :
    (collection.clear uri).find? uri' =
      if uri = uri' then (collection.find? uri).map Report.cleared else collection.find? uri' := by
  unfold clear
  split
  · next found =>
    split
    · next here => rw [← here, found, Option.map_none]
    · rfl
  · next report found =>
    have stored : (if report.isNonempty then (collection.store report.cleared).emit uri []
        else collection.store report.cleared).find? uri' =
          (collection.store report.cleared).find? uri' := by
      split <;> simp
    have here : report.cleared.uri = uri := (find?_uri found : report.uri = uri)
    rw [stored, find?_store, here, found, Option.map_some]

theorem foldl_emit (cleared : List Report) (collection : DiagnosticsCollection) :
    cleared.foldl (fun collection report => collection.emit report.uri []) collection =
      { collection with
        emitted := collection.emitted ++
          if collection.hasEvents then cleared.map fun report => .summary report.uri [] else [] } := by
  induction cleared generalizing collection with
  | nil => simp
  | cons report rest ih =>
    rw [List.foldl_cons, ih, emit]
    by_cases events : collection.hasEvents <;> simp [events]

@[simp] theorem reports_clearAll (collection : DiagnosticsCollection) :
    collection.clearAll.1.reports = [] := by
  simp [clearAll, foldl_emit]

theorem get_publish (fresh : isStale version (collection.version? uri) = false) (uri' : Uri) :
    (collection.publish uri version diagnostics).1.get uri' =
      if uri = uri' then diagnostics else collection.get uri' := by
  unfold get
  rw [find?_publish fresh]
  split <;> rfl

theorem get_clear (collection : DiagnosticsCollection) (uri uri' : Uri) :
    (collection.clear uri).get uri' = if uri = uri' then [] else collection.get uri' := by
  unfold get
  rw [find?_clear]
  split
  · cases collection.find? uri <;> rfl
  · rfl

theorem get_clearAll (collection : DiagnosticsCollection) (uri : Uri) :
    collection.clearAll.1.get uri = [] := by
  rw [get, find?, reports_clearAll, List.find?_nil]
  rfl

/-! ## At most one report for each document -/

/-- No document has two reports. -/
def Single (collection : DiagnosticsCollection) : Prop :=
  (collection.reports.map (·.uri)).Nodup

theorem Single.store (single : collection.Single) (report : Report) :
    (collection.store report).Single := by
  unfold Single DiagnosticsCollection.store
  rw [List.map_append, List.nodup_append]
  refine ⟨List.Nodup.sublist (List.filter_sublist.map _) single, List.nodup_singleton _, ?_⟩
  simp only [List.mem_map, List.mem_filter, decide_eq_true_eq, List.map_cons, List.map_nil,
    List.mem_singleton]
  rintro _ ⟨other, ⟨-, apart⟩, rfl⟩ _ rfl
  exact apart

theorem Single.change (single : collection.Single) (change : DiagnosticsChange) :
    (collection.change change).Single := by
  unfold Single
  cases change with
  | publish uri version diagnostics =>
    simp only [DiagnosticsCollection.change, publish]
    split
    · exact single
    · rw [reports_emit]
      exact single.store _
  | clear uri =>
    simp only [DiagnosticsCollection.change, clear]
    split
    · exact single
    · split
      · rw [reports_emit]
        exact single.store _
      · exact single.store _
  | clearAll => simp [DiagnosticsCollection.change]

/-- The report on a document is the one that carries its identifier. -/
theorem Single.find?_eq_some_iff (single : collection.Single) {report : Report} :
    collection.find? uri = some report ↔ report ∈ collection.reports ∧ report.uri = uri := by
  constructor
  · exact fun found => ⟨List.mem_of_find?_eq_some found, find?_uri found⟩
  · rintro ⟨mem, rfl⟩
    cases found : collection.find? report.uri with
    | none => exact absurd (List.find?_eq_none.mp found report mem) (by simp)
    | some other =>
      have there := List.mem_of_find?_eq_some found
      exact congrArg some (List.inj_on_of_nodup_map single there mem (find?_uri found))

theorem Single.get (single : collection.Single) {report : Report}
    (mem : report ∈ collection.reports) : collection.get report.uri = report.diagnostics := by
  rw [DiagnosticsCollection.get, single.find?_eq_some_iff.mpr ⟨mem, rfl⟩]
  rfl

theorem Single.get_ne_nil_iff (single : collection.Single) :
    collection.get uri ≠ [] ↔
      uri ∈ (collection.reports.filter Report.isNonempty).map (·.uri) := by
  simp only [List.mem_map, List.mem_filter, Report.isNonempty, Bool.not_eq_true',
    List.isEmpty_eq_false_iff]
  constructor
  · intro some
    cases found : collection.find? uri with
    | none => simp [DiagnosticsCollection.get, found] at some
    | some report =>
      obtain ⟨mem, here⟩ := single.find?_eq_some_iff.mp found
      refine ⟨report, ⟨mem, ?_⟩, here⟩
      rwa [← here, single.get mem] at some
  · rintro ⟨report, ⟨mem, some⟩, rfl⟩
    rwa [single.get mem]

/-- The documents that have diagnostics, and how many they are. -/
theorem Single.size_eq (single : collection.Single) :
    {uri | collection.get uri ≠ []}.Finite ∧
      collection.size = {uri | collection.get uri ≠ []}.ncard := by
  have all : {uri | collection.get uri ≠ []} =
      ((collection.reports.filter Report.isNonempty).map (·.uri)).toFinset := by
    ext uri
    simpa using (single.get_ne_nil_iff : collection.get uri ≠ [] ↔ _)
  rw [all]
  refine ⟨Finset.finite_toSet _, ?_⟩
  rw [Set.ncard_coe_finset, List.toFinset_card_of_nodup
    (List.Nodup.sublist (List.filter_sublist.map _) single), List.length_map, size,
    List.countP_eq_length_filter]

/-- A sum over all documents is a sum over the reports. -/
theorem Single.sum_eq (single : collection.Single) (weight : List Diagnostic → Nat)
    (nothing : weight [] = 0) :
    ∑ᶠ uri, weight (collection.get uri) =
      (collection.reports.map fun report => weight report.diagnostics).sum := by
  have carried : Function.support (fun uri => weight (collection.get uri)) ⊆
      ((collection.reports.map (·.uri)).toFinset : Set Uri) := by
    intro uri weighs
    have some : collection.get uri ≠ [] := by
      intro none
      rw [Function.mem_support, none] at weighs
      exact weighs nothing
    have mem := single.get_ne_nil_iff.mp some
    simpa using List.map_subset _ (List.filter_subset_self _) mem
  rw [finsum_eq_sum_of_support_subset _ carried, List.sum_toFinset _ single, List.map_map]
  exact congrArg List.sum (List.map_congr_left fun report mem => by
    rw [Function.comp_apply, single.get mem])

/-- The errors of all documents are those of all reports. -/
theorem Single.errorCount_eq (single : collection.Single) :
    collection.errorCount = ∑ᶠ uri, (collection.get uri).countP Diagnostic.isError := by
  rw [single.sum_eq (List.countP Diagnostic.isError) rfl, errorCount, List.sum_eq_foldr,
    List.foldr_map]

theorem isEmpty_iff (collection : DiagnosticsCollection) :
    collection.isEmpty = true ↔ collection.size = 0 := by
  simp [isEmpty, size, List.countP_eq_zero]

/-! ## A collection and its history -/

/-- A collection has of a document what its history makes of it: it knows the greatest of the
remembered versions, and it has the diagnostics that the history shows. -/
structure ReflectsAt (past : List DiagnosticsChange) (uri : Uri)
    (collection : DiagnosticsCollection) : Prop where
  version : ∀ old, collection.version? uri = some old → IsGreatest {v | Remembers past uri v} old
  blank : collection.version? uri = none → ∀ old, ¬Remembers past uri old
  shown : ∀ diagnostics, Shows past uri diagnostics → collection.get uri = diagnostics
  nothing : (∀ diagnostics, ¬Shows past uri diagnostics) → collection.get uri = []

/-- A collection is what its history makes of it. -/
structure Reflects (past : List DiagnosticsChange) (collection : DiagnosticsCollection) : Prop where
  single : collection.Single
  at_uri : ∀ uri, ReflectsAt past uri collection

namespace ReflectsAt
variable {last : DiagnosticsChange} {after : DiagnosticsCollection}

/-- The version that a collection keeps is enough to tell whether a publication is taken. -/
theorem takes_iff (reflects : ReflectsAt past uri collection) :
    Takes past uri version ↔ isStale version (collection.version? uri) = false := by
  cases version with
  | none => simp [Takes, isStale]
  | some new =>
    cases current : collection.version? uri with
    | none => simp [Takes, isStale, reflects.blank current]
    | some old =>
      obtain ⟨remembered, greatest⟩ := reflects.version old current
      simp only [Takes, Option.mem_def, Option.some.injEq, forall_eq', isStale,
        decide_eq_false_iff_not, Int.not_lt]
      exact ⟨fun takes => takes old remembered, fun le other mem => (greatest mem).trans le⟩

/-- A change that does not concern a document leaves it as it is. -/
theorem pass (reflects : ReflectsAt past uri collection)
    (found : after.find? uri = collection.find? uri)
    (remembers : ∀ old, Remembers (past ++ [last]) uri old ↔ Remembers past uri old)
    (shows : ∀ diagnostics, Shows (past ++ [last]) uri diagnostics ↔ Shows past uri diagnostics) :
    ReflectsAt (past ++ [last]) uri after := by
  obtain ⟨version, blank, shown, nothing⟩ := reflects
  constructor <;> simpa only [version?, DiagnosticsCollection.get, found, remembers, shows]

/-- A publication that is taken. -/
theorem take (reflects : ReflectsAt past uri collection) (takes : Takes past uri version) :
    ReflectsAt (past ++ [.publish uri version diagnostics]) uri
      (collection.publish uri version diagnostics).1 := by
  have fresh := reflects.takes_iff.mp takes
  have kept : (collection.publish uri version diagnostics).1.version? uri =
      version.or (collection.version? uri) := by
    rw [version?, find?_publish fresh, if_pos rfl, Option.bind_some]
  have has : (collection.publish uri version diagnostics).1.get uri = diagnostics := by
    rw [get_publish fresh, if_pos rfl]
  refine ⟨fun old known => ?_, fun unknown old => ?_, fun shown shows => ?_, fun none => ?_⟩
  · rw [kept] at known
    cases version with
    | none => simpa [remembers_publish] using reflects.version old known
    | some new =>
      cases known
      refine ⟨remembers_publish.mpr (.inr ⟨rfl, rfl⟩), fun other mem => ?_⟩
      rcases remembers_publish.mp mem with before | ⟨-, same⟩
      · exact takes old rfl other before
      · exact (Option.some.inj same).ge
  · rw [kept, Option.or_eq_none_iff] at unknown
    rw [remembers_publish, unknown.1]
    simpa using reflects.blank unknown.2 old
  · exact has.trans ((shows_taken takes).mp shows).symm
  · exact absurd ((shows_taken takes).mpr rfl) (none diagnostics)

/-- A publication that is ignored: its version is remembered all the same. -/
theorem ignore (reflects : ReflectsAt past uri collection) (ignored : ¬Takes past uri version) :
    ReflectsAt (past ++ [.publish uri version diagnostics]) uri collection := by
  have shows (shown : List Diagnostic) :
      Shows (past ++ [.publish uri version diagnostics]) uri shown ↔ Shows past uri shown := by
    have passed : ∀ version' diagnostics', DiagnosticsChange.publish uri version diagnostics =
        .publish uri version' diagnostics' → ¬Takes past uri version' := by
      rintro _ _ ⟨⟩
      exact ignored
    simpa using (shows_passed passed : Shows _ uri shown ↔ _)
  refine ⟨fun old known => ?_, fun unknown => ?_, fun shown => ?_, ?_⟩
  · obtain ⟨remembered, greatest⟩ := reflects.version old known
    refine ⟨remembers_publish.mpr (.inl remembered), fun other mem => ?_⟩
    rcases remembers_publish.mp mem with before | ⟨-, rfl⟩
    · exact greatest before
    · -- the version that is ignored is below the one that is kept
      have stale := (not_congr reflects.takes_iff).mp ignored
      simp only [known, isStale, Bool.not_eq_false, decide_eq_true_eq] at stale
      exact stale.le
  · refine absurd (reflects.takes_iff.mpr ?_) ignored
    rw [unknown]
    cases version <;> rfl
  · rw [shows]
    exact reflects.shown shown
  · simpa only [shows] using reflects.nothing

/-- The diagnostics of the document are dropped: its version stays. -/
theorem clear (reflects : ReflectsAt past uri collection) :
    ReflectsAt (past ++ [.clear uri]) uri (collection.clear uri) := by
  have kept : (collection.clear uri).version? uri = collection.version? uri := by
    rw [version?, version?, find?_clear, if_pos rfl]
    cases collection.find? uri <;> rfl
  have dropped : (collection.clear uri).get uri = [] := by
    rw [get_clear, if_pos rfl]
  refine ⟨?_, ?_, fun shown shows => ?_, fun _ => dropped⟩
  · simpa only [kept, remembers_clear] using reflects.version
  · simpa only [kept, remembers_clear] using reflects.blank
  · have gone := ((shows_passed (by simp)).mp shows).2.1
    exact absurd rfl gone

/-- Everything is forgotten. -/
theorem clearAll (past : List DiagnosticsChange) (uri : Uri) (collection : DiagnosticsCollection) :
    ReflectsAt (past ++ [.clearAll]) uri collection.clearAll.1 := by
  refine ⟨fun old known => ?_, fun _ _ => not_remembers_clearAll, fun shown shows => ?_,
    fun _ => get_clearAll collection uri⟩
  · rw [version?, find?, reports_clearAll] at known
    cases known
  · exact absurd rfl ((shows_passed (by simp)).mp shows).2.2

end ReflectsAt

/-- **Every change keeps a collection what its history makes of it.** -/
theorem Reflects.change (reflects : Reflects past collection) (last : DiagnosticsChange) :
    Reflects (past ++ [last]) (collection.change last) := by
  refine ⟨reflects.single.change last, fun uri => ?_⟩
  have here := reflects.at_uri uri
  cases last with
  | publish uri' version diagnostics =>
    have stale : Takes past uri' version ↔ _ := (reflects.at_uri uri').takes_iff
    by_cases same : uri' = uri
    · subst same
      by_cases takes : Takes past uri' version
      · exact here.take takes
      · rw [DiagnosticsCollection.change, publish_ignored ((not_congr stale).mp takes)]
        exact here.ignore takes
    · refine here.pass ?_ (by simp [remembers_publish, same])
        fun _ => shows_elsewhere (by simp [same]) nofun nofun
      by_cases takes : Takes past uri' version
      · rw [DiagnosticsCollection.change, find?_publish (stale.mp takes), if_neg same]
      · rw [DiagnosticsCollection.change, publish_ignored ((not_congr stale).mp takes)]
  | clear uri' =>
    by_cases same : uri' = uri
    · subst same
      exact here.clear
    · refine here.pass ?_ (fun _ => remembers_clear)
        fun _ => shows_elsewhere nofun (by simpa using same) nofun
      rw [DiagnosticsCollection.change, find?_clear, if_neg same]
  | clearAll => exact ReflectsAt.clearAll past uri collection

/-- A collection without reports, with events or without. -/
def start (hasEvents : Bool) : DiagnosticsCollection :=
  if hasEvents then withEvents else silent

theorem reflects_start (hasEvents : Bool) : Reflects [] (start hasEvents) := by
  have none (uri : Uri) : (start hasEvents).find? uri = Option.none := by
    cases hasEvents <;> rfl
  refine ⟨by cases hasEvents <;> exact List.nodup_nil, fun uri => ⟨fun old known => ?_,
    fun _ _ => not_remembers_nil, fun _ shows => absurd shows not_shows_nil, fun _ => ?_⟩⟩
  · rw [version?, none] at known
    cases known
  · rw [DiagnosticsCollection.get, none]
    rfl

theorem reflects_changes (hasEvents : Bool) (past : List DiagnosticsChange) :
    Reflects past ((start hasEvents).changes past) := by
  -- from the end: whether a publication is taken depends on what came before it
  induction past using List.reverseRecOn with
  | nil => exact reflects_start hasEvents
  | append_singleton past last ih =>
    rw [changes_concat]
    exact ih.change last

end DiagnosticsCollection

open DiagnosticsCollection DiagnosticsChange in
/-- **A collection has what its history shows.**  Whatever was published and dropped in any order: a
document has the diagnostics of the last publication that was taken, unless they were dropped after
it, and none if there is no such publication; the greatest version published for it is kept until
everything is forgotten, and a publication is ignored exactly when it carries a version below one of
these; and the counts are those of the documents with diagnostics and of the errors in all
documents. -/
theorem diagnostics_reflect_history (hasEvents : Bool) (past : List DiagnosticsChange) :
    let collection := (start hasEvents).changes past
    (∀ uri, (∀ diagnostics, Shows past uri diagnostics → collection.get uri = diagnostics) ∧
      ((∀ diagnostics, ¬Shows past uri diagnostics) → collection.get uri = []) ∧
      (∀ old, collection.version? uri = some old ↔ IsGreatest {v | Remembers past uri v} old) ∧
      ∀ version diagnostics,
        (∃ new old, collection.publish uri version diagnostics =
            (collection, [.staleDiagnostics uri new old])) ↔
          ∃ new ∈ version, ∃ old, Remembers past uri old ∧ new < old) ∧
    {uri | collection.get uri ≠ []}.Finite ∧
    collection.size = {uri | collection.get uri ≠ []}.ncard ∧
    (collection.isEmpty = true ↔ collection.size = 0) ∧
    collection.errorCount = ∑ᶠ uri, (collection.get uri).countP Diagnostic.isError := by
  intro collection
  have reflects : Reflects past collection := reflects_changes hasEvents past
  obtain ⟨finite, size⟩ := reflects.single.size_eq
  refine ⟨fun uri => ?_, finite, size, isEmpty_iff collection,
    reflects.single.errorCount_eq⟩
  have here := reflects.at_uri uri
  refine ⟨here.shown, here.nothing, fun old => ⟨here.version old, fun greatest => ?_⟩,
    fun version diagnostics => ?_⟩
  · cases known : collection.version? uri with
    | none => exact absurd greatest.1 (here.blank known old)
    | some kept => exact congrArg some ((here.version kept known).unique greatest)
  · rw [publish_ignored_iff, ← here.takes_iff]
    simp [Takes]

open DiagnosticsCollection DiagnosticsChange in
/-- A version outlives the diagnostics it came with, so an older one is ignored both before and
after a publication without a version. -/
theorem diagnostics_reflect_history_of_kept_version :
    let a : Uri := ⟨"file:///a"⟩
    let b : Uri := ⟨"file:///b"⟩
    let finding (severity : Int) (message : String) : Diagnostic := ⟨some severity, message, 0⟩
    let past : List DiagnosticsChange := [.publish a (some 4) [finding 1 "fourth"], .clear a,
      .publish a (some 3) [finding 1 "third"], .publish a none [finding 1 "latest"],
      .publish a (some 3) [finding 1 "third"], .publish b none [finding 1 "b", finding 2 "b"]]
    let collection := (start true).changes past
    Shows past a [finding 1 "latest"] ∧ collection.get a = [finding 1 "latest"] ∧
      IsGreatest {v | Remembers past a v} 4 ∧ collection.errorCount = 2 := by
  intro a b finding past collection
  obtain ⟨documents, -⟩ := diagnostics_reflect_history true past
  obtain ⟨shown, -, version, -⟩ := documents a
  have shows : Shows past a [finding 1 "latest"] := by
    refine ⟨past.take 3, none, past.drop 4, rfl, nofun, by decide, by decide, ?_⟩
    -- the only later publication for this document carries version 3, and 4 is remembered
    intro before version diagnostics after split takes
    rcases before with _ | ⟨_, _ | ⟨_, before⟩⟩
    · cases split
      exact absurd (takes 3 rfl 4 ⟨[], _, (past.take 4).drop 1, rfl, by decide⟩) (by decide)
    · simp [past, a, b] at split
    · simp [past] at split
  exact ⟨shows, shown _ shows, (version 4).mp (by decide +kernel), by decide +kernel⟩

end EngineSync
