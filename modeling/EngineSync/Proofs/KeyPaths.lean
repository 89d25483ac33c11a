import EngineSync.Settings.Change

/-!
# Keys are paths

A key of the configuration is a path, with a dot after every section but the last.  Whether a change
touches a key is decided on the raw texts, by what is left of one of them after the other.  Here
that test is read in terms of the sections: one path leads to the other or goes on from it, section
by section, whatever the texts are and wherever their dots stand.
-/
namespace EngineSync

namespace Text
variable {mark : Char}

/-- Cutting at a mark is what the library calls splitting on it. -/
theorem splitAt_eq_splitOn (mark : Char) (text : List Char) :
    splitAt mark text = text.splitOn mark := by
  induction text with
  | nil => rfl
  | cons c rest ih =>
    rw [splitAt, List.splitOn, List.splitOnP_cons_eq_if_modifyHead, ← List.splitOn, ih]
    by_cases hc : c = mark
    · simp [hc]
    · -- the head of the other parts grows by the character, and there is always a head
      obtain ⟨first, more, split⟩ := List.exists_cons_of_ne_nil (List.splitOn_ne_nil mark rest)
      simp [hc, split]

/-- The parts with marks between them are the text again. -/
theorem intercalate_splitAt (mark : Char) (text : List Char) :
    [mark].intercalate (splitAt mark text) = text := by
  rw [splitAt_eq_splitOn]
  exact List.intercalate_splitOn mark

theorem splitAt_append (first rest : List Char) :
    splitAt mark (first ++ mark :: rest) = splitAt mark first ++ splitAt mark rest := by
  simp only [splitAt_eq_splitOn, List.splitOn_append_cons_self]

theorem intercalate_append {parts more : List (List Char)} (some : parts ≠ []) (others : more ≠ []) :
    [mark].intercalate (parts ++ more) =
      [mark].intercalate parts ++ mark :: [mark].intercalate more := by
  induction parts with
  | nil => exact absurd rfl some
  | cons part rest ih =>
    by_cases last : rest = []
    · subst last
      rw [List.singleton_append, List.intercalate_cons_of_ne_nil others, List.intercalate_singleton]
      simp
    · have both : rest ++ more ≠ [] := by simp [last]
      rw [List.cons_append, List.intercalate_cons_of_ne_nil both, ih last,
        List.intercalate_cons_of_ne_nil last]
      simp

/-- **The parts of one text come first among those of another** exactly when the texts are the same
or the second goes on with a mark where the first ends. -/
theorem splitAt_prefix_iff {first second : List Char} :
    splitAt mark first <+: splitAt mark second ↔
      second = first ∨ ∃ rest, second = first ++ mark :: rest := by
  constructor
  · rintro ⟨more, joined⟩
    have whole : [mark].intercalate (splitAt mark first ++ more) = second := by
      rw [joined, intercalate_splitAt]
    by_cases none : more = []
    · left
      rw [← whole, none, List.append_nil, intercalate_splitAt]
    · right
      refine ⟨[mark].intercalate more, ?_⟩
      rw [← whole, intercalate_append (splitAt_ne_nil mark first) none, intercalate_splitAt]
  · rintro (rfl | ⟨rest, rfl⟩)
    · exact List.prefix_refl _
    · rw [splitAt_append]
      exact List.prefix_append _ _

end Text

theorem stripLeading?_eq_some_iff {leading text rest : List Char} :
    stripLeading? leading text = some rest ↔ text = leading ++ rest := by
  induction leading generalizing text with
  | nil => simp [stripLeading?, eq_comm]
  | cons a leading ih =>
    cases text with
    | nil => simp [stripLeading?]
    | cons b text =>
      by_cases hab : a = b
      · subst hab
        simp [stripLeading?, ih]
      · simp [stripLeading?, hab, Ne.symm hab]

/-- One key lies inside another if it is the same or goes on with a dot. -/
theorem isSameOrInside_iff {inner outer : List Char} :
    isSameOrInside inner outer = true ↔ inner = outer ∨ ∃ rest, inner = outer ++ '.' :: rest := by
  unfold isSameOrInside
  cases left : stripLeading? outer inner with
  | none =>
    have apart : ∀ rest, inner ≠ outer ++ rest := by
      intro rest same
      rw [stripLeading?_eq_some_iff.mpr same] at left
      cases left
    have other : inner ≠ outer := by simpa using apart []
    simp [other, apart]
  | some rest =>
    rw [stripLeading?_eq_some_iff.mp left]
    cases rest <;> simp

namespace ConfigChange

theorem segments_eq_splitOn (key : String) : segments key = key.toList.splitOn '.' :=
  Text.splitAt_eq_splitOn '.' key.toList

theorem isSameOrInside_iff_segments {inner outer : String} :
    isSameOrInside inner.toList outer.toList = true ↔ segments outer <+: segments inner := by
  rw [isSameOrInside_iff, segments, segments, Text.splitAt_prefix_iff]

theorem affects_iff {change : ConfigChange} {key : String} :
    change.affects key = true ↔ ∃ changed ∈ change.keys,
      segments changed <+: segments key ∨ segments key <+: segments changed := by
  simp only [affects, List.any_eq_true, Bool.or_eq_true, isSameOrInside_iff_segments]
  exact exists_congr fun changed => and_congr_right fun _ => or_comm

theorem affects_single_comm (first second : String) :
    (⟨[first]⟩ : ConfigChange).affects second = (⟨[second]⟩ : ConfigChange).affects first := by
  simp [affects, Bool.or_comm]

/-- Where two texts begin alike and then differ, one has to end and the other to go on with a
dot. -/
theorem affects_iff_of_common {common first second : List Char} (differ : first.head? ≠ second.head?) :
    (⟨[String.ofList (common ++ first)]⟩ : ConfigChange).affects (String.ofList (common ++ second)) =
        true ↔
      first = [] ∧ second.head? = some '.' ∨ second = [] ∧ first.head? = some '.' := by
  cases first with
  | nil =>
    cases second with
    | nil => exact absurd rfl differ
    | cons d second => simp [affects, isSameOrInside_iff]
  | cons c first =>
    cases second with
    | nil => simp [affects, isSameOrInside_iff]
    | cons d second =>
      have apart : c ≠ d := by simpa using differ
      simp [affects, isSameOrInside_iff, apart, apart.symm]

end ConfigChange

/-- **Keys are related as paths.**  A change touches a key exactly when one of the changed keys and
the key, both cut at every dot, lead the same way as far as the shorter goes.  So two keys that
begin alike and then differ are related only if the one ends there and the other goes on with a
dot: a common beginning that ends inside a section relates nothing.  And it does not matter which
of two keys is the changed one. -/
theorem keys_related_as_paths :
    (∀ key : String, ConfigChange.segments key = key.toList.splitOn '.') ∧
      (∀ (change : ConfigChange) (key : String), change.affects key = true ↔
        ∃ changed ∈ change.keys, ConfigChange.segments changed <+: ConfigChange.segments key ∨
          ConfigChange.segments key <+: ConfigChange.segments changed) ∧
      (∀ common first second : List Char, first.head? ≠ second.head? →
        ((⟨[String.ofList (common ++ first)]⟩ : ConfigChange).affects
            (String.ofList (common ++ second)) = true ↔
          first = [] ∧ second.head? = some '.' ∨ second = [] ∧ first.head? = some '.')) ∧
      ∀ first second : String, (⟨[first]⟩ : ConfigChange).affects second =
        (⟨[second]⟩ : ConfigChange).affects first := by
  refine ⟨ConfigChange.segments_eq_splitOn, ?_, ?_, ConfigChange.affects_single_comm⟩
  · intro change key
    exact ConfigChange.affects_iff
  · intro common first second differ
    exact ConfigChange.affects_iff_of_common differ

/-- A longer name is not inside a shorter one that it begins with. -/
theorem keys_related_as_paths_of_lookalike :
    (['X'] : List Char).head? ≠ ([] : List Char).head? ∧
      (⟨["qside.enableFormattingX"]⟩ : ConfigChange).affects "qside.enableFormatting" = false ∧
      (⟨["qside."]⟩ : ConfigChange).affects "qside" = true := by
  refine ⟨by decide, ?_, ?_⟩
  · have apart := keys_related_as_paths.2.2.1 "qside.enableFormatting".toList ['X'] [] (by decide)
    simpa using apart
  · have inside := (keys_related_as_paths.2.2.1 "qside".toList ['.'] [] (by decide)).mpr (by decide)
    simpa using inside

end EngineSync
