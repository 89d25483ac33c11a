/-!
# The order of texts

Texts are ordered by their UTF-8 bytes, the first difference deciding and a shorter text standing
before every longer one it begins.
-/
namespace EngineSync.Text

/-- The UTF-8 bytes of a text. -/
def toBytes (s : String) : List UInt8 :=
  s.toByteArray.data.toList

/-- Whether one list of bytes stands before another or equals it. -/
def bytesLE : List UInt8 → List UInt8 → Bool
  | [], _ => true
  | _ :: _, [] => false
  | a :: as, b :: bs => a < b || (a = b && bytesLE as bs)

/-- Whether one text stands before another or equals it. -/
def bytewiseLE (a b : String) : Bool :=
  bytesLE (toBytes a) (toBytes b)

theorem bytesLE_total (a b : List UInt8) : bytesLE a b || bytesLE b a := by
  induction a generalizing b with
  | nil => simp [bytesLE]
  | cons x xs ih =>
    cases b with
    | nil => simp [bytesLE]
    | cons y ys =>
      simp only [bytesLE, Bool.or_eq_true, Bool.and_eq_true, decide_eq_true_eq]
      rcases Classical.em (x = y) with h | h
      · subst h
        have := ih ys
        simp only [Bool.or_eq_true] at this
        rcases this with h | h
        · exact Or.inl (Or.inr ⟨rfl, h⟩)
        · exact Or.inr (Or.inr ⟨rfl, h⟩)
      · rcases UInt8.lt_or_lt_of_ne h with h | h
        · exact Or.inl (Or.inl h)
        · exact Or.inr (Or.inl h)

theorem bytesLE_trans (a b c : List UInt8) (hab : bytesLE a b) (hbc : bytesLE b c) :
    bytesLE a c := by
  induction a generalizing b c with
  | nil => simp [bytesLE]
  | cons x xs ih =>
    cases b with
    | nil => simp [bytesLE] at hab
    | cons y ys =>
      cases c with
      | nil => simp [bytesLE] at hbc
      | cons z zs =>
        simp only [bytesLE, Bool.or_eq_true, Bool.and_eq_true, decide_eq_true_eq] at *
        rcases hab with h | ⟨rfl, h⟩ <;> rcases hbc with h' | ⟨rfl, h'⟩
        · exact Or.inl (UInt8.lt_trans h h')
        · exact Or.inl h
        · exact Or.inl h'
        · exact Or.inr ⟨rfl, ih ys zs h h'⟩

/-- Of two different texts one stands strictly before the other, in the order of lists. -/
theorem lt_of_bytesLE {a b : List UInt8} (le : bytesLE a b) (ne : a ≠ b) : a < b := by
  induction a generalizing b with
  | nil =>
    cases b with
    | nil => exact absurd rfl ne
    | cons y ys => exact List.nil_lt_cons y ys
  | cons x xs ih =>
    cases b with
    | nil => simp [bytesLE] at le
    | cons y ys =>
      simp only [bytesLE, Bool.or_eq_true, Bool.and_eq_true, decide_eq_true_eq] at le
      rw [List.cons_lt_cons_iff]
      rcases le with less | ⟨rfl, rest⟩
      · exact Or.inl less
      · exact Or.inr ⟨rfl, ih rest fun same => ne (congrArg (x :: ·) same)⟩

end EngineSync.Text
