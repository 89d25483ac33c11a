import Mathlib.Algebra.Order.Ring.Int
import Mathlib.Data.List.TakeWhile
import EngineSync.Proofs.JsonReading

/-!
# Values that come back

A value without binary numbers is read back from its text as it was, as long as its integers fit
64 bits, its objects have their keys in ascending order and it is nested no deeper than the reader
goes.  Binary numbers are left out: what is printed of one is read by arithmetic of their own.
-/
namespace EngineSync

/-! ## Digits -/

namespace Decimal

theorem isDigit_digitChar {d : Nat} (small : d < 10) : (digitChar d).isDigit = true := by
  have all : ∀ d : Fin 10, (digitChar d).isDigit = true := by decide
  exact all ⟨d, small⟩

theorem isDigit_of_mem_naturalChars (n : Nat) : ∀ c ∈ naturalChars n, c.isDigit = true := by
  induction n using Nat.strongRecOn with
  | ind n ih =>
    intro c mem
    unfold naturalChars at mem
    split at mem
    next small =>
      rw [List.mem_singleton.mp mem]
      exact isDigit_digitChar small
    next large =>
      rcases List.mem_append.mp mem with before | last
      · exact ih (n / 10) (by omega) c before
      · rw [List.mem_singleton.mp last]
        exact isDigit_digitChar (by omega)

/-- A number is written with at least one digit, and with none of them to spare: the first digit is
no zero unless it is the only one. -/
theorem naturalChars_eq_cons (n : Nat) :
    ∃ c rest, naturalChars n = c :: rest ∧ (digitValue c = 0 → n = 0 ∧ rest = []) := by
  induction n using Nat.strongRecOn with
  | ind n ih =>
    unfold naturalChars
    split
    next small =>
      refine ⟨digitChar n, [], rfl, fun zero => ⟨?_, rfl⟩⟩
      rw [← digitValue_digitChar small, zero]
    next large =>
      obtain ⟨c, rest, eq, zero⟩ := ih (n / 10) (by omega)
      refine ⟨c, rest ++ [digitChar (n % 10)], by rw [eq, List.cons_append], fun none => ?_⟩
      have := (zero none).1
      omega

end Decimal

namespace Json

open Decimal

theorem spanDigits_naturalChars (n : Nat) :
    spanDigits (naturalChars n) = ((naturalChars n).map digitValue, []) := by
  have digits := isDigit_of_mem_naturalChars n
  rw [spanDigits, List.takeWhile_eq_self_iff.mpr digits, List.dropWhile_eq_nil_iff.mpr digits]

/-- Digits that write a number, behind a minus or alone. -/
theorem parse?_naturalChars (n : Nat) :
    Numeral.parse? (naturalChars n) = some ⟨false, (naturalChars n).map digitValue, [], none⟩ ∧
      Numeral.parse? ('-' :: naturalChars n) =
        some ⟨true, (naturalChars n).map digitValue, [], none⟩ := by
  obtain ⟨c, rest, eq, zero⟩ := naturalChars_eq_cons n
  have digit : c.isDigit = true :=
    isDigit_of_mem_naturalChars n c (by rw [eq]; exact List.mem_cons_self)
  have spanned := spanDigits_naturalChars n
  rw [eq] at spanned ⊢
  have written : (c :: rest).map digitValue ≠ [] ∧
      (((c :: rest).map digitValue).head? = some 0 → ((c :: rest).map digitValue).length = 1) := by
    refine ⟨List.cons_ne_nil _ _, fun none => ?_⟩
    rw [(zero (Option.some.inj none)).2]
    rfl
  have noMinus : c ≠ '-' := fun minus => by
    rw [minus] at digit
    exact absurd digit (by decide)
  constructor
  · unfold Numeral.parse?
    split
    next signed =>
      split at signed
      -- the first digit is not taken for a sign
      next minus => exact absurd (List.cons.inj minus).1 noMinus
      next =>
        obtain ⟨rfl, rfl⟩ := Prod.mk.inj signed
        simp only [spanned, guard, if_pos written]
        rfl
  · unfold Numeral.parse?
    simp only [spanned, guard, if_pos written]
    rfl

theorem parse?_integerChars (n : Int) :
    Numeral.parse? (integerChars n) =
      some ⟨decide (n < 0), (naturalChars n.natAbs).map digitValue, [], none⟩ := by
  unfold integerChars
  split
  next negative => rw [(parse?_naturalChars n.natAbs).2, decide_eq_true negative]
  next positive => rw [(parse?_naturalChars n.natAbs).1, decide_eq_false positive]

theorem le_foldl_digits (s : Nat) (digits : List Nat) :
    s ≤ digits.foldl (fun value d => value * 10 + d) s := by
  induction digits generalizing s with
  | nil => exact Nat.le_refl s
  | cons d digits ih =>
    have := ih (s * 10 + d)
    rw [List.foldl_cons]
    omega

/-- Digits are taken in for as long as the number they write fits. -/
theorem absorb_of_fits {s : Nat} {digits : List Nat}
    (fits : digits.foldl (fun value d => value * 10 + d) s ≤ Number.maxUnsigned) :
    Number.absorb s digits = (digits.foldl (fun value d => value * 10 + d) s, []) := by
  induction digits generalizing s with
  | nil => rfl
  | cons d digits ih =>
    have first := Nat.le_trans (le_foldl_digits (s * 10 + d) digits) fits
    -- what the digits come to is no less than what a part of them comes to
    rw [Number.absorb, if_pos first, ih fits]
    rfl

theorem absorb_naturalChars {n : Nat} (fits : n ≤ Number.maxUnsigned) :
    Number.absorb 0 ((naturalChars n).map digitValue) = (n, []) := by
  have value : ((naturalChars n).map digitValue).foldl (fun value d => value * 10 + d) 0 = n := by
    rw [List.foldl_map]
    exact valueOf_naturalChars n
  have := absorb_of_fits (s := 0) (value.symm ▸ fits)
  rw [this, value]

/-- **An integer that fits 64 bits comes back from its digits.** -/
theorem ofNumeral?_integerChars {n : Int} (low : -2 ^ 63 ≤ n) (high : n < 2 ^ 64) :
    Number.ofNumeral? ⟨decide (n < 0), (naturalChars n.natAbs).map digitValue, [], none⟩ =
      some (.integer n) := by
  have fits : n.natAbs ≤ Number.maxUnsigned := by
    show n.natAbs ≤ 2 ^ 64 - 1
    omega
  simp only [Number.ofNumeral?, absorb_naturalChars fits, Number.absorb, and_self, if_true,
    Number.ofInteger]
  by_cases negative : n < 0
  · have small : (decide (0 < n.natAbs) && decide (n.natAbs ≤ Nat.pow 2 63)) = true := by
      rw [Bool.and_eq_true, decide_eq_true_iff, decide_eq_true_iff, Nat.pow_eq]
      omega
    have same : -(n.natAbs : Int) = n := by omega
    rw [decide_eq_true negative, Bool.not_true, if_neg Bool.false_ne_true, if_pos small, same]
  · have same : (n.natAbs : Int) = n := by omega
    rw [decide_eq_false negative, Bool.not_false, if_pos rfl, same]

theorem reads_integer (n : Int) : Reads (.number (.integer n))
    (.number ⟨decide (n < 0), (naturalChars n.natAbs).map digitValue, [], none⟩) :=
  .number (parse?_integerChars n)

/-! ## Objects -/

/-- A key after all those before it goes to the end. -/
theorem insertMember_of_last {key : String} {value : Json} {before : List (String × Json)}
    (last : ∀ member ∈ before, member.1 < key) :
    insertMember key value before = before ++ [(key, value)] := by
  induction before with
  | nil => rfl
  | cons member before ih =>
    have less : member.1 < key := last member List.mem_cons_self
    have other : key ≠ member.1 := fun same => String.lt_irrefl key (same ▸ less)
    rw [insertMember, if_neg other, if_neg (String.lt_asymm less),
      ih fun m mem => last m (List.mem_cons_of_mem _ mem), List.cons_append]

/-! ## Values -/

/-- A value without binary numbers whose integers fit 64 bits, signed or unsigned, and whose
objects have each key once and in ascending order, nested at most so many levels. -/
inductive Plain : Nat → Json → Prop
  | null (depth : Nat) : Plain depth .null
  | bool (depth : Nat) (b : Bool) : Plain depth (.bool b)
  | integer (depth : Nat) {n : Int} (low : -2 ^ 63 ≤ n) (high : n < 2 ^ 64) :
      Plain depth (.number (.integer n))
  | string (depth : Nat) (s : String) : Plain depth (.string s)
  | array {depth : Nat} {items : List Json} (each : ∀ item ∈ items, Plain depth item) :
      Plain (depth + 1) (.array items)
  | object {depth : Nat} {members : List (String × Json)}
      (ascending : members.Pairwise fun first second => first.1 < second.1)
      (each : ∀ member ∈ members, Plain depth member.2) : Plain (depth + 1) (.object members)

/-- The text of a value is read as a tree, and a result is read from that tree. -/
def ReadsAs {α : Type} (read : Tree → Option α) (value : Json) (result : α) : Prop :=
  ∃ tree, Reads value tree ∧ read tree = some result

variable {depth : Nat}

/-- The items of an array are read one by one. -/
theorem ReadsAs.items {α : Type} {read : Tree → Option α} {items : List Json} {results : List α}
    (each : List.Forall₂ (ReadsAs read) items results) :
    ∃ trees, List.Forall₂ Reads items trees ∧ trees.mapM read = some results := by
  induction each with
  | nil => exact ⟨[], .nil, rfl⟩
  | cons first others ih =>
    obtain ⟨tree, reads, kept⟩ := first
    obtain ⟨trees, readsOthers, keptOthers⟩ := ih
    refine ⟨tree :: trees, .cons reads readsOthers, ?_⟩
    rw [List.mapM_cons, kept, keptOthers]
    rfl

theorem ofItems?_eq_mapM (depth : Nat) (trees : List Tree) :
    ofItems? depth trees = trees.mapM (ofTree? depth) := by
  induction trees with
  | nil => rw [ofItems?, List.mapM_nil]; rfl
  | cons tree trees ih => rw [ofItems?, ih, List.mapM_cons]

/-- The members are kept behind those before them, since their keys ascend. -/
theorem ReadsAs.members {members : List (String × Json)}
    (each : ∀ member ∈ members, ReadsAs (ofTree? depth) member.2 member.2) :
    ∃ entries, List.Forall₂ ReadsMember members entries ∧
      ∀ before : List (String × Json),
        (before ++ members).Pairwise (fun first second => first.1 < second.1) →
          ofMembers? depth entries before = some (before ++ members) := by
  induction members with
  | nil => exact ⟨[], .nil, fun before _ => by rw [ofMembers?, List.append_nil]⟩
  | cons member members ih =>
    obtain ⟨key, value⟩ := member
    obtain ⟨tree, reads, kept⟩ := each _ List.mem_cons_self
    obtain ⟨pieces, text⟩ := readsText key
    obtain ⟨entries, others, keptOthers⟩ := ih fun m mem => each m (List.mem_cons_of_mem _ mem)
    refine ⟨(pieces, tree) :: entries, .cons ⟨text, reads⟩ others, fun before ascending => ?_⟩
    have last : ∀ m ∈ before, m.1 < key := fun m mem =>
      (List.pairwise_append.mp ascending).2.2 m mem _ List.mem_cons_self
    have grouped : before ++ (key, value) :: members = (before ++ [(key, value)]) ++ members := by
      rw [List.append_assoc, List.singleton_append]
    rw [grouped] at ascending ⊢
    rw [ofMembers?, text.2, kept, ← keptOthers _ ascending, ← insertMember_of_last last]
    rfl

/-- **Every plain value comes back from its text.** -/
theorem Plain.readsAs {value : Json} (plain : Plain depth value) :
    ReadsAs (ofTree? depth) value value := by
  induction plain with
  | null depth => exact ⟨.null, reads_null, rfl⟩
  | bool depth b => exact ⟨.bool b, reads_bool b, rfl⟩
  | integer depth low high =>
    refine ⟨_, reads_integer _, ?_⟩
    rw [ofTree?, ofNumeral?_integerChars low high, Option.map_some]
  | string depth s =>
    obtain ⟨pieces, text⟩ := readsText s
    refine ⟨.string pieces, reads_string text, ?_⟩
    rw [ofTree?, text.2, Option.map_some]
  | array each ih =>
    obtain ⟨trees, reads, kept⟩ := ReadsAs.items (List.forall₂_same.mpr ih)
    refine ⟨.array trees, reads_array reads, ?_⟩
    rw [ofTree?, if_neg (Nat.succ_ne_zero _), Nat.add_sub_cancel, ofItems?_eq_mapM, kept,
      Option.map_some]
  | object ascending each ih =>
    obtain ⟨entries, reads, kept⟩ := ReadsAs.members ih
    refine ⟨.object entries, reads_object reads, ?_⟩
    rw [ofTree?, if_neg (Nat.succ_ne_zero _), Nat.add_sub_cancel, kept [] ascending, Option.map_some,
      List.nil_append]

end Json
end EngineSync
