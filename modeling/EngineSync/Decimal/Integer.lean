/-!
# Integers in decimal digits

A number is written without leading zeros, and a negative one after a minus.
-/
namespace EngineSync.Decimal

/-- The character of a digit. -/
def digitChar (d : Nat) : Char :=
  Char.ofNat (48 + d)

/-- The digit of a character. -/
def digitValue (c : Char) : Nat :=
  c.toNat - 48

/-- The decimal digits of a number, the most significant first. -/
def naturalChars (n : Nat) : List Char :=
  if n < 10 then [digitChar n] else naturalChars (n / 10) ++ [digitChar (n % 10)]

/-- The number that digits write. -/
def valueOf (digits : List Char) : Nat :=
  digits.foldl (fun value c => value * 10 + digitValue c) 0

/-- The decimal digits of an integer. -/
def integerChars (n : Int) : List Char :=
  if n < 0 then '-' :: naturalChars n.natAbs else naturalChars n.natAbs

/-- A number as text. -/
def natural (n : Nat) : String :=
  String.ofList (naturalChars n)

/-- An integer as text. -/
def integer (n : Int) : String :=
  String.ofList (integerChars n)

theorem digitValue_digitChar {d : Nat} (small : d < 10) : digitValue (digitChar d) = d := by
  match d, small with
  | 0, _ | 1, _ | 2, _ | 3, _ | 4, _ | 5, _ | 6, _ | 7, _ | 8, _ | 9, _ => rfl

/-- The digits of a number write that number. -/
theorem valueOf_naturalChars (n : Nat) : valueOf (naturalChars n) = n := by
  induction n using Nat.strongRecOn with
  | ind n ih =>
    unfold naturalChars
    split
    next small => simp [valueOf, digitValue_digitChar small]
    next large =>
      have before := ih (n / 10) (by omega)
      have last := digitValue_digitChar (d := n % 10) (by omega)
      simp only [valueOf, List.foldl_append, List.foldl_cons, List.foldl_nil] at before ⊢
      rw [before, last]
      omega

end EngineSync.Decimal
