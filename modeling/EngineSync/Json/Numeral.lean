/-!
# Numerals of JSON

A numeral is an optional sign, an integer without leading zeros, an optional fraction and an
optional exponent.
-/
namespace EngineSync.Json

/-- The parts of a written number; digits are given by value, most significant first. -/
structure Numeral where
  negative : Bool
  whole : List Nat
  fraction : List Nat
  exponent : Option (Bool × List Nat)
deriving DecidableEq, Repr, Inhabited

/-- The value of a decimal digit. -/
def digitValue (c : Char) : Nat :=
  c.toNat - 48

/-- Digits at the head of a text, and the rest. -/
def spanDigits (text : List Char) : List Nat × List Char :=
  ((text.takeWhile Char.isDigit).map digitValue, text.dropWhile Char.isDigit)

/-- The exponent part of a numeral: its sign and digits. -/
def exponent? : List Char → Option (Option (Bool × List Nat))
  | [] => some none
  | c :: rest =>
    if c = 'e' || c = 'E' then
      let (negative, digits) :=
        match rest with
        | '+' :: more => (false, more)
        | '-' :: more => (true, more)
        | more => (false, more)
      match spanDigits digits with
      | (value :: values, []) => some (some (negative, value :: values))
      | _ => none
    else none

/-- Reads a numeral. -/
def Numeral.parse? (text : List Char) : Option Numeral := do
  let (negative, unsigned) :=
    match text with
    | '-' :: more => (true, more)
    | more => (false, more)
  let (whole, rest) := spanDigits unsigned
  guard (whole ≠ [] ∧ (whole.head? = some 0 → whole.length = 1))
  match rest with
  | '.' :: more =>
    let (fraction, rest) := spanDigits more
    guard (fraction ≠ [])
    let exponent ← exponent? rest
    pure { negative, whole, fraction, exponent }
  | rest =>
    let exponent ← exponent? rest
    pure { negative, whole, fraction := [], exponent }

end EngineSync.Json
