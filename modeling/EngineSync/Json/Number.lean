import EngineSync.Json.Numeral
import EngineSync.Decimal.Integer
import EngineSync.Decimal.Shortest

/-!
# Numbers of JSON values

An integer that fits 64 bits, signed or unsigned, is kept exactly; every other number, the negative
zero among them, is a binary64 number.  Digits past the first that no longer fit 64 bits only shift
the decimal point.
-/
namespace EngineSync.Json

/-- A number of a JSON value; a binary64 number is given by its bits. -/
inductive Number where
  | integer (value : Int)
  | real (bits : UInt64)
deriving DecidableEq, Repr, Inhabited

namespace Number

/-- Integers up to this one are kept exactly. -/
def maxUnsigned : Nat := Nat.pow 2 64 - 1

/-- Takes digits into a significand as long as it fits 64 bits; the digits left over follow. -/
def absorb (significand : Nat) : List Nat → Nat × List Nat
  | [] => (significand, [])
  | d :: rest =>
    if significand * 10 + d ≤ maxUnsigned then absorb (significand * 10 + d) rest
    else (significand, d :: rest)

/-- The largest exponent a numeral may write. -/
def maxExponent : Nat := Nat.pow 2 31 - 1

/-- The value of an exponent's digits, if it stays within bounds. -/
def exponentValue? (value : Nat) : List Nat → Option Nat
  | [] => some value
  | d :: rest =>
    if value * 10 + d ≤ maxExponent then exponentValue? (value * 10 + d) rest else none

/-- A magnitude scaled by a power of ten, in steps the binary range allows; `none` when it leaves
the range upward. -/
def scaleMagnitude (magnitude : Float) (exponent : Int) : Option Float :=
  if exponent.natAbs ≤ 308 then
    let power := Float.ofScientific 1 false exponent.natAbs
    if 0 ≤ exponent then
      if (magnitude * power).isInf then none else some (magnitude * power)
    else some (magnitude / power)
  else if magnitude == 0 then some magnitude
  else if 0 ≤ exponent then none
  else scaleMagnitude (magnitude / Float.ofScientific 1 false 308) (exponent + 308)
termination_by exponent.natAbs
decreasing_by omega

/-- `significand · 10 ^ exponent` with a sign. -/
def ofParts? (negative : Bool) (significand : Nat) (exponent : Int) : Option Number :=
  (scaleMagnitude (UInt64.ofNat significand).toFloat exponent).map fun magnitude =>
    .real (if negative then -magnitude else magnitude).toBits

/-- An integer that fits 64 bits. -/
def ofInteger (negative : Bool) (significand : Nat) : Number :=
  if !negative then .integer significand
  else if 0 < significand && significand ≤ Nat.pow 2 63 then .integer (-significand)
  else .real (-(UInt64.ofNat significand).toFloat).toBits

/-- The number a numeral writes; `none` when it is out of range. -/
def ofNumeral? (n : Numeral) : Option Number :=
  let (whole, dropped) := absorb 0 n.whole
  let (significand, unread) := absorb whole n.fraction
  let shift : Int := dropped.length - ((n.fraction.length - unread.length : Nat) : Int)
  match n.exponent with
  | some (negativeExponent, digits) =>
    match exponentValue? 0 digits with
    | some e =>
      let exponent := if negativeExponent then shift - e else shift + e
      ofParts? n.negative significand (max (-0x80000000) (min 0x7fffffff exponent))
    | none =>
      if significand ≠ 0 ∧ !negativeExponent then none
      else some (.real (if n.negative then -0.0 else 0.0 : Float).toBits)
  | none =>
    if n.fraction = [] ∧ dropped = [] then some (ofInteger n.negative whole)
    else ofParts? n.negative significand shift

/-- A decimal exponent: its sign is always written. -/
def exponentPart (exponent : Int) : List Char :=
  'e' :: (if 0 ≤ exponent then ['+'] else []) ++ Decimal.integerChars exponent

/-- The text of decimal digits: positional while the point stands within sixteen places to the
right of the first digit or less than five to its left, scientific otherwise. -/
def layout (d : Decimal.Digits) : List Char :=
  let chars := d.digits.map Decimal.digitChar
  let count : Int := d.digits.length
  if count ≤ d.point ∧ d.point ≤ 16 then
    chars ++ List.replicate (d.point - count).toNat '0' ++ ['.', '0']
  else if 0 < d.point ∧ d.point ≤ 16 then
    chars.take d.point.toNat ++ ['.'] ++ chars.drop d.point.toNat
  else if -5 < d.point ∧ d.point ≤ 0 then
    ['0', '.'] ++ List.replicate (-d.point).toNat '0' ++ chars
  else
    let fraction := if chars.length ≤ 1 then [] else '.' :: chars.drop 1
    chars.take 1 ++ fraction ++ exponentPart (d.point - 1)

/-- The text of a number. -/
def render : Number → List Char
  | .integer value => Decimal.integerChars value
  | .real bits =>
    let sign := if bits.toNat / Nat.pow 2 63 = 1 then ['-'] else []
    if bits.toNat % Nat.pow 2 63 = 0 then sign ++ ['0', '.', '0']
    else sign ++ layout (Decimal.shortest bits)

end Number
end EngineSync.Json
