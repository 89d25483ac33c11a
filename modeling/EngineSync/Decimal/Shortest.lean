/-!
# Shortest decimal text of a binary number

A finite binary64 number is `m · 2 ^ q`.  Among the decimals that read back as that number the
shortest is chosen, and among the shortest the one nearest to it; an exact tie goes to the even
last digit.  All arithmetic is on natural numbers.
-/
namespace EngineSync.Decimal

/-- A decimal `0.d₁d₂… · 10 ^ point`. -/
structure Digits where
  digits : List Nat
  point : Int
deriving DecidableEq, Repr, Inhabited

/-- The decimal digits of a number, most significant first; zero has none. -/
def digitsOf (n : Nat) : List Nat :=
  if n = 0 then [] else digitsOf (n / 10) ++ [n % 10]

/-- Digits without the zeros at their end. -/
def trimZeros (digits : List Nat) : List Nat :=
  (digits.reverse.dropWhile (· = 0)).reverse

/-- `num / den` stands for the number in quarters of its last binary place, and `low` and `high`
are the ends of the interval that rounds to it, in the same quarters. -/
structure Interval where
  low : Nat
  value : Nat
  high : Nat
  closed : Bool
  binary : Int
deriving DecidableEq, Repr, Inhabited

/-- The interval of reals that round to the number with the given bits, sign left aside. -/
def Interval.ofBits (bits : UInt64) : Interval :=
  let exponent := (bits.toNat / Nat.pow 2 52) % 2048
  let fraction := bits.toNat % Nat.pow 2 52
  let mantissa := if exponent = 0 then fraction else fraction + Nat.pow 2 52
  let binary : Int := (if exponent = 0 then 1 else exponent : Nat) - 1075
  { low := 4 * mantissa - (if fraction = 0 ∧ 1 < exponent then 1 else 2)
    value := 4 * mantissa
    high := 4 * mantissa + 2
    closed := mantissa % 2 = 0
    binary := binary - 2 }

/-- The factors `a` and `b` with `x · 2 ^ binary / 10 ^ k = x · a / b`. -/
def scale (binary k : Int) : Nat × Nat :=
  (Nat.pow 2 binary.toNat * Nat.pow 10 (-k).toNat, Nat.pow 2 (-binary).toNat * Nat.pow 10 k.toNat)

/-- The point of the grid of step `10 ^ k` nearest to the number, if one lies in the interval. -/
def Interval.onGrid? (i : Interval) (k : Int) : Option Nat :=
  let (a, b) := scale i.binary k
  let inside (c : Nat) : Bool :=
    if i.closed then i.low * a ≤ c * b && c * b ≤ i.high * a
    else i.low * a < c * b && c * b < i.high * a
  let below := i.value * a / b
  let rest := i.value * a % b
  let above := below + 1
  let preferAbove := b < 2 * rest || (b = 2 * rest && below % 2 = 1)
  match inside below && below ≠ 0, inside above with
  | true, true => some (if preferAbove then above else below)
  | true, false => some below
  | false, true => some above
  | false, false => none

/-- The power of ten just above the number. -/
def Interval.magnitude (i : Interval) : Int :=
  let (a, b) := scale i.binary (-400)
  ((digitsOf (i.value * a / b)).length : Int) - 400

/-- The first grid with a hit, from the given number of digits on. -/
def Interval.search (i : Interval) (magnitude : Int) : Nat → Nat → Option Digits
  | 0, _ => none
  | tries + 1, count =>
    match i.onGrid? (magnitude - count) with
    | some c =>
      let digits := digitsOf c
      some ⟨trimZeros digits, (digits.length : Int) + magnitude - count⟩
    | none => i.search magnitude tries (count + 1)

/-- The shortest digits of the nonzero finite number with the given bits. -/
def shortest (bits : UInt64) : Digits :=
  let i := Interval.ofBits bits
  (i.search i.magnitude 17 1).getD ⟨[0], 1⟩

end EngineSync.Decimal
