import EngineSync.Toml.Value

/-!
# Scalars without quotes

Booleans, integers, floats and points in time, each decided on the whole text up to the next
delimiter.
-/
namespace EngineSync.Toml

/-- Whether every character of a run passes and single underscores stand only between two that
do. -/
def isGrouped (allowed : Char → Bool) : List Char → Bool
  | [] => false
  | [c] => allowed c
  | c :: '_' :: rest => allowed c && isGrouped allowed rest
  | c :: rest => allowed c && isGrouped allowed rest

/-- A hexadecimal digit. -/
def isHexDigit (c : Char) : Bool :=
  c.isDigit || ('a' ≤ c && c ≤ 'f') || ('A' ≤ c && c ≤ 'F')

/-- The value of a digit in any base up to sixteen. -/
def digitValue (c : Char) : Nat :=
  if c.isDigit then c.toNat - 48
  else if 'a' ≤ c && c ≤ 'f' then c.toNat - 87
  else c.toNat - 55

/-- The number that digits write in a base, underscores left out. -/
def valueIn (base : Nat) (digits : List Char) : Nat :=
  (digits.filter (· ≠ '_')).foldl (fun n c => n * base + digitValue c) 0

/-- Decimal digits without a leading zero. -/
def isPlainInteger (text : List Char) : Bool :=
  isGrouped Char.isDigit text && (text.length = 1 || text.head? ≠ some '0')

/-- A sign and what follows it. -/
def splitSign : List Char → Option Bool × List Char
  | '+' :: rest => (some false, rest)
  | '-' :: rest => (some true, rest)
  | text => (none, text)

/-- An integer: decimal with an optional sign, or in base sixteen, eight or two without one. -/
def integer? (text : List Char) : Option Int :=
  match text with
  | '0' :: 'x' :: digits => if isGrouped isHexDigit digits then some (valueIn 16 digits) else none
  | '0' :: 'o' :: digits =>
    if isGrouped (fun c => '0' ≤ c && c ≤ '7') digits then some (valueIn 8 digits) else none
  | '0' :: 'b' :: digits =>
    if isGrouped (fun c => c = '0' || c = '1') digits then some (valueIn 2 digits) else none
  | _ =>
    let (sign, digits) := splitSign text
    if isPlainInteger digits then
      some (if sign = some true then -(valueIn 10 digits : Int) else valueIn 10 digits)
    else none

/-- The least magnitude that rounds past the largest binary64 number. -/
def floatLimit : Nat := Nat.pow 2 1024 - Nat.pow 2 970

/-- Whether `significand · 10 ^ exponent` stays in the binary64 range.  Ten lies above the third
power of two, which settles the exponents that are far out. -/
def floatInRange (significand : Nat) (exponent : Int) : Bool :=
  if significand = 0 then true
  else
    let bits : Int := significand.log2
    if 0 ≤ exponent ∧ 1024 < bits + 3 * exponent then false
    else if exponent < 0 ∧ bits + 1 + 3 * exponent ≤ 0 then true
    else significand * Nat.pow 10 exponent.toNat < floatLimit * Nat.pow 10 (-exponent).toNat

/-- The parts of a text before and after the first character of a kind. -/
def breakAt (mark : Char → Bool) (text : List Char) : List Char × Option (List Char) :=
  match text.dropWhile (!mark ·) with
  | [] => (text, none)
  | _ :: rest => (text.takeWhile (!mark ·), some rest)

/-- A float: an integer part with a fraction, an exponent or both, or one of the named ones. -/
def float? (text : List Char) : Option Value :=
  let (_, unsigned) := splitSign text
  if unsigned = ['i', 'n', 'f'] ∨ unsigned = ['n', 'a', 'n'] then some (.float true)
  else
    let (mantissa, exponent) := breakAt (fun c => c = 'e' || c = 'E') unsigned
    let (whole, fraction) := breakAt (· = '.') mantissa
    let (exponentSign, exponentDigits) := splitSign (exponent.getD ['0'])
    if (fraction.isSome || exponent.isSome) && isPlainInteger whole
        && fraction.elim true (isGrouped Char.isDigit) && isGrouped Char.isDigit exponentDigits then
      let fractionDigits := (fraction.getD []).filter (· ≠ '_')
      let power : Int := valueIn 10 exponentDigits
      let shifted := (if exponentSign = some true then -power else power) - fractionDigits.length
      some (.float (floatInRange (valueIn 10 (whole ++ fractionDigits)) shifted))
    else none

/-! ### Points in time -/

/-- The parts of a written point in time. -/
inductive ClockToken where
  | digits (text : List Char)
  | dash
  | colon
  | dot
  | plus
  | dateEnd
  | space
  | zulu
deriving DecidableEq, Repr, Inhabited

/-- The token of a character that is no digit. -/
def clockMark? (c : Char) : Option ClockToken :=
  if c = '-' then some .dash
  else if c = ':' then some .colon
  else if c = '.' then some .dot
  else if c = '+' then some .plus
  else if c = 'T' || c = 't' then some .dateEnd
  else if c = ' ' then some .space
  else if c = 'Z' || c = 'z' then some .zulu
  else none

/-- Runs of digits and the marks between them. -/
def clockTokens? : List Char → Option (List ClockToken)
  | [] => some []
  | c :: rest => do
    let tokens ← clockTokens? rest
    if c.isDigit then
      match tokens with
      | .digits text :: more => pure (.digits (c :: text) :: more)
      | tokens => pure (.digits [c] :: tokens)
    else
      let mark ← clockMark? c
      pure (mark :: tokens)

/-- Digits of a given count with a value in a range. -/
def isField (count low high : Nat) (text : List Char) : Bool :=
  text.length = count && low ≤ valueIn 10 text && valueIn 10 text ≤ high

/-- The days of a month. -/
def daysIn (year month : Nat) : Nat :=
  if month = 2 then
    if year % 4 = 0 ∧ (year % 100 ≠ 0 ∨ year % 400 = 0) then 29 else 28
  else if month = 4 ∨ month = 6 ∨ month = 9 ∨ month = 11 then 30
  else 31

/-- A day of the calendar. -/
def isDate (year month day : List Char) : Bool :=
  isField 4 0 9999 year && isField 2 1 12 month
    && isField 2 1 (daysIn (valueIn 10 year) (valueIn 10 month)) day

/-- An offset from universal time, or nothing. -/
def isOffset : List ClockToken → Bool
  | [] => true
  | [.zulu] => true
  | [.plus, .digits hours, .colon, .digits minutes] =>
    isField 2 0 23 hours && isField 2 0 59 minutes
  | [.dash, .digits hours, .colon, .digits minutes] =>
    isField 2 0 23 hours && isField 2 0 59 minutes
  | _ => false

/-- A time of day, with what must follow it. -/
def isTime (isRest : List ClockToken → Bool) : List ClockToken → Bool
  | .digits hour :: .colon :: .digits minute :: rest =>
    isField 2 0 23 hour && isField 2 0 59 minute &&
      match rest with
      | .colon :: .digits second :: .dot :: .digits _ :: rest =>
        isField 2 0 60 second && isRest rest
      | .colon :: .digits second :: rest => isField 2 0 60 second && isRest rest
      | rest => isRest rest
  | _ => false

/-- A date, a time of day, or both with an optional offset. -/
def isMoment (text : List Char) : Bool :=
  match clockTokens? text with
  | some (.digits year :: .dash :: .digits month :: .dash :: .digits day :: rest) =>
    isDate year month day &&
      match rest with
      | [] => true
      | .dateEnd :: rest => isTime isOffset rest
      | .space :: rest => isTime isOffset rest
      | _ => false
  | some tokens => isTime (· = []) tokens
  | none => false

/-- The value of a scalar without quotes. -/
def scalar? (text : List Char) : Option Value :=
  if text = ['t', 'r', 'u', 'e'] then some (.boolean true)
  else if text = ['f', 'a', 'l', 's', 'e'] then some (.boolean false)
  else
    match integer? text with
    | some n => some (.integer n)
    | none =>
      match float? text with
      | some value => some value
      | none => if isMoment text then some .moment else none

end EngineSync.Toml
