/-!
# Text read from bytes

A sequence of bytes read as UTF-8.  Bytes that form no character are kept as they are, so a reader
can pass over a damaged stretch it does not keep and still refuse one it does.
-/
namespace EngineSync.Text

/-- A character, or a byte that belongs to none. -/
inductive Symbol where
  | char (c : Char)
  | byte (b : UInt8)
deriving DecidableEq, Repr, Inhabited

/-- Whether `b` continues a character begun before it. -/
def isContinuation (b : UInt8) : Bool :=
  0x80 ≤ b && b < 0xC0

/-- The low six bits of a continuation byte. -/
def payload (b : UInt8) : Nat :=
  b.toNat % 64

/-- The character at the head of a sequence of bytes and the number of bytes after the first that
belong to it.  Overlong forms, surrogates and numbers past the last code point are refused. -/
def leadingChar : List UInt8 → Option (Char × Nat)
  | [] => none
  | a :: rest =>
    if a < 0x80 then some (Char.ofNat a.toNat, 0)
    else if a < 0xC2 then none
    else if a < 0xE0 then
      match rest with
      | b :: _ =>
        if isContinuation b then some (Char.ofNat ((a.toNat - 0xC0) * 64 + payload b), 1)
        else none
      | _ => none
    else if a < 0xF0 then
      match rest with
      | b :: c :: _ =>
        let n := (a.toNat - 0xE0) * 4096 + payload b * 64 + payload c
        if isContinuation b && isContinuation c && 0x800 ≤ n && !(0xD800 ≤ n && n < 0xE000) then
          some (Char.ofNat n, 2)
        else none
      | _ => none
    else if a < 0xF5 then
      match rest with
      | b :: c :: d :: _ =>
        let n := (a.toNat - 0xF0) * 262144 + payload b * 4096 + payload c * 64 + payload d
        if isContinuation b && isContinuation c && isContinuation d
            && 0x10000 ≤ n && n < 0x110000 then
          some (Char.ofNat n, 3)
        else none
      | _ => none
    else none

/-- The characters of a sequence of bytes, each byte outside them kept. -/
def symbols : List UInt8 → List Symbol
  | [] => []
  | a :: rest =>
    match leadingChar (a :: rest) with
    | some (c, extra) => .char c :: symbols (rest.drop extra)
    | none => .byte a :: symbols rest
termination_by bytes => bytes.length
decreasing_by
  · simp only [List.length_drop, List.length_cons]
    omega
  · simp

/-- The text that symbols spell, if no stray byte is among them. -/
def spell? : List Symbol → Option (List Char)
  | [] => some []
  | .char c :: rest => (spell? rest).map (c :: ·)
  | .byte _ :: _ => none

/-- The symbols of a text. -/
def symbolsOf (s : String) : List Symbol :=
  s.toList.map .char

/-- The text of a sequence of bytes, if all of it is UTF-8. -/
def ofBytes? (bytes : List UInt8) : Option String :=
  (spell? (symbols bytes)).map String.ofList

theorem spell?_map_char (cs : List Char) : spell? (cs.map .char) = some cs := by
  induction cs with
  | nil => rfl
  | cons c cs ih => simp [spell?, ih]

end EngineSync.Text
