import EngineSync.Text.Symbols

/-!
# Tokens of a JSON text

The lexer reads one symbol at a time and holds the token it is inside of, so it runs over the text
once.  A string keeps its escapes of code units and its stray bytes: whether they spell a text is
asked only where the string is kept.
-/
namespace EngineSync.Json

open Text (Symbol)

/-- A part of a string: a character, a code unit given by its number, or a stray byte. -/
inductive Piece where
  | char (c : Char)
  | unit (n : Nat)
  | byte (b : UInt8)
deriving DecidableEq, Repr, Inhabited

/-- The words of the grammar. -/
inductive Token where
  | openBracket
  | closeBracket
  | openBrace
  | closeBrace
  | comma
  | colon
  | null
  | bool (value : Bool)
  | number (text : List Char)
  | string (pieces : List Piece)
deriving DecidableEq, Repr, Inhabited

/-- What the lexer is inside of; collected parts are held in reverse. -/
inductive LexState where
  | between
  | word (letters : List Char)
  | number (text : List Char)
  | string (pieces : List Piece)
  | escape (pieces : List Piece)
  | codeUnit (pieces : List Piece) (digits : Nat) (value : Nat)
deriving DecidableEq, Repr, Inhabited

/-- Blanks between tokens. -/
def isBlank (c : Char) : Bool :=
  c = ' ' || c = '\t' || c = '\n' || c = '\r'

/-- Characters that continue a number. -/
def isNumeric (c : Char) : Bool :=
  c.isDigit || c = '+' || c = '-' || c = '.' || c = 'e' || c = 'E'

/-- The value of a hexadecimal digit. -/
def hexValue? (c : Char) : Option Nat :=
  if c.isDigit then some (c.toNat - 48)
  else if 'a' ≤ c && c ≤ 'f' then some (c.toNat - 87)
  else if 'A' ≤ c && c ≤ 'F' then some (c.toNat - 55)
  else none

/-- The character a one-letter escape stands for. -/
def escapedChar? (c : Char) : Option Char :=
  if c = '"' then some '"'
  else if c = '\\' then some '\\'
  else if c = '/' then some '/'
  else if c = 'b' then some '\x08'
  else if c = 'f' then some '\x0c'
  else if c = 'n' then some '\n'
  else if c = 'r' then some '\r'
  else if c = 't' then some '\t'
  else none

/-- The token a word of letters stands for. -/
def wordToken? (letters : List Char) : Option Token :=
  if letters = ['n', 'u', 'l', 'l'] then some .null
  else if letters = ['t', 'r', 'u', 'e'] then some (.bool true)
  else if letters = ['f', 'a', 'l', 's', 'e'] then some (.bool false)
  else none

/-- The punctuation token of a character. -/
def punctuation? (c : Char) : Option Token :=
  if c = '[' then some .openBracket
  else if c = ']' then some .closeBracket
  else if c = '{' then some .openBrace
  else if c = '}' then some .closeBrace
  else if c = ',' then some .comma
  else if c = ':' then some .colon
  else none

/-- One character between tokens: the tokens it completes and the state after it. -/
def lexBetween (c : Char) : Option (List Token × LexState) :=
  if isBlank c then some ([], .between)
  else if c = '"' then some ([], .string [])
  else if c.isDigit || c = '-' then some ([], .number [c])
  else if c.isAlpha then some ([], .word [c])
  else (punctuation? c).map fun token => ([token], .between)

/-- One symbol: the tokens it completes and the state after it; `none` where no text goes on so. -/
def lexStep : LexState → Symbol → Option (List Token × LexState)
  | .between, .char c => lexBetween c
  | .word letters, .char c =>
    if c.isAlphanum then some ([], .word (c :: letters))
    else do
      let token ← wordToken? letters.reverse
      let (more, state) ← lexBetween c
      pure (token :: more, state)
  | .number text, .char c =>
    if isNumeric c then some ([], .number (c :: text))
    else do
      let (more, state) ← lexBetween c
      pure (.number text.reverse :: more, state)
  | .string pieces, .char c =>
    if c = '"' then some ([.string pieces.reverse], .between)
    else if c = '\\' then some ([], .escape pieces)
    else if c < ' ' then none
    else some ([], .string (.char c :: pieces))
  | .string pieces, .byte b => some ([], .string (.byte b :: pieces))
  | .escape pieces, .char c =>
    if c = 'u' then some ([], .codeUnit pieces 0 0)
    else (escapedChar? c).map fun e => ([], .string (.char e :: pieces))
  | .codeUnit pieces digits value, .char c =>
    (hexValue? c).map fun d =>
      if digits < 3 then ([], .codeUnit pieces (digits + 1) (value * 16 + d))
      else ([], .string (.unit (value * 16 + d) :: pieces))
  | _, .byte _ => none

/-- The tokens still to come from the state at the end of the text. -/
def lexEnd : LexState → Option (List Token)
  | .between => some []
  | .word letters => (wordToken? letters.reverse).map ([·])
  | .number text => some [.number text.reverse]
  | _ => none

/-- The tokens of the rest of a text, read from a state. -/
def tokensFrom (state : LexState) : List Symbol → Option (List Token)
  | [] => lexEnd state
  | symbol :: rest =>
    match lexStep state symbol with
    | none => none
    | some (tokens, next) => (tokensFrom next rest).map (tokens ++ ·)

/-- The tokens of a text. -/
def tokens? (text : List Symbol) : Option (List Token) :=
  tokensFrom .between text

/-- The characters that pieces spell: a pair of surrogate units is one character, and a surrogate
without its partner or a stray byte spells nothing. -/
def spell? : List Piece → Option (List Char)
  | [] => some []
  | .char c :: rest => (spell? rest).map (c :: ·)
  | .byte _ :: _ => none
  | .unit n :: rest =>
    if 0xD800 ≤ n && n < 0xDC00 then
      match rest with
      | .unit m :: rest =>
        if 0xDC00 ≤ m && m < 0xE000 then
          (spell? rest).map (Char.ofNat (0x10000 + (n - 0xD800) * 0x400 + (m - 0xDC00)) :: ·)
        else none
      | _ => none
    else if 0xDC00 ≤ n && n < 0xE000 then none
    else (spell? rest).map (Char.ofNat n :: ·)

/-- The text that pieces spell. -/
def pieceText? (pieces : List Piece) : Option String :=
  (spell? pieces).map String.ofList

end EngineSync.Json
