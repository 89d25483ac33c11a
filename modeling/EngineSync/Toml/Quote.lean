/-!
# Quoted texts

Four forms of quotes: basic ones with escapes and literal ones without, each on one line or over
several.  A reader starts after the opening quotes and gives the text and what follows it.
-/
namespace EngineSync.Toml

/-- Characters a text may hold as they are: no controls but the tab. -/
def isTextChar (c : Char) : Bool :=
  c = '\t' || (' ' ≤ c && c ≠ '\x7f')

/-- The value of a hexadecimal digit. -/
def hexValue? (c : Char) : Option Nat :=
  if c.isDigit then some (c.toNat - 48)
  else if 'a' ≤ c && c ≤ 'f' then some (c.toNat - 87)
  else if 'A' ≤ c && c ≤ 'F' then some (c.toNat - 55)
  else none

/-- The character whose number the digits write; surrogates and numbers past the last character
have none. -/
def numbered? (digits : List Char) : Option Char := do
  let values ← digits.mapM hexValue?
  let n := values.foldl (fun n d => n * 16 + d) 0
  if n < 0xD800 ∨ (0xE000 ≤ n ∧ n < 0x110000) then pure (Char.ofNat n) else none

/-- The character of a one-letter escape. -/
def escaped? (c : Char) : Option Char :=
  if c = 'b' then some '\x08'
  else if c = 't' then some '\t'
  else if c = 'n' then some '\n'
  else if c = 'f' then some '\x0c'
  else if c = 'r' then some '\r'
  else if c = 'e' then some '\x1b'
  else if c = '"' then some '"'
  else if c = '\\' then some '\\'
  else none

/-- Puts a character in front of a read text. -/
def prepend (c : Char) (read : List Char × List Char) : List Char × List Char :=
  (c :: read.1, read.2)

/-- A basic text on one line. -/
def basicLine? : List Char → Option (List Char × List Char)
  | [] => none
  | '"' :: rest => some ([], rest)
  | '\\' :: 'x' :: a :: b :: rest => do
    let c ← numbered? [a, b]
    prepend c <$> basicLine? rest
  | '\\' :: 'u' :: a :: b :: c :: d :: rest => do
    let c ← numbered? [a, b, c, d]
    prepend c <$> basicLine? rest
  | '\\' :: 'U' :: a :: b :: c :: d :: e :: f :: g :: h :: rest => do
    let c ← numbered? [a, b, c, d, e, f, g, h]
    prepend c <$> basicLine? rest
  | '\\' :: c :: rest => do
    let c ← escaped? c
    prepend c <$> basicLine? rest
  | c :: rest => if isTextChar c && c ≠ '\\' then prepend c <$> basicLine? rest else none

/-- A literal text on one line. -/
def literalLine? : List Char → Option (List Char × List Char)
  | [] => none
  | '\'' :: rest => some ([], rest)
  | c :: rest => if isTextChar c then prepend c <$> literalLine? rest else none

/-- Three closing quotes; up to two more before them belong to the text. -/
def closing (quote : Char) (rest : List Char) : List Char × List Char :=
  match rest with
  | a :: b :: more =>
    if a = quote && b = quote then ([quote, quote], more)
    else if a = quote then ([quote], b :: more)
    else ([], rest)
  | [a] => if a = quote then ([quote], []) else ([], rest)
  | [] => ([], [])

/-- Where a reader of a basic text over several lines stands: in the text, on a line that ended
with a backslash, or past such a line end, where blanks and line ends are passed over. -/
inductive LineState where
  | text
  | lineEnd
  | skipping
deriving DecidableEq, Repr, Inhabited

/-- A basic text over several lines. -/
def basicLines? : LineState → List Char → Option (List Char × List Char)
  | _, [] => none
  | .lineEnd, '\n' :: rest => basicLines? .skipping rest
  | .lineEnd, '\r' :: '\n' :: rest => basicLines? .skipping rest
  | .lineEnd, c :: rest => if c = ' ' || c = '\t' then basicLines? .lineEnd rest else none
  | .skipping, '\n' :: rest => basicLines? .skipping rest
  | .skipping, '\r' :: '\n' :: rest => basicLines? .skipping rest
  | .skipping, ' ' :: rest => basicLines? .skipping rest
  | .skipping, '\t' :: rest => basicLines? .skipping rest
  | _, '"' :: '"' :: '"' :: rest => some (closing '"' rest)
  | _, '\n' :: rest => prepend '\n' <$> basicLines? .text rest
  | _, '\r' :: '\n' :: rest => (prepend '\r' ∘ prepend '\n') <$> basicLines? .text rest
  | _, '\\' :: 'x' :: a :: b :: rest => do
    let c ← numbered? [a, b]
    prepend c <$> basicLines? .text rest
  | _, '\\' :: 'u' :: a :: b :: c :: d :: rest => do
    let c ← numbered? [a, b, c, d]
    prepend c <$> basicLines? .text rest
  | _, '\\' :: 'U' :: a :: b :: c :: d :: e :: f :: g :: h :: rest => do
    let c ← numbered? [a, b, c, d, e, f, g, h]
    prepend c <$> basicLines? .text rest
  | _, '\\' :: '\n' :: rest => basicLines? .skipping rest
  | _, '\\' :: '\r' :: '\n' :: rest => basicLines? .skipping rest
  | _, '\\' :: ' ' :: rest => basicLines? .lineEnd rest
  | _, '\\' :: '\t' :: rest => basicLines? .lineEnd rest
  | _, '\\' :: c :: rest => do
    let c ← escaped? c
    prepend c <$> basicLines? .text rest
  | _, c :: rest => if isTextChar c && c ≠ '\\' then prepend c <$> basicLines? .text rest else none

/-- A literal text over several lines. -/
def literalLines? : List Char → Option (List Char × List Char)
  | [] => none
  | '\'' :: '\'' :: '\'' :: rest => some (closing '\'' rest)
  | '\r' :: '\n' :: rest => (prepend '\r' ∘ prepend '\n') <$> literalLines? rest
  | c :: rest => if isTextChar c || c = '\n' then prepend c <$> literalLines? rest else none

/-- A line end right after the opening quotes is no part of the text. -/
def dropFirstLineEnd : List Char → List Char
  | '\n' :: rest => rest
  | '\r' :: '\n' :: rest => rest
  | text => text

/-- A quoted text on one line, read from its opening quote. -/
def lineText? : List Char → Option (String × List Char)
  | '"' :: rest => (basicLine? rest).map fun (text, rest) => (String.ofList text, rest)
  | '\'' :: rest => (literalLine? rest).map fun (text, rest) => (String.ofList text, rest)
  | _ => none

/-- A quoted text of any form, read from its opening quotes. -/
def quotedText? : List Char → Option (String × List Char)
  | '"' :: '"' :: '"' :: rest =>
    (basicLines? .text (dropFirstLineEnd rest)).map fun (text, rest) => (String.ofList text, rest)
  | '\'' :: '\'' :: '\'' :: rest =>
    (literalLines? (dropFirstLineEnd rest)).map fun (text, rest) => (String.ofList text, rest)
  | text => lineText? text

end EngineSync.Toml
