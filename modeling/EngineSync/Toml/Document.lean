import EngineSync.Toml.Scalar
import EngineSync.Toml.Quote

/-!
# TOML documents

A document is a sequence of lines: key and value, header of a table, header of an item of an array
of tables, or nothing but blanks and a comment.  A table is defined once: either by its header or by
dotted keys, each of which may complete a table that was only implied by longer headers, and nothing
adds to a table written in braces.
-/
namespace EngineSync.Toml

/-- Levels of brackets and braces a value may have. -/
def maxDepth : Nat := 80

/-- Parts a key may have. -/
def maxParts : Nat := 80

/-- Blanks within a line. -/
def isBlank (c : Char) : Bool :=
  c = ' ' || c = '\t'

/-- What follows the blanks at the front. -/
def skipBlanks (text : List Char) : List Char :=
  text.dropWhile isBlank

/-- What follows blanks, line ends and comments. -/
def skipLines? (inComment : Bool) : List Char → Option (List Char)
  | [] => some []
  | '\n' :: rest => skipLines? false rest
  | '\r' :: '\n' :: rest => skipLines? false rest
  | c :: rest =>
    if inComment then if isTextChar c then skipLines? true rest else none
    else if isBlank c then skipLines? false rest
    else if c = '#' then skipLines? true rest
    else some (c :: rest)

/-- The next line, after blanks and a comment that end this one. -/
def endLine? (inComment : Bool) : List Char → Option (List Char)
  | [] => some []
  | '\n' :: rest => some rest
  | '\r' :: '\n' :: rest => some rest
  | c :: rest =>
    if inComment then if isTextChar c then endLine? true rest else none
    else if isBlank c then endLine? false rest
    else if c = '#' then endLine? true rest
    else none

/-! ### Keys -/

/-- Characters of a key without quotes. -/
def isKeyChar (c : Char) : Bool :=
  c.isAlphanum || c = '_' || c = '-'

/-- One part of a key. -/
def keyPart? (text : List Char) : Option (String × List Char) :=
  match text.head? with
  | some '"' => lineText? text
  | some '\'' => lineText? text
  | _ =>
    let name := text.takeWhile isKeyChar
    if name = [] then none else some (String.ofList name, text.dropWhile isKeyChar)

/-- At most `parts` parts of a key, with dots between them and blanks around the dots. -/
def partsOfKey? : Nat → List Char → Option (List String × List Char)
  | 0, _ => none
  | parts + 1, text => do
    let (part, rest) ← keyPart? text
    match skipBlanks rest with
    | '.' :: more =>
      let (others, rest) ← partsOfKey? parts (skipBlanks more)
      pure (part :: others, rest)
    | _ => pure ([part], rest)

/-- A key. -/
def key? (text : List Char) : Option (List String × List Char) :=
  partsOfKey? maxParts text

/-! ### Tables -/

/-- Changes the table at the end of a path.  Tables missing on the way are made; a path through an
array of tables goes on in its last item.  A dotted path does not enter a table with a header, and a
table that was only implied becomes one of dotted keys when a dotted path enters it. -/
def modifyAt (dotted : Bool) (change : Origin → Entries → Option Entries) :
    List String → Origin → Entries → Option Entries
  | [], origin, entries => change origin entries
  | key :: path, _, entries =>
    match find? key entries with
    | none =>
      let made := if dotted then Origin.dotted else Origin.implied
      (modifyAt dotted change path made []).map fun table => put key (.table made table) entries
    | some (.tables items) =>
      match items.getLast? with
      | none => none
      | some item =>
        (modifyAt dotted change path .header item).map fun table =>
          put key (.tables (items.dropLast ++ [table])) entries
    | some (.table origin table) =>
      if origin = .inline ∨ (dotted ∧ origin = .header) then none
      else
        let origin := if dotted then Origin.dotted else origin
        (modifyAt dotted change path origin table).map fun table =>
          put key (.table origin table) entries
    | some _ => none

/-- Adds a value under the last part of a key to a table. -/
def addValue (path : List String) (key : String) (value : Value) (origin : Origin)
    (entries : Entries) : Option Entries :=
  modifyAt (path ≠ [])
    (fun origin entries =>
      if (origin = .dotted) ≠ (path ≠ []) then none
      else if (find? key entries).isSome then none
      else some (entries ++ [(key, value)]))
    path origin entries

/-- Adds a value under a key to a table. -/
def addKeyed (parts : List String) (value : Value) (origin : Origin) (entries : Entries) :
    Option Entries :=
  match parts.getLast? with
  | none => none
  | some key => addValue parts.dropLast key value origin entries

/-- The header of a table. -/
def openTable (parts : List String) (root : Entries) : Option Entries :=
  match parts.getLast? with
  | none => none
  | some key =>
    modifyAt false
      (fun _ entries =>
        match find? key entries with
        | none => some (entries ++ [(key, .table .header [])])
        | some (.table .implied table) => some (replace key (.table .header table) entries)
        | some _ => none)
      parts.dropLast .header root

/-- The header of an item of an array of tables. -/
def openItem (parts : List String) (root : Entries) : Option Entries :=
  match parts.getLast? with
  | none => none
  | some key =>
    modifyAt false
      (fun _ entries =>
        match find? key entries with
        | none => some (entries ++ [(key, .tables [[]])])
        | some (.tables items) => some (replace key (.tables (items ++ [[]])) entries)
        | some _ => none)
      parts.dropLast .header root

/-! ### Values -/

/-- Characters that end a scalar without quotes. -/
def endsScalar (c : Char) : Bool :=
  isBlank c || c = '\n' || c = '\r' || c = ',' || c = ']' || c = '}' || c = '#'

/-- A scalar without quotes; a date may be followed by a blank and a time. -/
def bareValue? (text : List Char) : Option (Value × List Char) :=
  let raw := text.takeWhile (!endsScalar ·)
  let rest := text.dropWhile (!endsScalar ·)
  match rest with
  | ' ' :: c :: more =>
    if raw.length = 10 && isMoment raw && c.isDigit then
      let time := (c :: more).takeWhile (!endsScalar ·)
      (scalar? (raw ++ ' ' :: time)).map (·, (c :: more).dropWhile (!endsScalar ·))
    else (scalar? raw).map (·, rest)
  | _ => (scalar? raw).map (·, rest)

mutual

/-- A value, with at most `depth` levels of brackets and braces. -/
def value? (fuel depth : Nat) (text : List Char) : Option (Value × List Char) :=
  match fuel with
  | 0 => none
  | fuel + 1 =>
    match text with
    | '"' :: _ => (quotedText? text).map fun (text, rest) => (.string text, rest)
    | '\'' :: _ => (quotedText? text).map fun (text, rest) => (.string text, rest)
    | '[' :: rest =>
      if depth = 0 then none
      else (items? fuel (depth - 1) rest []).map fun (items, rest) => (.array items, rest)
    | '{' :: rest =>
      if depth = 0 then none
      else (members? fuel (depth - 1) rest []).map fun (entries, rest) =>
        (.table .inline entries, rest)
    | _ => bareValue? text

/-- The items of an array up to its closing bracket. -/
def items? (fuel depth : Nat) (text : List Char) (items : List Value) :
    Option (List Value × List Char) :=
  match fuel with
  | 0 => none
  | fuel + 1 => do
    let text ← skipLines? false text
    match text with
    | ']' :: rest => pure (items, rest)
    | _ =>
      let (value, rest) ← value? fuel depth text
      let rest ← skipLines? false rest
      match rest with
      | ',' :: rest => items? fuel depth rest (items ++ [value])
      | ']' :: rest => pure (items ++ [value], rest)
      | _ => none

/-- The keys and values of a table in braces, up to its closing brace. -/
def members? (fuel depth : Nat) (text : List Char) (entries : Entries) :
    Option (Entries × List Char) :=
  match fuel with
  | 0 => none
  | fuel + 1 => do
    let text ← skipLines? false text
    match text with
    | '}' :: rest => pure (entries, rest)
    | _ =>
      let (parts, rest) ← key? text
      let rest ← skipLines? false rest
      match rest with
      | '=' :: rest =>
        let rest ← skipLines? false rest
        let (value, rest) ← value? fuel depth rest
        let entries ← addKeyed parts value .inline entries
        let rest ← skipLines? false rest
        match rest with
        | ',' :: rest => members? fuel depth rest entries
        | '}' :: rest => pure (entries, rest)
        | _ => none
      | _ => none

end

/-! ### Lines -/

/-- A document under construction: its root and the path of the table lines go to. -/
structure State where
  root : Entries
  current : List String
deriving Repr, Inhabited

/-- Adds a value to the current table. -/
def State.add (state : State) (parts : List String) (value : Value) : Option State :=
  (modifyAt false (addKeyed parts value) state.current .header state.root).map fun root =>
    { state with root }

/-- The line at the front of a text, which begins with neither a blank nor a comment. -/
def line? (state : State) (text : List Char) : Option (State × List Char) :=
  match text with
  | '[' :: '[' :: rest => do
    let (parts, rest) ← key? (skipBlanks rest)
    match skipBlanks rest with
    | ']' :: ']' :: rest =>
      let root ← openItem parts state.root
      let rest ← endLine? false rest
      pure ({ root, current := parts }, rest)
    | _ => none
  | '[' :: rest => do
    let (parts, rest) ← key? (skipBlanks rest)
    match skipBlanks rest with
    | ']' :: rest =>
      let root ← openTable parts state.root
      let rest ← endLine? false rest
      pure ({ root, current := parts }, rest)
    | _ => none
  | text => do
    let (parts, rest) ← key? text
    match skipBlanks rest with
    | '=' :: rest =>
      let (value, rest) ← value? (2 * rest.length + 2) maxDepth (skipBlanks rest)
      let state ← state.add parts value
      let rest ← endLine? false rest
      pure (state, rest)
    | _ => none

/-- The lines of a text. -/
def lines? : Nat → State → List Char → Option State
  | 0, _, _ => none
  | fuel + 1, state, text => do
    let text ← skipLines? false text
    if text = [] then pure state
    else
      let (state, rest) ← line? state text
      lines? fuel state rest

/-- A byte order mark may stand before the first line. -/
def dropByteOrderMark : List Char → List Char
  | '\uFEFF' :: rest => rest
  | text => text

/-- Reads a document. -/
def parse? (text : String) : Option Entries :=
  let text := dropByteOrderMark text.toList
  (lines? (text.length + 1) { root := [], current := [] } text).map (·.root)

end EngineSync.Toml
