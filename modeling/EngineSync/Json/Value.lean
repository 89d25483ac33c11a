import EngineSync.Json.Number
import EngineSync.Json.Tree
import EngineSync.Text.Quoted

/-!
# JSON values

Values as they are kept: texts are Unicode, an object has each key once and in ascending order.  A
value is written without blanks, and only the quote, the backslash and the controls are escaped.
-/
namespace EngineSync

/-- A JSON value. -/
inductive Json where
  | null
  | bool (value : Bool)
  | number (value : Json.Number)
  | string (value : String)
  | array (items : List Json)
  | object (members : List (String × Json))
deriving Repr, Inhabited

namespace Json

/-- Puts a member into a list sorted by key; a member of the same key gives way. -/
def insertMember (key : String) (value : Json) : List (String × Json) → List (String × Json)
  | [] => [(key, value)]
  | (k, v) :: rest =>
    if key = k then (key, value) :: rest
    else if key < k then (key, value) :: (k, v) :: rest
    else (k, v) :: insertMember key value rest

/-- Levels of nesting a kept value may have, counted from the outermost container. -/
def maxDepth : Nat := 127

mutual

/-- The value of a tree, nested at most `depth` levels. -/
def ofTree? (depth : Nat) : Tree → Option Json
  | .null => some .null
  | .bool b => some (.bool b)
  | .number n => (Number.ofNumeral? n).map .number
  | .string pieces => (pieceText? pieces).map .string
  | .array items =>
    if depth = 0 then none else (ofItems? (depth - 1) items).map .array
  | .object members =>
    if depth = 0 then none else (ofMembers? (depth - 1) members []).map .object

/-- The values of the items of an array. -/
def ofItems? (depth : Nat) : List Tree → Option (List Json)
  | [] => some []
  | item :: rest => do
    let value ← ofTree? depth item
    let values ← ofItems? depth rest
    pure (value :: values)

/-- The members of an object, added to those before them. -/
def ofMembers? (depth : Nat) :
    List (List Piece × Tree) → List (String × Json) → Option (List (String × Json))
  | [], members => some members
  | (pieces, tree) :: rest, members => do
    let key ← pieceText? pieces
    let value ← ofTree? depth tree
    ofMembers? depth rest (insertMember key value members)

end

/-- Reads a whole text. -/
def parse? (text : List Text.Symbol) : Option Json :=
  (Tree.parse? text).bind (ofTree? maxDepth)

/-- One character of a written string. -/
def escapeChar (c : Char) : List Char :=
  if c = '"' then ['\\', '"']
  else if c = '\\' then ['\\', '\\']
  else if c = '\x08' then ['\\', 'b']
  else if c = '\x0c' then ['\\', 'f']
  else if c = '\n' then ['\\', 'n']
  else if c = '\r' then ['\\', 'r']
  else if c = '\t' then ['\\', 't']
  else if c < ' ' then
    ['\\', 'u', '0', '0', Text.hexDigit (c.toNat / 16), Text.hexDigit (c.toNat % 16)]
  else [c]

/-- A written string. -/
def renderString (s : String) : List Char :=
  '"' :: s.toList.flatMap escapeChar ++ ['"']

mutual

/-- The characters of a written value. -/
def render : Json → List Char
  | .null => ['n', 'u', 'l', 'l']
  | .bool true => ['t', 'r', 'u', 'e']
  | .bool false => ['f', 'a', 'l', 's', 'e']
  | .number n => n.render
  | .string s => renderString s
  | .array items => '[' :: renderItems items ++ [']']
  | .object members => '{' :: renderMembers members ++ ['}']

/-- The items of an array, with commas between them. -/
def renderItems : List Json → List Char
  | [] => []
  | [item] => render item
  | item :: rest => render item ++ ',' :: renderItems rest

/-- The members of an object, with commas between them. -/
def renderMembers : List (String × Json) → List Char
  | [] => []
  | [(key, value)] => renderString key ++ ':' :: render value
  | (key, value) :: rest => renderString key ++ ':' :: render value ++ ',' :: renderMembers rest

end

/-- The text of a value. -/
def text (value : Json) : String :=
  String.ofList (render value)

end Json
end EngineSync
