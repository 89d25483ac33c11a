import EngineSync.Json.Token
import EngineSync.Json.Numeral

/-!
# The tree of a JSON text

The tree of a well-formed text, before anything is asked of its strings and numbers: a reader that
skips a part of it accepts there any string and any number the grammar allows.  The parser keeps
the containers it is inside of on a stack, so it runs over the tokens once and nesting has no limit.
-/
namespace EngineSync.Json

/-- A well-formed text. -/
inductive Tree where
  | null
  | bool (value : Bool)
  | number (numeral : Numeral)
  | string (pieces : List Piece)
  | array (items : List Tree)
  | object (members : List (List Piece × Tree))
deriving Repr, Inhabited

/-- A container the parser is inside of; its finished parts are held in reverse. -/
inductive Frame where
  | array (items : List Tree)
  | object (members : List (List Piece × Tree))
  | member (members : List (List Piece × Tree)) (key : List Piece)
deriving Repr, Inhabited

/-- What may come next. -/
inductive Expected where
  | value
  | valueOrEnd
  | keyOrEnd
  | key
  | colon (key : List Piece)
  | separator
  | nothing (tree : Tree)
deriving Repr, Inhabited

/-- Where the parser stands. -/
structure ParseState where
  expected : Expected
  stack : List Frame
deriving Repr, Inhabited

/-- A finished value is handed to the container around it. -/
def complete (tree : Tree) : List Frame → Option ParseState
  | [] => some ⟨.nothing tree, []⟩
  | .array items :: stack => some ⟨.separator, .array (tree :: items) :: stack⟩
  | .member members key :: stack => some ⟨.separator, .object ((key, tree) :: members) :: stack⟩
  | .object _ :: _ => none

/-- The first token of a value. -/
def beginValue (stack : List Frame) : Token → Option ParseState
  | .null => complete .null stack
  | .bool b => complete (.bool b) stack
  | .number text => (Numeral.parse? text).bind fun n => complete (.number n) stack
  | .string pieces => complete (.string pieces) stack
  | .openBracket => some ⟨.valueOrEnd, .array [] :: stack⟩
  | .openBrace => some ⟨.keyOrEnd, .object [] :: stack⟩
  | _ => none

/-- One token. -/
def parseStep (state : ParseState) (token : Token) : Option ParseState :=
  match state.expected, state.stack, token with
  | .value, stack, token => beginValue stack token
  | .valueOrEnd, .array items :: stack, .closeBracket => complete (.array items.reverse) stack
  | .valueOrEnd, stack, token => beginValue stack token
  | .keyOrEnd, .object members :: stack, .closeBrace => complete (.object members.reverse) stack
  | .keyOrEnd, stack, .string pieces => some ⟨.colon pieces, stack⟩
  | .key, stack, .string pieces => some ⟨.colon pieces, stack⟩
  | .colon key, .object members :: stack, .colon => some ⟨.value, .member members key :: stack⟩
  | .separator, .array items :: stack, .comma => some ⟨.value, .array items :: stack⟩
  | .separator, .array items :: stack, .closeBracket => complete (.array items.reverse) stack
  | .separator, .object members :: stack, .comma => some ⟨.key, .object members :: stack⟩
  | .separator, .object members :: stack, .closeBrace => complete (.object members.reverse) stack
  | _, _, _ => none

/-- All tokens in turn. -/
def parseFrom (state : ParseState) : List Token → Option ParseState
  | [] => some state
  | token :: rest => (parseStep state token).bind fun next => parseFrom next rest

/-- The tree of a list of tokens. -/
def Tree.ofTokens? (tokens : List Token) : Option Tree :=
  match parseFrom ⟨.value, []⟩ tokens with
  | some ⟨.nothing tree, _⟩ => some tree
  | _ => none

/-- Reads a whole text. -/
def Tree.parse? (text : List Text.Symbol) : Option Tree :=
  (tokens? text).bind Tree.ofTokens?

end EngineSync.Json
