import EngineSync.Json.Value

/-!
# Fields of a record

A record is read from an object by the names of its fields, or from an array by their order.  In an
object members of other names are passed over and a field may stand once; an array may leave out
fields at its end and has no more items than there are fields.
-/
namespace EngineSync.Json

/-- The members of an object with their names spelled out; every name must be a text. -/
def namedMembers? : List (List Piece × Tree) → Option (List (String × Tree))
  | [] => some []
  | (pieces, tree) :: rest => do
    let name ← pieceText? pieces
    let members ← namedMembers? rest
    pure ((name, tree) :: members)

/-- The trees of all members of a name. -/
def membersNamed (name : String) (members : List (String × Tree)) : List Tree :=
  (members.filter fun member => member.1 = name).map (·.2)

/-- The tree of a field that may stand once. -/
def field? (members : List (String × Tree)) (name : String) : Option (Option Tree) :=
  match membersNamed name members with
  | [] => some none
  | [tree] => some (some tree)
  | _ => none

/-- The trees of the fields of a record, in the order of the names. -/
def fields? (names : List String) : Tree → Option (List (Option Tree))
  | .object members => (namedMembers? members).bind fun named => names.mapM (field? named)
  | .array items =>
    if items.length ≤ names.length then
      some (items.map some ++ List.replicate (names.length - items.length) none)
    else none
  | _ => none

/-- A text. -/
def Tree.text? : Tree → Option String
  | .string pieces => pieceText? pieces
  | _ => none

/-- A text, or none where the tree is null. -/
def Tree.optionalText? : Tree → Option (Option String)
  | .null => some none
  | tree => tree.text?.map some

/-- The items of an array. -/
def Tree.items? : Tree → Option (List Tree)
  | .array items => some items
  | _ => none

end EngineSync.Json
