/-!
# TOML values

The value tree of a document.  A table remembers how it came to be, since that decides which later
lines may still add to it.
-/
namespace EngineSync.Toml

/-- How a table came to be: written in braces, by a header of its own, on the way to the table of a
longer header, or on the way to a dotted key. -/
inductive Origin where
  | inline
  | header
  | implied
  | dotted
deriving DecidableEq, Repr, Inhabited

/-- A value.  A number outside the binary64 range is marked as such; dates and times are not kept
apart. -/
inductive Value where
  | string (text : String)
  | integer (value : Int)
  | float (inRange : Bool)
  | boolean (value : Bool)
  | moment
  | array (items : List Value)
  | tables (items : List (List (String × Value)))
  | table (origin : Origin) (entries : List (String × Value))
deriving Repr, Inhabited

/-- The entries of a table, in the order they were written. -/
abbrev Entries := List (String × Value)

/-- The value of a key. -/
def find? (key : String) : Entries → Option Value
  | [] => none
  | (k, value) :: rest => if k = key then some value else find? key rest

/-- Replaces the value of a key that is present. -/
def replace (key : String) (value : Value) : Entries → Entries
  | [] => []
  | (k, old) :: rest => if k = key then (k, value) :: rest else (k, old) :: replace key value rest

/-- Puts a value under a key, at the end if the key is new. -/
def put (key : String) (value : Value) (entries : Entries) : Entries :=
  match find? key entries with
  | none => entries ++ [(key, value)]
  | some _ => replace key value entries

end EngineSync.Toml
