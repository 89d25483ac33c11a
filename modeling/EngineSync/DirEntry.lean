import EngineSync.Json.Fields

/-!
# Directory entries

One entry of a directory listing: its file name, not a path, and its kind.  Links are never
followed: they are of the third kind, whatever they point to.
-/
namespace EngineSync

/-- The kind of a directory entry. -/
inductive EntryKind where
  | file
  | directory
  | other
deriving DecidableEq, Repr, Inhabited

/-- An entry of a directory listing. -/
structure DirEntry where
  name : String
  kind : EntryKind
deriving DecidableEq, Repr, Inhabited

namespace EntryKind

/-- The written name of a kind. -/
def name : EntryKind → String
  | .file => "file"
  | .directory => "directory"
  | .other => "other"

/-- The kind of a written name. -/
def ofName? (name : String) : Option EntryKind :=
  if name = "file" then some .file
  else if name = "directory" then some .directory
  else if name = "other" then some .other
  else none

/-- A kind is written as its name. -/
def toJson (kind : EntryKind) : Json :=
  .string kind.name

/-- A kind is read from its name, alone or as the key of a null member. -/
def ofTree? : Json.Tree → Option EntryKind
  | .string pieces => (Json.pieceText? pieces).bind ofName?
  | .object [(pieces, .null)] => (Json.pieceText? pieces).bind ofName?
  | _ => none

end EntryKind

namespace DirEntry

/-- The written form of an entry. -/
def toJson (entry : DirEntry) : Json :=
  .object [("name", .string entry.name), ("kind", entry.kind.toJson)]

/-- Reads an entry; both fields are required. -/
def ofTree? (tree : Json.Tree) : Option DirEntry :=
  match Json.fields? ["name", "kind"] tree with
  | some [some name, some kind] => do
    let name ← name.text?
    let kind ← EntryKind.ofTree? kind
    pure { name, kind }
  | _ => none

end DirEntry
end EngineSync
