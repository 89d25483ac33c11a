import EngineSync.DirEntry
import EngineSync.FileTree.Walk
import EngineSync.Journal
import EngineSync.Manifest
import EngineSync.Text.Order

/-!
# Project files

What the engine may ask of the project: the text of a file, the entries of a directory, and the
manifest that lies directly in a directory.  A listing has one entry for each child, in the
bytewise order of names, whatever order the file system yields them in.
-/
namespace EngineSync

/-- Where project files come from: the file system, or nowhere. -/
inductive Project where
  | files
  | nowhere
deriving DecidableEq, Repr, Inhabited

namespace Project

/-- The kind under which a child is listed. -/
def entryKind (type : FileType) : EntryKind :=
  if type = .regular then .file
  else if type = .directory then .directory
  else .other

/-- The order of a listing. -/
def entryLE (a b : DirEntry) : Bool :=
  Text.bytewiseLE a.name b.name

/-- The listing of children that come in any order. -/
def listing (children : List (String × FileType)) : List DirEntry :=
  (children.map fun (name, type) => { name, kind := entryKind type }).mergeSort entryLE

/-- The path of a name in a directory. -/
def join (directory name : String) : String :=
  if directory = "" ∨ directory.toList.getLast? = some '/' then directory ++ name
  else directory ++ "/" ++ name

/-- The text of a file. -/
def readText (project : Project) (tree : FileTree) (path : String) : Except EngineFailure String :=
  match project with
  | .nowhere => .error (.io ⟨.notFound, path⟩)
  | .files =>
    match tree.readText path with
    | .ok text => .ok text
    | .error kind => .error (.io kind.failure)

/-- The entries of a directory. -/
def listDirectory (project : Project) (tree : FileTree) (path : String) :
    Except EngineFailure (List DirEntry) :=
  match project with
  | .nowhere => .ok []
  | .files =>
    match tree.entries path with
    | .ok nodes => .ok (listing (Node.types nodes))
    | .error kind => .error (.io kind.failure)

/-- The manifest of a directory, if there is one. -/
def loadManifest (project : Project) (tree : FileTree) (directory : String) :
    Except EngineFailure (Option Manifest) × Journal :=
  match project with
  | .nowhere => (.ok none, [])
  | .files =>
    let path := join directory Manifest.fileName
    match tree.read path with
    | .error .notFound => (.ok none, [])
    | .error kind => (.error (.io kind.failure), [])
    | .ok bytes =>
      match Manifest.load? directory bytes with
      | some manifest => (.ok (some manifest), [.manifestLoaded path])
      | none => (.error (.manifest path), [])

end Project
end EngineSync
