import EngineSync.Failure

/-!
# A tree of files

Files, directories and symbolic links below one directory.  A place in the tree is the list of
names on the way down to it; paths, which may go through links and upwards, are walked in
`EngineSync.FileTree.Walk`.
-/
namespace EngineSync

/-- A file with its bytes, a link with the path it points to, or a directory with its entries. -/
inductive Node where
  | file (bytes : List UInt8)
  | link (target : String)
  | directory (entries : List (String × Node))
deriving Repr, Inhabited

/-- What a node is, told without following links.  A file system knows pipes, sockets and devices
besides; these are special, and no tree has any. -/
inductive FileType where
  | regular
  | directory
  | link
  | special
deriving DecidableEq, Repr, Inhabited

namespace Node

/-- The type of a node. -/
def fileType : Node → FileType
  | .file _ => .regular
  | .directory _ => .directory
  | .link _ => .link

/-- Entries by their names and types. -/
def types (entries : List (String × Node)) : List (String × FileType) :=
  entries.map fun (name, node) => (name, node.fileType)

/-- Whether the node is a directory. -/
def isDirectory : Node → Bool
  | .directory _ => true
  | _ => false

/-- The entry of a name. -/
def find? (name : String) : List (String × Node) → Option Node
  | [] => none
  | (n, node) :: rest => if n = name then some node else find? name rest

/-- Puts an entry into a directory, in place of one of the same name. -/
def put (name : String) (node : Node) : List (String × Node) → List (String × Node)
  | [] => [(name, node)]
  | (n, old) :: rest => if n = name then (name, node) :: rest else (n, old) :: put name node rest

/-- The node at a place, given by the names on the way down. -/
def at? : Node → List String → Option Node
  | node, [] => some node
  | .directory entries, name :: rest => (find? name entries).bind fun node => node.at? rest
  | _, _ :: _ => none

/-- Changes the entries of the directory at a place. -/
def updateEntries (f : List (String × Node) → List (String × Node)) : List String → Node → Node
  | [], .directory entries => .directory (f entries)
  | name :: rest, .directory entries =>
    match find? name entries with
    | some node => .directory (put name (updateEntries f rest node) entries)
    | none => .directory entries
  | _, node => node

end Node

/-- The directory all paths are relative to. -/
structure FileTree where
  root : Node
deriving Repr, Inhabited

namespace FileTree

/-- A tree without entries. -/
def empty : FileTree := ⟨.directory []⟩

/-- The node at a place. -/
def at? (tree : FileTree) (place : List String) : Option Node :=
  tree.root.at? place

/-- Puts a node under a free or taken name of the directory at a place. -/
def put (tree : FileTree) (place : List String) (name : String) (node : Node) : FileTree :=
  ⟨Node.updateEntries (Node.put name node) place tree.root⟩

/-- Takes a name out of the directory at a place. -/
def erase (tree : FileTree) (place : List String) (name : String) : FileTree :=
  ⟨Node.updateEntries (fun entries => entries.filter fun entry => entry.1 ≠ name) place tree.root⟩

/-- Takes all names out of the directory at a place. -/
def clear (tree : FileTree) (place : List String) : FileTree :=
  ⟨Node.updateEntries (fun _ => []) place tree.root⟩

end FileTree
end EngineSync
