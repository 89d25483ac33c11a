import EngineSync.FileTree
import EngineSync.FileTree.Route
import EngineSync.Text.Symbols

/-!
# Walking a path

A path is walked down to its last name.  Links on the way are always followed, and all that is on
the way must be a directory; a link at the end is followed as the operation wants it.  At most forty
links are followed in all.
-/
namespace EngineSync.FileTree

/-- The end of a walk: a directory and the name to be looked up there.  The name may be missing in
it, too long for it, or one of the two dots. -/
structure Spot where
  place : List String
  last : String
  slash : Bool
deriving DecidableEq, Repr, Inhabited

namespace Spot

/-- Whether the last name is one of the dots, which lead to a directory that is there already. -/
def isDots (spot : Spot) : Bool :=
  spot.last = "." || spot.last = ".."

/-- Whether the last name is longer than a name may be. -/
def isTooLong (spot : Spot) : Bool :=
  spot.last.utf8ByteSize > Path.maxName

/-- The place of the last name. -/
def target (spot : Spot) : List String :=
  if spot.last = "." then spot.place
  else if spot.last = ".." then spot.place.dropLast
  else spot.place ++ [spot.last]

end Spot

/-- Whether a link at the end of a path is followed, by whether a slash follows it there. -/
abbrev LinkRule := Bool → Bool

/-- Links followed on the way to a path. -/
def maxLinks : Nat := 40

/-- The entries of the directory at a place; there are none where there is no directory. -/
def entriesAt (tree : FileTree) (place : List String) : List (String × Node) :=
  match tree.at? place with
  | some (.directory entries) => entries
  | _ => []

/-- Goes down along names from a directory, given by the names on the way up from it and by its
entries.  `onLink` goes on where a link points to, with the names that are left, and `onEnd` in the
last directory. -/
def descend {α : Type} (tree : FileTree)
    (onLink : List String → String → List String → Except IoKind α)
    (onEnd : List String → List (String × Node) → Except IoKind α) (up : List String)
    (entries : List (String × Node)) : List String → Except IoKind α
  | [] => onEnd up entries
  | name :: rest =>
    if name = "." then descend tree onLink onEnd up entries rest
    else if name = ".." then
      descend tree onLink onEnd up.tail (tree.entriesAt up.tail.reverse) rest
    else if name.utf8ByteSize > Path.maxName then .error .invalidFilename
    else
      match Node.find? name entries with
      | none => .error .notFound
      | some (.file _) => .error .notADirectory
      | some (.link target) => onLink up target rest
      | some (.directory inner) => descend tree onLink onEnd (name :: up) inner rest

/-- Walks a route up to the first link that is to be followed, and goes on with `follow` there. -/
def walkToLink (tree : FileTree) (rule : LinkRule)
    (follow : List String → Route → Except IoKind Spot) (up : List String) (route : Route) :
    Except IoKind Spot :=
  tree.descend
    (fun up target rest =>
      (Route.parse target).bind fun target => follow up (route.through target rest))
    (fun up entries =>
      match rule route.slash, Node.find? route.last entries with
      | true, some (.link target) =>
        (Route.parse target).bind fun target => follow up (route.into target)
      | _, _ => .ok ⟨up.reverse, route.last, route.slash⟩)
    up (tree.entriesAt up.reverse) route.front

/-- Walks a route from a directory, given by the names on the way up from it, through at most
`links` links. -/
def walk (tree : FileTree) (rule : LinkRule) : Nat → List String → Route → Except IoKind Spot
  | 0 => walkToLink tree rule fun _ _ => .error .filesystemLoop
  | links + 1 => walkToLink tree rule (walk tree rule links)

/-- The spot a path leads to. -/
def spot (tree : FileTree) (rule : LinkRule) (path : String) : Except IoKind Spot :=
  (Route.parse path).bind (tree.walk rule maxLinks [])

/-- The node a path leads to, with its place.  A slash at the end asks for a directory. -/
def locate (tree : FileTree) (rule : LinkRule) (path : String) :
    Except IoKind (List String × Node) :=
  (tree.spot rule path).bind fun spot =>
    if spot.isTooLong then .error .invalidFilename
    else
      match tree.at? spot.target with
      | none => .error .notFound
      | some node =>
        if spot.slash && !node.isDirectory then .error .notADirectory
        else .ok (spot.target, node)

/-- The node a path leads to through all links. -/
def find (tree : FileTree) (path : String) : Except IoKind Node :=
  (tree.locate (fun _ => true) path).map (·.2)

/-- The bytes of a file, all read at one moment. -/
def read (tree : FileTree) (path : String) : Except IoKind (List UInt8) :=
  match tree.find path with
  | .ok (.file bytes) => .ok bytes
  | .ok _ => .error .isADirectory
  | .error kind => .error kind

/-- A file at the root is read by its name. -/
theorem read_of_root {entries : List (String × Node)} {path name : String} {bytes : List UInt8}
    (route : Route.parse path = .ok ⟨[], name, false⟩) (short : name.utf8ByteSize ≤ Path.maxName)
    (noDot : name ≠ ".") (noDots : name ≠ "..")
    (entry : Node.find? name entries = some (.file bytes)) :
    FileTree.read ⟨.directory entries⟩ path = .ok bytes := by
  have walked : walk ⟨.directory entries⟩ (fun _ => true) maxLinks [] ⟨[], name, false⟩ =
      .ok ⟨[], name, false⟩ := by
    show walkToLink _ _ _ _ _ = _
    simp [walkToLink, descend, entriesAt, at?, Node.at?, entry]
  simp [read, find, locate, spot, route, Except.bind, Except.map, walked, Spot.isTooLong,
    Spot.target, at?, Node.at?, entry, noDot, noDots, Nat.not_lt.mpr short]

/-- The text of a file. -/
def readText (tree : FileTree) (path : String) : Except IoKind String :=
  match tree.read path with
  | .ok bytes =>
    match Text.ofBytes? bytes with
    | some text => .ok text
    | none => .error .invalidData
  | .error kind => .error kind

/-- The entries of a directory. -/
def entries (tree : FileTree) (path : String) : Except IoKind (List (String × Node)) :=
  match tree.find path with
  | .ok (.directory entries) => .ok entries
  | .ok _ => .error .notADirectory
  | .error kind => .error kind

/-- Whether a path leads to a directory. -/
def isDirectory (tree : FileTree) (path : String) : Bool :=
  (tree.entries path).toOption.isSome

end EngineSync.FileTree
