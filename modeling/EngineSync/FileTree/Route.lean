import EngineSync.Failure
import EngineSync.Text.Split

/-!
# Paths

The text of a path, taken apart for two uses.  To be walked, it is a route: the names on the way,
the name at the end, and whether a slash follows that one.  To make missing directories, it is cut
into the shorter texts that lead to its parents; these are cut from the text alone and know nothing
of links.
-/
namespace EngineSync.FileTree

namespace Path

/-- Bytes in a name. -/
def maxName : Nat := 255

/-- Bytes in a path. -/
def maxLength : Nat := 4095

/-- The parts between slashes; some may be empty. -/
def parts (path : String) : List String :=
  (Text.splitAt '/' path.toList).map String.ofList

/-- The text of a path, given its parts from the last to the first. -/
def ofParts (parts : List String) : String :=
  "/".intercalate parts.reverse

/-- The stems of a path that end with a named part, from the longest on, as parts from the last to
the first.  A dot names something only in front. -/
def stems : List String → List (List String)
  | [] => []
  | part :: rest =>
    if part = "" ∨ (part = "." ∧ rest ≠ []) then stems rest
    else (part :: rest) :: stems rest

/-- The parents of a path, the nearest first. -/
def parents (path : String) : List (List String) :=
  (stems (parts path).reverse).drop 1

/-- A path and its parents, from the path on; the empty path has neither. -/
def ancestors (path : String) : List (List String) :=
  if stems (parts path).reverse = [] then [] else (parts path).reverse :: parents path

end Path

/-- A path to be walked. -/
structure Route where
  front : List String
  last : String
  slash : Bool
deriving DecidableEq, Repr, Inhabited

namespace Route

/-- The route of a path.  A path that starts with a slash leads out of the tree. -/
def parse (path : String) : Except IoKind Route :=
  if path.toList.contains '\x00' then .error .invalidInput
  else if path.utf8ByteSize > Path.maxLength then .error .invalidFilename
  else if path.toList.head? = some '/' then .error .notFound
  else
    match ((Path.parts path).filter (· ≠ "")).reverse with
    | [] => .error .notFound
    | last :: front => .ok ⟨front.reverse, last, path.toList.getLast? = some '/'⟩

/-- All names of a route. -/
def names (route : Route) : List String :=
  route.front ++ [route.last]

/-- The route that goes on along `target`, where a link was met before the names `rest` and the end
of this one. -/
def through (route target : Route) (rest : List String) : Route :=
  { route with front := target.names ++ rest }

/-- The route that goes on along `target`, where a link was met at the end of this one. -/
def into (route target : Route) : Route :=
  { target with slash := target.slash || route.slash }

end Route
end EngineSync.FileTree
