import EngineSync.FileTree.Walk

/-!
# Changes of a tree

Making, writing and removing.  A change that needs a directory makes the parents that are missing,
and they stay when the change itself fails.
-/
namespace EngineSync.FileTree

/-- What a change leaves: the tree, changed in part even where it failed, and how it ended. -/
abbrev Change := FileTree × Except IoKind Unit

/-! ### Directories -/

/-- The spot of a path that ends with a free name; a link at the end takes the name. -/
def freeSpot (tree : FileTree) (path : String) : Except IoKind Spot :=
  (tree.spot (fun _ => false) path).bind fun spot =>
    if spot.isDots then .error .alreadyExists
    else if spot.isTooLong then .error .invalidFilename
    else if (tree.at? spot.target).isSome then .error .alreadyExists
    else .ok spot

/-- Makes one directory. -/
def makeDirectory (tree : FileTree) (path : String) : Change :=
  match tree.freeSpot path with
  | .ok spot => (tree.put spot.place spot.last (.directory []), .ok ())
  | .error kind => (tree, .error kind)

/-- Makes a directory where there is none; an existing one is no failure. -/
def ensureDirectory (tree : FileTree) (path : String) : Change :=
  match tree.makeDirectory path with
  | (tree, .error .alreadyExists) =>
    if tree.isDirectory path then (tree, .ok ()) else (tree, .error .alreadyExists)
  | change => change

/-- Makes the first of some directories, of which each lies in the next; a directory is given by the
parts of its path from the last to the first. -/
def ensureNested (tree : FileTree) : List (List String) → Change
  | [] => (tree, .ok ())
  | parts :: parents =>
    let path := Path.ofParts parts
    match tree.ensureDirectory path with
    | (tree, .error .notFound) =>
      match ensureNested tree parents with
      | (tree, .ok ()) => tree.ensureDirectory path
      | failed => failed
    | change => change

/-- Makes a directory with its parents. -/
def makeDirectories (tree : FileTree) (path : String) : Change :=
  tree.ensureNested (Path.ancestors path)

/-- Makes the parents of a path. -/
def makeParents (tree : FileTree) (path : String) : Change :=
  tree.ensureNested (Path.parents path)

/-! ### Files and links -/

/-- Writes a file in an existing directory, in place of an older one.  A link at the end is written
through; a slash at the end asks for a directory. -/
def writeFile (tree : FileTree) (path : String) (bytes : List UInt8) : Change :=
  match tree.spot (!·) path with
  | .error kind => (tree, .error kind)
  | .ok spot =>
    if spot.slash || spot.isDots then (tree, .error .isADirectory)
    else if spot.isTooLong then (tree, .error .invalidFilename)
    else
      match tree.at? spot.target with
      | some (.directory _) => (tree, .error .isADirectory)
      | _ => (tree.put spot.place spot.last (.file bytes), .ok ())

/-- Writes a file and makes the parents it lacks. -/
def write (tree : FileTree) (path : String) (bytes : List UInt8) : Change :=
  match tree.makeParents path with
  | (tree, .ok ()) => tree.writeFile path bytes
  | failed => failed

/-- Makes a link in an existing directory.  Nothing needs to be where it points to. -/
def makeLink (tree : FileTree) (path target : String) : Change :=
  if (target ++ path).toList.contains '\x00' then (tree, .error .invalidInput)
  else if target = "" then (tree, .error .notFound)
  else if target.utf8ByteSize > Path.maxLength then (tree, .error .invalidFilename)
  else
    match tree.freeSpot path with
    | .error kind => (tree, .error kind)
    | .ok spot =>
      if spot.slash then (tree, .error .notFound)
      else (tree.put spot.place spot.last (.link target), .ok ())

/-- Makes a link and the parents it lacks. -/
def link (tree : FileTree) (path target : String) : Change :=
  match tree.makeParents path with
  | (tree, .ok ()) => tree.makeLink path target
  | failed => failed

/-! ### Removal -/

/-- Removes an empty directory.  Where there is none any more, nothing is left to do; a directory is
not removed under the name of a link to it, nor by a dot. -/
def removeEmpty (tree : FileTree) (path : String) : Change :=
  match tree.spot (fun _ => false) path with
  | .error .notFound => (tree, .ok ())
  | .error kind => (tree, .error kind)
  | .ok spot =>
    if spot.last = "." then (tree, .error .invalidInput)
    else if spot.last = ".." then (tree, .error .directoryNotEmpty)
    else
      match tree.at? spot.target with
      | none => (tree, .ok ())
      | some (.directory _) => (tree.erase spot.place spot.last, .ok ())
      | some _ => (tree, .error .notADirectory)

/-- Removes a file or a link, or a directory with all it holds.  A directory is emptied before its
path is walked again to remove it, so a path through its own entries leaves it empty. -/
def remove (tree : FileTree) (path : String) : Change :=
  match tree.locate id path with
  | .error kind => (tree, .error kind)
  | .ok (place, .directory _) => (tree.clear place).removeEmpty path
  | .ok (place, _) => (tree.erase place.dropLast (place.getLast?.getD ""), .ok ())

end EngineSync.FileTree
