import EngineSync.Json.Fields

/-!
# Project manifests

A manifest lies in the directory of its project.  All its fields have defaults, and the directory
is never taken from the text.  Lint overrides are passed through to the engine untouched.
-/
namespace EngineSync

/-- A loaded manifest. -/
structure Manifest where
  directory : String
  author : Option String
  license : Option String
  lints : List Json
  files : List String
deriving Repr, Inhabited

namespace Manifest

/-- The file name of a manifest. -/
def fileName : String := "qsharp.json"

/-- The names of the fields, in order. -/
def fieldNames : List String := ["author", "license", "lints", "files"]

/-- Levels of nesting left to a lint inside the manifest and its list of lints. -/
def lintDepth : Nat := Json.maxDepth - 2

/-- A text or null. -/
def optionalText (value : Option String) : Json :=
  value.elim .null .string

/-- The written form of a manifest. -/
def toJson (m : Manifest) : Json :=
  .object
    [("author", optionalText m.author), ("license", optionalText m.license),
      ("lints", .array m.lints), ("files", .array (m.files.map .string))]

/-- A field that may be missing. -/
def withDefault {α : Type} (default : α) (read : Json.Tree → Option α) : Option Json.Tree → Option α
  | none => some default
  | some tree => read tree

/-- Reads a manifest; its directory stays empty. -/
def ofTree? (tree : Json.Tree) : Option Manifest :=
  match Json.fields? fieldNames tree with
  | some [author, license, lints, files] => do
    let author ← withDefault none Json.Tree.optionalText? author
    let license ← withDefault none Json.Tree.optionalText? license
    let lints ← withDefault [] (fun tree => tree.items?.bind (Json.ofItems? lintDepth)) lints
    let files ← withDefault [] (fun tree => tree.items?.bind (·.mapM Json.Tree.text?)) files
    pure { directory := "", author, license, lints, files }
  | _ => none

/-- Reads a manifest of a directory from bytes. -/
def load? (directory : String) (bytes : List UInt8) : Option Manifest :=
  ((Json.Tree.parse? (Text.symbols bytes)).bind ofTree?).map fun m => { m with directory }

end Manifest
end EngineSync
