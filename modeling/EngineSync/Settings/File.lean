import EngineSync.FileTree.Walk
import EngineSync.Settings
import EngineSync.Toml.Document

/-!
# Settings files

Settings read from a TOML file.  Both options lie in one section and may be left out there; keys of
other names are passed over, though a number among them must be one that can be represented.  A
missing file holds the standard settings, and every other fault fails the whole reading.
-/
namespace EngineSync.Settings

open Toml (Value)

mutual

/-- Whether every number of a value that is passed over can be represented. -/
def isReadable : Value → Bool
  | .integer n => -2 ^ 127 ≤ n && n < 2 ^ 128
  | .float inRange => inRange
  | .array items => areReadable items
  | .tables items => tablesReadable items
  | .table _ entries => entriesReadable entries
  | _ => true

/-- The same of every value of a list. -/
def areReadable : List Value → Bool
  | [] => true
  | value :: rest => isReadable value && areReadable rest

/-- The same of every table of a list. -/
def tablesReadable : List (List (String × Value)) → Bool
  | [] => true
  | entries :: rest => entriesReadable entries && tablesReadable rest

/-- The same of every entry of a table. -/
def entriesReadable : List (String × Value) → Bool
  | [] => true
  | (_, value) :: rest => isReadable value && entriesReadable rest

end

/-- The section of the recognized options. -/
def sectionKey : String := "qside"

/-- The key of the target profile inside the section. -/
def profileOption : String := "targetProfile"

/-- The key of the formatting toggle inside the section. -/
def formattingOption : String := "enableFormatting"

/-- The options as they are given, each or none. -/
structure Given where
  profile : Option Profile
  formatting : Option Bool
deriving DecidableEq, Repr, Inhabited

/-- The settings that hold when some options are given. -/
def Given.settings (given : Given) : Settings :=
  { profile := given.profile.getD standard.profile
    formatting := given.formatting.getD standard.formatting }

/-- A profile is given as a string. -/
def profileOf? : Value → Option Profile
  | .string name => some (Profile.parse name)
  | _ => none

/-- The toggle is given as a boolean. -/
def formattingOf? : Value → Option Bool
  | .boolean value => some value
  | _ => none

/-- An option that may be left out but not be of another type. -/
def optional {α : Type} (read : Value → Option α) : Option Value → Option (Option α)
  | none => some none
  | some value => (read value).map some

/-- The options of a section.  It may also be a list of both options, with anything after them; and
a point in time counts as a section without options. -/
def Given.ofSection? : Value → Option Given
  | .table _ entries => do
    let profile ← optional profileOf? (Toml.find? profileOption entries)
    let formatting ← optional formattingOf? (Toml.find? formattingOption entries)
    if entriesReadable entries then pure { profile, formatting } else none
  | .array (profile :: formatting :: _) => do
    let profile ← profileOf? profile
    let formatting ← formattingOf? formatting
    pure { profile := some profile, formatting := some formatting }
  | .moment => some { profile := none, formatting := none }
  | _ => none

/-- The options of a document. -/
def Given.ofDocument? (root : Toml.Entries) : Option Given :=
  if entriesReadable (root.filter fun entry => entry.1 ≠ sectionKey) then
    match Toml.find? sectionKey root with
    | none => some { profile := none, formatting := none }
    | some value => Given.ofSection? value
  else none

/-- Reads settings from a text. -/
def parse? (text : String) : Option Settings :=
  ((Toml.parse? text).bind Given.ofDocument?).map Given.settings

/-- Reads a settings file. -/
def load (files : FileTree) (path : String) : Except SettingsFailure Settings :=
  match files.readText path with
  | .error .notFound => .ok standard
  | .error kind => .error (.read path kind.failure)
  | .ok text =>
    match parse? text with
    | some settings => .ok settings
    | none => .error (.parse path)

end EngineSync.Settings
