import EngineSync.Journal
import EngineSync.Settings.File

/-!
# Sources of settings

Where the recognized options are read from: kept in memory, or a file.  A source is read whenever
an option is needed and never remembered, so a reaction to a change sees the latest value.  A file
that cannot be read leaves the standard settings in force, and the journal notes why.
-/
namespace EngineSync

/-- A source of settings. -/
inductive SettingsSource where
  | memory (settings : Settings)
  | file (path : String)
deriving DecidableEq, Repr, Inhabited

namespace SettingsSource

/-- Both options as they are now. -/
def snapshot (source : SettingsSource) (files : FileTree) : Settings × Journal :=
  match source with
  | .memory settings => (settings, [])
  | .file path =>
    match Settings.load files path with
    | .ok settings => (settings, [])
    | .error failure => (Settings.standard, [.settingsFailed failure])

/-- The profile as it is now. -/
def profile (source : SettingsSource) (files : FileTree) : Profile × Journal :=
  let (settings, journal) := source.snapshot files
  (settings.profile, journal)

/-- The formatting toggle as it is now. -/
def formatting (source : SettingsSource) (files : FileTree) : Bool × Journal :=
  let (settings, journal) := source.snapshot files
  (settings.formatting, journal)

/-- Replaces the profile of a source in memory. -/
def setProfile (profile : Profile) : SettingsSource → SettingsSource
  | .memory settings => .memory { settings with profile }
  | .file path => .file path

/-- Replaces the formatting toggle of a source in memory. -/
def setFormatting (formatting : Bool) : SettingsSource → SettingsSource
  | .memory settings => .memory { settings with formatting }
  | .file path => .file path

/-- Opens a settings file, which has to load once; later faults no longer fail. -/
def openFile (files : FileTree) (path : String) :
    Except SettingsFailure (SettingsSource × Journal) :=
  match Settings.load files path with
  | .ok settings => .ok (.file path, [.settingsOpened path settings.profile])
  | .error failure => .error failure

end SettingsSource
end EngineSync
