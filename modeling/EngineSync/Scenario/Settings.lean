import EngineSync.Scenario.Files
import EngineSync.Settings.Source

/-!
# Reading settings

Scenarios over a source in memory and a settings file; one of them is the source read through.
-/
namespace EngineSync.Scenario.SettingsReading

/-- The scenario so far. -/
structure State where
  files : FileTree
  memory : Settings
  path : String
  useFile : Bool
  journal : Journal
deriving Repr, Inhabited

/-- The source read through. -/
def State.source (state : State) : SettingsSource :=
  if state.useFile then .file state.path else .memory state.memory

/-- A step. -/
inductive Step where
  | file (step : FileStep)
  | setProfile (profile : Profile)
  | setFormatting (formatting : Bool)
  | profile
  | formatting
  | snapshot
  | path
  | load
  | openFile (path : Option String)
deriving DecidableEq, Repr, Inhabited

/-- The answer to a step. -/
inductive Answer where
  | done
  | profile (profile : Profile)
  | formatting (formatting : Bool)
  | settings (settings : Settings)
  | path (path : String)
  | opened (path : String) (settings : Settings)
  | failed (failure : SettingsFailure)
  | refused (refusal : Refusal)
deriving Repr, Inhabited

/-- One step. -/
def State.step (state : State) : Step → State × Answer
  | .file step =>
    match step.run state.files with
    | (files, .ok ()) => ({ state with files }, .done)
    | (files, .error refusal) => ({ state with files }, .refused refusal)
  | .setProfile profile => ({ state with memory := { state.memory with profile } }, .done)
  | .setFormatting formatting => ({ state with memory := { state.memory with formatting } }, .done)
  | .profile =>
    let (profile, journal) := state.source.profile state.files
    ({ state with journal := state.journal ++ journal }, .profile profile)
  | .formatting =>
    let (formatting, journal) := state.source.formatting state.files
    ({ state with journal := state.journal ++ journal }, .formatting formatting)
  | .snapshot =>
    let (settings, journal) := state.source.snapshot state.files
    ({ state with journal := state.journal ++ journal }, .settings settings)
  | .path => (state, .path state.path)
  | .load =>
    match Settings.load state.files state.path with
    | .ok settings => (state, .settings settings)
    | .error failure => (state, .failed failure)
  | .openFile path =>
    let path := path.getD state.path
    match SettingsSource.openFile state.files path with
    | .error failure => (state, .failed failure)
    | .ok (source, opened) =>
      let (settings, journal) := source.snapshot state.files
      ({ state with journal := state.journal ++ opened ++ journal }, .opened path settings)

end EngineSync.Scenario.SettingsReading
