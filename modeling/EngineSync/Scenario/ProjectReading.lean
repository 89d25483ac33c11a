import EngineSync.Project
import EngineSync.Scenario.Files

/-!
# Reading project files
-/
namespace EngineSync.Scenario.ProjectReading

/-- The scenario so far. -/
structure State where
  files : FileTree
  project : Project
  journal : Journal
deriving Repr, Inhabited

/-- A step. -/
inductive Step where
  | file (step : FileStep)
  | readText (path : String)
  | listDirectory (path : String)
  | loadManifest (path : String)
deriving DecidableEq, Repr, Inhabited

/-- The answer to a step. -/
inductive Answer where
  | done
  | text (text : String)
  | entries (entries : List DirEntry)
  | manifest (manifest : Option Manifest)
  | failed (failure : EngineFailure)
  | refused (refusal : Refusal)
deriving Repr, Inhabited

/-- One step. -/
def State.step (state : State) : Step → State × Answer
  | .file step =>
    match step.run state.files with
    | (files, .ok ()) => ({ state with files }, .done)
    | (files, .error refusal) => ({ state with files }, .refused refusal)
  | .readText path =>
    match state.project.readText state.files path with
    | .ok text => (state, .text text)
    | .error failure => (state, .failed failure)
  | .listDirectory path =>
    match state.project.listDirectory state.files path with
    | .ok entries => (state, .entries entries)
    | .error failure => (state, .failed failure)
  | .loadManifest path =>
    match state.project.loadManifest state.files path with
    | (.ok manifest, journal) =>
      ({ state with journal := state.journal ++ journal }, .manifest manifest)
    | (.error failure, journal) =>
      ({ state with journal := state.journal ++ journal }, .failed failure)

end EngineSync.Scenario.ProjectReading
