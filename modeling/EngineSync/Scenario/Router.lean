import EngineSync.Router
import EngineSync.Scenario.EngineView
import EngineSync.Scenario.Files

/-!
# Changes of the configuration on their way through a router
-/
namespace EngineSync.Scenario.Router

/-- The scenario so far; some of the provider changes were shown. -/
structure State where
  env : Environment
  router : EngineSync.Router
  pending : List (Pending RouteCall)
  view : EngineView
  changes : Nat
deriving Repr, Inhabited

/-- A step. -/
inductive Step where
  | start (id : String) (change : ConfigChange)
  | file (step : FileStep)
  | setProfile (profile : Profile)
  | setFormatting (enabled : Bool)
  | release (key : String)
  | refuse (refusals : Refusals)
  | gate (enabled : Bool)
  | dispose
  | refused (refusal : Refusal)
deriving Repr, Inhabited

/-- The answer to a step. -/
inductive Answer where
  | started
  | done
  | flag (value : Bool)
  | transition (transition : Transition)
  | refused (refusal : Refusal)
deriving DecidableEq, Repr, Inhabited

/-- What a step brought about. -/
structure Outcome where
  answer : Answer
  finished : List (String × RouteResult)
  changes : List ProviderChange
  news : EngineNews
deriving Repr, Inhabited

namespace State

/-- A router between a new session and a disabled gate. -/
def initial (env : Environment) (language : String) : Except EngineFailure State :=
  (env.engine.create none).map fun (engine, session) =>
    let (env, gate) := { env with engine }.makeGate language
    ⟨env, ⟨session, gate⟩, [], .start, 0⟩

/-- Replaces the engine. -/
def setEngine (state : State) (engine : Engine) : State :=
  { state with env := { state.env with engine } }

/-- Replaces the source of settings. -/
def setSource (state : State) (source : SettingsSource) : State :=
  { state with env := { state.env with source } }

/-- What one step does at once. -/
def apply (state : State) : Step → State × Answer
  | .start id change =>
    ({ state with pending := state.pending ++ [⟨id, .arriving change⟩] }, .started)
  | .file step =>
    match step.run state.env.files with
    | (files, .ok ()) => ({ state with env := { state.env with files } }, .done)
    | (files, .error refusal) => ({ state with env := { state.env with files } }, .refused refusal)
  | .setProfile profile => (state.setSource (state.env.source.setProfile profile), .done)
  | .setFormatting enabled => (state.setSource (state.env.source.setFormatting enabled), .done)
  | .release key => (state.setEngine (state.env.engine.release key), .done)
  | .refuse refusals => (state.setEngine { state.env.engine with refusals }, .done)
  | .gate enabled =>
    let (env, transition) := state.env.setEnabled state.router.gate enabled
    ({ state with env }, .transition transition)
  | .dispose =>
    let (env, disposed) := state.env.disposeSession state.router.session
    ({ state with env }, .flag disposed)
  | .refused refusal => (state, .refused refusal)

/-- One step, after which the calls go on until none of them can. -/
def step (state : State) (step : Step) : State × Outcome :=
  let (state, answer) := state.apply step
  let course := Pending.settle state.router.poll RouteCall.weight state.env state.pending
  let (view, news) := state.view.advance course.state.engine
  let changes := course.state.ledger.changes
  ({ state with env := course.state, pending := course.pending, view, changes := changes.length },
    ⟨answer, course.finished, changes.drop state.changes, news⟩)

end State
end EngineSync.Scenario.Router
