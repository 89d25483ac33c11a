import EngineSync.Environment
import EngineSync.Scenario.Refusal

/-!
# Providers and the formatting gate
-/
namespace EngineSync.Scenario.Providers

/-- The scenario so far: the handles of every registration, the gate, and how many changes were
shown. -/
structure State where
  env : Environment
  handles : List HandleId
  gate : GateId
  changes : Nat
deriving Repr, Inhabited

/-- A step. -/
inductive Step where
  | dispose (index : Option Nat)
  | gate (enabled : Bool)
  | again (language : String)
  | refused (refusal : Refusal)
deriving DecidableEq, Repr, Inhabited

/-- The answer to a step. -/
inductive Answer where
  | disposed (ran : Option Bool)
  | transition (transition : Transition)
  | count (handles : Nat)
  | refused (refusal : Refusal)
deriving DecidableEq, Repr, Inhabited

namespace State

/-- The first registration and a disabled gate. -/
def initial (env : Environment) (language : String) : State :=
  let (env, handles) := env.registerAlwaysOn language
  let (env, gate) := env.makeGate language
  ⟨env, handles, gate, 0⟩

/-- The labels of the handles. -/
def labels (state : State) : List String :=
  state.handles.map state.env.handles.label

/-- What one step does. -/
def apply (state : State) : Step → State × Answer
  | .dispose index =>
    match index.bind (state.handles[·]?) with
    | none => (state, .disposed none)
    | some id =>
      let (env, ran) := state.env.dispose id
      ({ state with env }, .disposed (some ran))
  | .gate enabled =>
    let (env, transition) := state.env.setEnabled state.gate enabled
    ({ state with env }, .transition transition)
  | .again language =>
    let (env, handles) := state.env.registerAlwaysOn language
    let handles := state.handles ++ handles
    ({ state with env, handles }, .count handles.length)
  | .refused refusal => (state, .refused refusal)

/-- One step, with the provider changes that were not shown before. -/
def step (state : State) (step : Step) : State × Answer × List ProviderChange :=
  let (after, answer) := state.apply step
  let changes := after.env.ledger.changes
  ({ after with changes := changes.length }, answer, changes.drop state.changes)

end State
end EngineSync.Scenario.Providers
