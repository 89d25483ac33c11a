import EngineSync.FeatureGate.Switchboard
import EngineSync.Scenario.Refusal

/-!
# A gate and its callers
-/
namespace EngineSync.Scenario.Gate

/-- The scenario so far. -/
structure State where
  board : Switchboard
  teardowns : List (String × HandleId)
deriving Repr, Inhabited

/-- A step. -/
inductive Step where
  | set (enabled : Bool)
  | setOwned (enabled : Bool)
  | name
  | outline
  | teardown (id : String)
  | dispose (id : String)
  | isDisposed (id : String)
deriving DecidableEq, Repr, Inhabited

/-- The answer to a step. -/
inductive Answer where
  | transition (transition : Transition)
  | text (text : String)
  | flag (value : Bool)
  | refused (refusal : Refusal)
deriving DecidableEq, Repr, Inhabited

/-- The widest set of handles. -/
def maxWidth : Nat := 3

/-- The width of sets where no other is asked for. -/
def defaultWidth : Nat := 2

namespace State

/-- A disabled gate without teardown handles. -/
def initial (name : String) (width : Nat)
    (script : List (Callback × List CallbackAction)) : State :=
  ⟨.initial name width script, []⟩

/-- Answers about a teardown handle, if the name has one. -/
def withTeardown (state : State) (id : String) (answer : HandleId → State × Answer) :
    State × Answer :=
  match state.teardowns.lookup id with
  | none => (state, .refused (.unusable "id"))
  | some handle => answer handle

/-- What one step does; it adds to the notes. -/
def apply (state : State) : Step → State × Answer
  | .set enabled =>
    let (board, transition) := state.board.setShared enabled
    ({ state with board }, .transition transition)
  | .setOwned enabled =>
    let (board, transition) := state.board.setOwned enabled
    ({ state with board }, .transition transition)
  | .name => (state, .text state.board.gate.name)
  | .outline => (state, .text state.board.gate.outline)
  | .teardown id =>
    let (board, handle) := state.board.makeTeardown
    ({ board, teardowns := (id, handle) :: state.teardowns.filter (·.1 ≠ id) },
      .text (board.handles.label handle))
  | .dispose id =>
    state.withTeardown id fun handle =>
      let (board, ran) := state.board.dispose handle
      ({ state with board }, .flag ran)
  | .isDisposed id =>
    state.withTeardown id fun handle => (state, .flag (state.board.handles.isDisposed handle))

/-- One step, after which the notes are those of this step. -/
def step (state : State) (step : Step) : State × Answer :=
  { state with board := { state.board with notes := [] } }.apply step

end State
end EngineSync.Scenario.Gate
