import EngineSync.Diagnostics
import EngineSync.Scenario.Refusal

/-!
# Diagnostics and their receiver
-/
namespace EngineSync.Scenario.Diagnostics

/-- The scenario so far; a receiver has read some of the events. -/
structure State where
  collection : DiagnosticsCollection
  receiver : Option Nat
  journal : Journal
deriving Repr, Inhabited

/-- A step. -/
inductive Step where
  | publish (uri : Uri) (version : Option Int) (diagnostics : List Diagnostic)
  | clear (uri : Uri)
  | clearAll
  | get (uri : Uri)
  | closeReceiver
  | outline
deriving DecidableEq, Repr, Inhabited

/-- The answer to a step. -/
inductive Answer where
  | done
  | diagnostics (diagnostics : List Diagnostic)
  | flag (value : Bool)
  | text (text : String)
deriving DecidableEq, Repr, Inhabited

namespace State

/-- An empty collection; one with events has a receiver. -/
def initial (events : Bool) : State :=
  if events then ⟨.withEvents, some 0, []⟩ else ⟨.silent, none, []⟩

/-- What one step does. -/
def apply (state : State) : Step → State × Answer
  | .publish uri version diagnostics =>
    let (collection, journal) := state.collection.publish uri version diagnostics
    ({ state with collection, journal := state.journal ++ journal }, .done)
  | .clear uri => ({ state with collection := state.collection.clear uri }, .done)
  | .clearAll =>
    let (collection, journal) := state.collection.clearAll
    ({ state with collection, journal := state.journal ++ journal }, .done)
  | .get uri => (state, .diagnostics (state.collection.get uri))
  | .closeReceiver => ({ state with receiver := none }, .flag state.receiver.isSome)
  | .outline => (state, .text state.collection.outline)

/-- The events that the receiver has not read. -/
def receive (state : State) : State × List DiagnosticsEvent :=
  match state.receiver with
  | none => (state, [])
  | some seen =>
    ({ state with receiver := some state.collection.emitted.length },
      state.collection.emitted.drop seen)

/-- One step, with the events received during it. -/
def step (state : State) (step : Step) : State × Answer × List DiagnosticsEvent :=
  let (state, answer) := state.apply step
  let (state, events) := state.receive
  (state, answer, events)

end State
end EngineSync.Scenario.Diagnostics
