import EngineSync.Disposal
import EngineSync.Scenario.Refusal
import EngineSync.Text.Order

/-!
# Handles and their owners
-/
namespace EngineSync.Scenario.Disposal

/-- The scenario so far. -/
structure State where
  family : Family
  owners : List (String × Disposables)
deriving Repr, Inhabited

/-- A step. -/
inductive Step where
  | make (id label : String) (disposes looks : List String)
  | makeSilent (id label : String)
  | clone (id source : String)
  | dispose (id : String)
  | isDisposed (id : String)
  | label (id : String)
  | outline (id : String)
  | forget (id : String)
  | makeOwner (owner : String)
  | push (owner id : String)
  | extend (owner : String) (ids : List String)
  | size (owner : String)
  | disposeAll (owner : String)
  | outlineOwner (owner : String)
  | dropOwner (owner : String)
deriving DecidableEq, Repr, Inhabited

/-- The answer to a step. -/
inductive Answer where
  | done
  | flag (value : Bool)
  | count (value : Nat)
  | size (held : Nat) (isEmpty : Bool)
  | text (value : String)
  | refused (refusal : Refusal)
deriving DecidableEq, Repr, Inhabited

namespace State

/-- Nothing made yet. -/
def initial : State :=
  ⟨Family.empty, []⟩

/-- A name without a handle. -/
def noHandle : Refusal := .unusable "handle"

/-- A name without an owner. -/
def noOwner : Refusal := .unusable "agg"

/-- Answers about a handle, if the name has one. -/
def withHandle (state : State) (id : String) (answer : HandleId → State × Answer) :
    State × Answer :=
  match state.family.find? id with
  | none => (state, .refused noHandle)
  | some handle => answer handle

/-- Answers about an owner, if the name has one. -/
def withOwner (state : State) (owner : String) (answer : Disposables → State × Answer) :
    State × Answer :=
  match state.owners.lookup owner with
  | none => (state, .refused noOwner)
  | some disposables => answer disposables

/-- Stores an owner under its name. -/
def setOwner (state : State) (owner : String) (disposables : Disposables) : State :=
  { state with owners := (owner, disposables) :: state.owners.filter (·.1 ≠ owner) }

/-- Takes an owner away; what it holds is disposed. -/
def dropOwner (state : State) (owner : String) : State :=
  match state.owners.lookup owner with
  | none => state
  | some disposables =>
    { state with
      family := (state.family.disposeAll disposables).1
      owners := state.owners.filter (·.1 ≠ owner) }

/-- What one step does; it adds to the notes. -/
def apply (state : State) : Step → State × Answer
  | .make id label disposes looks =>
    let action := ReleaseAction.announced id disposes looks
    ({ state with family := state.family.add id label action }, .done)
  | .makeSilent id label =>
    ({ state with family := state.family.add id label .silent }, .done)
  | .clone id source =>
    state.withHandle source fun handle =>
      ({ state with family := state.family.bind id handle }, .done)
  | .dispose id =>
    state.withHandle id fun handle =>
      let (family, ran) := state.family.dispose handle
      ({ state with family }, .flag ran)
  | .isDisposed id =>
    state.withHandle id fun handle => (state, .flag (state.family.handles.isDisposed handle))
  | .label id =>
    state.withHandle id fun handle => (state, .text (state.family.handles.label handle))
  | .outline id =>
    state.withHandle id fun handle => (state, .text (state.family.handles.outline handle))
  | .forget id =>
    ({ state with family := state.family.forget id }, .flag (state.family.find? id).isSome)
  | .makeOwner owner => ((state.dropOwner owner).setOwner owner .empty, .done)
  | .push owner id =>
    state.withOwner owner fun disposables =>
      state.withHandle id fun handle =>
        let disposables := disposables.push handle
        (state.setOwner owner disposables, .count disposables.size)
  | .extend owner ids =>
    state.withOwner owner fun disposables =>
      match ids.mapM state.family.find? with
      | none => (state, .refused noHandle)
      | some handles =>
        let disposables := disposables.extend handles
        (state.setOwner owner disposables, .count disposables.size)
  | .size owner =>
    state.withOwner owner fun disposables =>
      (state, .size disposables.size (disposables.size = 0))
  | .disposeAll owner =>
    state.withOwner owner fun disposables =>
      let (family, released) := state.family.disposeAll disposables
      ({ state with family }.setOwner owner .empty, .count released)
  | .outlineOwner owner =>
    state.withOwner owner fun disposables =>
      (state, .text (disposables.outline state.family.handles))
  | .dropOwner owner =>
    (state.dropOwner owner, .flag (state.owners.lookup owner).isSome)

/-- One step, after which the notes are those of this step. -/
def step (state : State) (step : Step) : State × Answer :=
  { state with family := { state.family with notes := [] } }.apply step

/-- The end: what is still owned is disposed, owner by owner in the order of their names. -/
def close (state : State) : State :=
  ((state.owners.map (·.1)).mergeSort Text.bytewiseLE).foldl dropOwner state

end State
end EngineSync.Scenario.Disposal
