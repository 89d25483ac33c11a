import EngineSync.Engine

/-!
# What is new at the engine

How many of the engine's records were shown before, so that each step shows what it added.
-/
namespace EngineSync.Scenario

/-- How much was shown. -/
structure EngineView where
  calls : Nat
  completed : Nat
deriving DecidableEq, Repr, Inhabited

/-- What was added since. -/
structure EngineNews where
  calls : List EngineCall
  completed : List String
deriving DecidableEq, Repr, Inhabited

namespace EngineView

/-- Nothing was shown. -/
def start : EngineView :=
  ⟨0, 0⟩

/-- Shows what is new. -/
def advance (view : EngineView) (engine : Engine) : EngineView × EngineNews :=
  (⟨engine.calls.length, engine.completed.length⟩,
    ⟨engine.calls.drop view.calls, engine.completed.drop view.completed⟩)

end EngineView
end EngineSync.Scenario
