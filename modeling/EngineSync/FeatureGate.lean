import EngineSync.Handle

/-!
# Feature gates

A switch for one optional feature.  It holds either nothing or one complete set of handles.  Where
several callers share a gate, each of them touches it only in the short sections below and
registers and releases handles between them, so a set that comes too late is handed back.
-/
namespace EngineSync

/-- What a request did to a gate. -/
inductive Transition where
  | registered
  | disposed
  | unchanged
deriving DecidableEq, Repr, Inhabited

/-- The name of a transition. -/
def Transition.name : Transition → String
  | .registered => "Registered"
  | .disposed => "Disposed"
  | .unchanged => "Unchanged"

/-- A gate for sets of `width` handles. -/
structure FeatureGate where
  name : String
  width : Nat
  active : Option (List HandleId)
deriving DecidableEq, Repr, Inhabited

namespace FeatureGate

/-- A gate that holds nothing. -/
def disabled (name : String) (width : Nat) : FeatureGate :=
  ⟨name, width, none⟩

/-- Whether a set is held. -/
def isEnabled (gate : FeatureGate) : Bool :=
  gate.active.isSome

/-- How many handles are held. -/
def heldCount (gate : FeatureGate) : Nat :=
  if gate.isEnabled then gate.width else 0

/-- The handles that are held. -/
def held (gate : FeatureGate) : List HandleId :=
  gate.active.getD []

/-- Takes out what is held. -/
def takeActive (gate : FeatureGate) : FeatureGate × Option (List HandleId) :=
  ({ gate with active := none }, gate.active)

/-- Hands in a new set; if another one is held by now, the new set comes back. -/
def offer (gate : FeatureGate) (handles : List HandleId) :
    FeatureGate × Option (List HandleId) :=
  match gate.active with
  | some _ => (gate, some handles)
  | none => ({ gate with active := some handles }, none)

/-- The label of a handle that disables the gate. -/
def teardownLabel (gate : FeatureGate) : String :=
  "feature:" ++ gate.name

/-- The outline of a gate. -/
def outline (gate : FeatureGate) : String :=
  Text.outline "FeatureGate"
    [("name", Text.quoted gate.name), ("held", Decimal.natural gate.heldCount)] true

end FeatureGate
end EngineSync
