import EngineSync.FeatureGate
import EngineSync.Journal

/-!
# Requests for a state of a gate

A request makes a set of handles or disposes the set that is held.  What it calls for that is up to
the feature: its registrar, and the releases of the handles.  They work on everything around the
gate but not on the gate itself.

A gate with one owner is asked in one go.  A shared gate is asked in sections, and a caller has to be
prepared that another one was faster.
-/
namespace EngineSync

/-- What a request calls, over any state around a gate: the registrar, the disposal of a handle, and
the journal. -/
structure GateCalls (σ : Type) where
  register : σ → σ × List HandleId
  dispose : σ → HandleId → σ
  log : σ → Entry → σ

/-- Disposes a set of handles, the last one first. -/
def GateCalls.release {σ : Type} (calls : GateCalls σ) (around : σ) (handles : List HandleId) : σ :=
  handles.reverse.foldl calls.dispose around

/-- A gate and what is around it. -/
structure Gated (σ : Type) where
  gate : FeatureGate
  around : σ
deriving DecidableEq, Repr

namespace Gated
variable {σ : Type} (calls : GateCalls σ) (gated : Gated σ)

/-- A request by the only owner of the gate. -/
def setOwned (enabled : Bool) : Gated σ × Transition :=
  match gated.gate.active, enabled with
  | none, true =>
    let (around, handles) := calls.register gated.around
    let gate := { gated.gate with active := some handles }
    (⟨gate, calls.log around (.gateEnabled gate.name gate.width)⟩, .registered)
  | some handles, false =>
    let gate := { gated.gate with active := none }
    (⟨gate, calls.log (calls.release gated.around handles) (.gateDisabled gate.name)⟩, .disposed)
  | _, _ => (gated, .unchanged)

/-- A request that takes a set out of a shared gate, and disposes it after that. -/
def disableShared : Gated σ × Transition :=
  let (gate, taken) := gated.gate.takeActive
  match taken with
  | none => (⟨gate, gated.around⟩, .unchanged)
  | some handles =>
    (⟨gate, calls.log (calls.release gated.around handles) (.gateDisabled gate.name)⟩, .disposed)

/-- A request that finds a shared gate closed, makes a set and hands it in after that; a set that
comes back is disposed. -/
def enableShared : Gated σ × Transition :=
  if gated.gate.isEnabled then (gated, .unchanged)
  else
    let (around, handles) := calls.register gated.around
    let (gate, surplus) := gated.gate.offer handles
    match surplus with
    | none => (⟨gate, calls.log around (.gateEnabled gate.name gate.width)⟩, .registered)
    | some handles => (⟨gate, calls.release around handles⟩, .unchanged)

/-- A request by one of those who share the gate. -/
def setShared (enabled : Bool) : Gated σ × Transition :=
  if enabled then gated.enableShared calls else gated.disableShared calls

end Gated
end EngineSync
