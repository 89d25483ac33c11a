import EngineSync.Bootstrap
import EngineSync.Router
import EngineSync.Sync

/-!
# Activations

A session together with everything registered for it.  Listeners are subscribed before the open
documents are sent to the engine, and their events wait behind a barrier until that is done; if it
fails, the barrier lets them go without effect.
-/
namespace EngineSync

/-- The barrier in front of the listeners: the open documents are on their way, they have arrived,
or they never will. -/
inductive Barrier where
  | replaying
  | open
  | abandoned
deriving DecidableEq, Repr, Inhabited

/-- An activation. -/
structure Activation where
  session : SessionId
  filter : DocumentFilter
  lanes : Lanes
  gate : GateId
  collection : CollectionId
  barrier : Barrier
  owner : Disposables
deriving DecidableEq, Repr, Inhabited

namespace Activation

/-- The router of an activation. -/
def router (activation : Activation) : Router :=
  ⟨activation.session, activation.gate⟩

/-- The way from documents to the session of an activation. -/
def sync (activation : Activation) (env : Environment) : Sync :=
  ⟨activation.session, activation.filter, activation.lanes, env.engine, env.journal⟩

/-- What is registered before anything is listened to: the session and the diagnostics, the
providers, and the formatting gate in the state that the snapshot asks for. -/
def register (env : Environment) (language : String) (session : SessionId)
    (collection : CollectionId) (formatting : Bool) : Environment × Activation :=
  let (env, sessionHandle) := env.addHandle "session" (.session session)
  let (env, diagnosticsHandle) := env.addHandle "diagnostics" (.diagnostics collection)
  let (env, providers) := env.registerAlwaysOn language
  let (env, gate) := env.makeGate language
  let (env, _) := env.setEnabled gate formatting
  let (env, gateHandle) := env.addGateHandle gate
  (env,
    { session, filter := ⟨language⟩, lanes := .empty, gate, collection, barrier := .replaying
      owner := ⟨sessionHandle :: diagnosticsHandle :: providers ++ [gateHandle]⟩ })

/-- The outline of an activation. -/
def outline (activation : Activation) (env : Environment) : String :=
  Text.outline "Activation"
    [("session", Session.outline env.engine activation.session),
      ("formatting_enabled", Text.flag (env.gate activation.gate).isEnabled),
      ("disposables", Decimal.natural activation.owner.size)] true

end Activation

/-- A listener at work on an event: it waits at the barrier, or it forwards a document, or it routes
a change. -/
inductive ListenerStage where
  | arriving
  | forwarding (forwarding : Forwarding)
  | routing (call : RouteCall)
deriving DecidableEq, Repr, Inhabited

/-- A listener at work on an event. -/
inductive ListenerCall where
  | activation (id : ActivationId) (stage : ListenerStage)
  | outside (call : Nat)
deriving DecidableEq, Repr, Inhabited

/-- How far an activation came: it has not run, the engine has the first profile, or the open
documents are on their way. -/
inductive ActivateStage where
  | arriving
  | configuring (collection : CollectionId) (session : SessionId) (settings : Settings)
      (ticket : TicketId)
  | replaying (id : ActivationId) (settings : Settings) (replay : Replay)
deriving DecidableEq, Repr, Inhabited

/-- An event on its way to the listeners. -/
inductive PublishStage where
  | arriving (event : Event)
  | delivering (delivery : Delivery Listener ListenerCall)
deriving DecidableEq, Repr, Inhabited

/-- A call under way. -/
inductive Call where
  | activate (name : String) (stage : ActivateStage)
  | publish (stage : PublishStage)
  | sync (id : ActivationId) (call : SyncCall)
deriving DecidableEq, Repr, Inhabited

/-- The result of a call. -/
inductive CallResult where
  | active
  | delivered
  | synced (result : SyncResult)
  | failed (failure : Failure)
deriving DecidableEq, Repr, Inhabited

namespace ListenerStage

/-- How many moves a listener has still to make. -/
def weight : ListenerStage → Nat
  | .arriving => 4
  | .forwarding doc => doc.weight
  | .routing change => change.weight

end ListenerStage

namespace ListenerCall

/-- How many moves a listener has still to make. -/
def weight : ListenerCall → Nat
  | .activation _ stage => stage.weight
  | .outside _ => 1

/-- A listener that is called now; calls to listeners outside are numbered. -/
def start (number : Nat) : Listener → ListenerCall
  | .activation id => .activation id .arriving
  | .outside _ => .outside number

end ListenerCall

namespace Call

/-- How many moves a call has still to make, once it has run; `documents` are open at the start of
an activation. -/
def weight (documents : Nat) : Call → Nat
  | .activate _ .arriving => 0
  | .activate _ (.configuring ..) => 3 * documents + 2
  | .activate _ (.replaying _ _ replay) => replay.weight
  | .publish (.arriving _) => 0
  | .publish (.delivering delivery) =>
    ((delivery.current.map (·.weight)).getD 0) + 4 * delivery.waiting.length + 1
  | .sync _ call => call.weight

end Call
end EngineSync
