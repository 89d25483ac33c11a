import EngineSync.Scenario.EngineView
import EngineSync.Scenario.Files
import EngineSync.World

/-!
# Activations and their editor
-/
namespace EngineSync.Scenario.Activation

/-- The reader of a collection's events, and how many it has read. -/
structure Receiver where
  collection : CollectionId
  seen : Nat
deriving DecidableEq, Repr, Inhabited

/-- What was known of an activation by its name: the last one to become active, and the reader of
its events, if it was asked for. -/
structure Slot where
  id : ActivationId
  receiver : Option Receiver
deriving DecidableEq, Repr, Inhabited

/-- The scenario so far; some of the provider changes and bindings were shown. -/
structure State where
  world : World
  pending : List (Pending Call)
  slots : List (String × Slot)
  view : EngineView
  changes : Nat
  bindings : Nat

/-- What can be asked of an activation. -/
inductive Query where
  | takeEvents
  | deactivate
  | drop
  | disposeSession
  | diagnosticsOf (uri : Uri)
  | diagnosticsOutline
  | route (change : ConfigChange)
  | sync (id : String) (call : SyncCall)
deriving Repr, Inhabited

/-- A step.  A query may be refused, but only if there is such an activation. -/
inductive Step where
  | activate (id name : String)
  | publish (id : String) (event : Event)
  | release (key : String)
  | refuse (refusals : Refusals)
  | cancel (id : String)
  | file (step : FileStep)
  | setProfile (profile : Profile)
  | setFormatting (enabled : Bool)
  | live
  | diagnostics (uri : Uri) (version : Option Int) (diagnostics : List Diagnostic)
  | events (name : String)
  | query (name : String) (query : Except Refusal Query)
  | refused (refusal : Refusal)
deriving Repr, Inhabited

/-- The answer to a step. -/
inductive Answer where
  | started
  | done
  | flag (value : Bool)
  | text (text : String)
  | providers (kinds : List ProviderKind)
  | events (events : List DiagnosticsEvent)
  | diagnostics (diagnostics : List Diagnostic)
  | routed (result : RouteResult)
  | refused (refusal : Refusal)
deriving Repr, Inhabited

/-- A live activation as it shows itself. -/
structure Status where
  name : String
  formatting : Bool
  handles : Nat
  replayed : Bool
  disposed : Bool
  errors : Nat
  outline : String
deriving DecidableEq, Repr, Inhabited

/-- What a step brought about. -/
structure Outcome where
  answer : Answer
  finished : List (String × CallResult)
  changes : List ProviderChange
  bindings : List ProviderBinding
  news : EngineNews
deriving Repr, Inhabited

namespace State

/-- Nothing activated yet. -/
def initial (world : World) : State :=
  ⟨world, [], [], .start, 0, 0⟩

/-- Replaces the environment. -/
def setEnv (state : State) (env : Environment) : State :=
  { state with world := { state.world with env } }

/-- Replaces the engine. -/
def setEngine (state : State) (engine : Engine) : State :=
  state.setEnv { state.world.env with engine }

/-- Replaces the source of settings. -/
def setSource (state : State) (source : SettingsSource) : State :=
  state.setEnv { state.world.env with source }

/-- Keeps what is known of a name. -/
def setSlot (state : State) (name : String) (slot : Slot) : State :=
  { state with slots := (name, slot) :: state.slots.filter (·.1 ≠ name) }

/-- Starts a call. -/
def start (state : State) (id : String) (call : Call) : State × Answer :=
  ({ state with pending := state.pending ++ [⟨id, call⟩] }, .started)

/-- A name that was never activated. -/
def noActivation : Refusal := .unusable "no activation"

/-- A name whose activation has ended. -/
def notActive : Refusal := .unusable "not active"

/-- The events of a name that were not read yet.  They can be read after the end of the activation,
if they were asked for before. -/
def readEvents (state : State) (name : String) : State × Answer :=
  match state.slots.lookup name with
  | none => (state, .refused noActivation)
  | some slot =>
    match slot.receiver with
    | none =>
      (state, .refused (if (state.world.live? name).isSome then .unusable "do" else notActive))
    | some receiver =>
      let emitted := (state.world.env.collection receiver.collection).emitted
      (state.setSlot name { slot with receiver := some { receiver with seen := emitted.length } },
        .events (emitted.drop receiver.seen))

/-- Answers what is asked of a live activation. -/
def query (state : State) (name : String) (slot : Slot) : Query → State × Answer
  | .takeEvents =>
    match slot.receiver with
    | some _ => (state, .flag false)
    | none =>
      let collection := (state.world.activation slot.id).collection
      (state.setSlot name { slot with receiver := some ⟨collection, 0⟩ }, .flag true)
  | .deactivate => ({ state with world := state.world.deactivate name }, .done)
  | .drop => ({ state with world := state.world.drop name }, .done)
  | .disposeSession =>
    let (env, disposed) :=
      state.world.env.disposeSession (state.world.activation slot.id).session
    (state.setEnv env, .flag disposed)
  | .diagnosticsOf uri =>
    (state, .diagnostics
      ((state.world.env.collection (state.world.activation slot.id).collection).get uri))
  | .diagnosticsOutline =>
    (state, .text
      (state.world.env.collection (state.world.activation slot.id).collection).outline)
  | .route change =>
    match state.world.routeNow slot.id change with
    | (world, some result) => ({ state with world }, .routed result)
    | (world, none) => ({ state with world }, .refused (.unusable "pending"))
  | .sync id call => state.start id (.sync slot.id call)

/-- What one step does at once. -/
def apply (state : State) : Step → State × Answer
  | .activate id name => state.start id (.activate name .arriving)
  | .publish id event => state.start id (.publish (.arriving event))
  | .release key => (state.setEngine (state.world.env.engine.release key), .done)
  | .refuse refusals => (state.setEngine { state.world.env.engine with refusals }, .done)
  | .cancel id =>
    let (world, pending) := Pending.cancel World.cancel state.world id state.pending
    ({ state with world, pending }, .flag (state.pending.any (·.id = id)))
  | .file step =>
    let (files, result) := step.run state.world.env.files
    (state.setEnv { state.world.env with files },
      match result with
      | .ok () => .done
      | .error refusal => .refused refusal)
  | .setProfile profile => (state.setSource (state.world.env.source.setProfile profile), .done)
  | .setFormatting enabled =>
    (state.setSource (state.world.env.source.setFormatting enabled), .done)
  | .live => (state, .providers state.world.env.ledger.live)
  | .diagnostics uri version diagnostics =>
    (state.setEnv (state.world.env.publishDiagnostics uri version diagnostics), .done)
  | .events name => state.readEvents name
  | .query name query =>
    match state.slots.lookup name with
    | none => (state, .refused noActivation)
    | some slot =>
      if (state.world.live? name).isNone then (state, .refused notActive)
      else
        match query with
        | .error refusal => (state, .refused refusal)
        | .ok query => state.query name slot query
  | .refused refusal => (state, .refused refusal)

/-- Takes over the activations that became active: each starts without a reader. -/
def renewSlots (state : State) : State :=
  state.world.live.foldl
    (fun state (name, id) =>
      if (state.slots.lookup name).map (·.id) = some id then state
      else state.setSlot name ⟨id, none⟩)
    state

/-- One step, after which the calls go on until none of them can. -/
def step (state : State) (step : Step) : State × Outcome :=
  let (state, answer) := state.apply step
  let course := state.world.settle state.pending
  let state := { state with world := course.state, pending := course.pending }.renewSlots
  let env := state.world.env
  let (view, news) := state.view.advance env.engine
  ({ state with
      view, changes := env.ledger.changes.length, bindings := env.ledger.bindings.length },
    ⟨answer, course.finished, env.ledger.changes.drop state.changes,
      env.ledger.bindings.drop state.bindings, news⟩)

/-- How a live activation shows itself. -/
def status (state : State) (name : String) (id : ActivationId) : Status :=
  let env := state.world.env
  let activation := state.world.activation id
  { name
    formatting := (env.gate activation.gate).isEnabled
    handles := activation.owner.size
    replayed := activation.barrier = .open
    disposed := env.engine.isDisposed activation.session
    errors := (env.collection activation.collection).errorCount
    outline := activation.outline env }

/-- Every live activation. -/
def active (state : State) : List Status :=
  state.world.live.map fun (name, id) => state.status name id

/-- How many listeners each kind of event has. -/
def listeners (state : State) : List Nat :=
  EventKind.all.map state.world.env.bus.count

/-- The end: calls under way are given up, and what is live is dropped in the order of names. -/
def close (state : State) : State :=
  let world := state.pending.foldl (fun world next => world.cancel next.call) state.world
  let names := (world.live.map (·.1)).mergeSort Text.bytewiseLE
  { state with world := names.foldl World.drop world, pending := [] }

end State
end EngineSync.Scenario.Activation
