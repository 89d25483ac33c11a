import EngineSync.Diagnostics
import EngineSync.EventBus
import EngineSync.FeatureGate
import EngineSync.Provider
import EngineSync.Session
import EngineSync.Settings.Source

/-!
# The environment

What activations share: the engine, the editor with its bus and its providers, the settings and
files, and every handle, gate and diagnostics collection that was made.  All of it is passed on from
one activation to the next.
-/
namespace EngineSync

/-- The number of a gate. -/
abbrev GateId := Nat

/-- The number of an activation. -/
abbrev ActivationId := Nat

/-- Who listens on the bus: an activation, or somebody else. -/
inductive Listener where
  | activation (id : ActivationId)
  | outside (id : Nat)
deriving DecidableEq, Repr, Inhabited

/-- What the release of a handle does. -/
inductive Release where
  | session (id : SessionId)
  | diagnostics (id : CollectionId)
  | provider (kind : ProviderKind)
  | subscription (id : SubscriptionId)
  | gate (id : GateId)
deriving DecidableEq, Repr, Inhabited

/-- A formatting gate and the language it registers for. -/
structure FormattingGate where
  gate : FeatureGate
  language : String
deriving DecidableEq, Repr, Inhabited

/-- What activations share. -/
structure Environment where
  engine : Engine
  files : FileTree
  source : SettingsSource
  bus : EventBus Listener
  openDocuments : List Document
  handles : Handles Release
  gates : List FormattingGate
  collections : List DiagnosticsCollection
  ledger : Ledger
  journal : Journal
deriving Repr, Inhabited

namespace Environment

/-- An environment in which nothing happened yet. -/
def initial (engine : Engine) (files : FileTree) (source : SettingsSource)
    (openDocuments : List Document) : Environment :=
  ⟨engine, files, source, .empty, openDocuments, .empty, [], [], .empty, []⟩

/-- Adds to the journal. -/
def log (env : Environment) (journal : Journal) : Environment :=
  { env with journal := env.journal ++ journal }

/-! ## Settings -/

/-- Both options as they are now. -/
def snapshot (env : Environment) : Environment × Settings :=
  let (settings, journal) := env.source.snapshot env.files
  (env.log journal, settings)

/-- The profile as it is now. -/
def profile (env : Environment) : Environment × Profile :=
  let (profile, journal) := env.source.profile env.files
  (env.log journal, profile)

/-- The formatting toggle as it is now. -/
def formatting (env : Environment) : Environment × Bool :=
  let (enabled, journal) := env.source.formatting env.files
  (env.log journal, enabled)

/-! ## Diagnostics -/

/-- Makes a collection with events. -/
def makeCollection (env : Environment) : Environment × CollectionId :=
  ({ env with collections := env.collections ++ [.withEvents] }, env.collections.length)

/-- The collection of a number. -/
def collection (env : Environment) (id : CollectionId) : DiagnosticsCollection :=
  env.collections[id]?.getD .silent

/-- Replaces a collection. -/
def setCollection (env : Environment) (id : CollectionId) (collection : DiagnosticsCollection) :
    Environment :=
  { env with collections := env.collections.set id collection }

/-- Drops the diagnostics of a document. -/
def clearDiagnostics (env : Environment) (id : CollectionId) (uri : Uri) : Environment :=
  env.setCollection id ((env.collection id).clear uri)

/-- Drops all diagnostics of a collection. -/
def clearAllDiagnostics (env : Environment) (id : CollectionId) : Environment :=
  let (collection, journal) := (env.collection id).clearAll
  (env.setCollection id collection).log journal

/-- A report of the engine goes to the sink of the newest session. -/
def publishDiagnostics (env : Environment) (uri : Uri) (version : Option Int)
    (diagnostics : List Diagnostic) : Environment :=
  match env.engine.newestSink with
  | none => env
  | some id =>
    let (collection, journal) := (env.collection id).publish uri version diagnostics
    (env.setCollection id collection).log journal

/-! ## Sessions -/

/-- Disposes a session; tells whether this call did it. -/
def disposeSession (env : Environment) (session : SessionId) : Environment × Bool :=
  let (engine, journal, disposed) := Session.dispose env.engine session
  ({ env with engine }.log journal, disposed)

/-- Hands a profile to the engine. -/
def applyProfile (env : Environment) (session : SessionId) (profile : Profile) :
    Environment × Except EngineFailure TicketId :=
  let (engine, journal, issued) := Session.applyProfile env.engine session profile
  ({ env with engine }.log journal, issued)

/-- Looks for the engine's answer to a profile. -/
def collectProfile? (env : Environment) (profile : Profile) (ticket : TicketId) :
    Option (Environment × Except EngineFailure Unit) :=
  (env.engine.collect? ticket).map fun (engine, answer) =>
    ({ env with engine }.log (Session.appliedEntries profile answer), answer)

/-! ## Handles -/

/-- Makes a handle. -/
def addHandle (env : Environment) (label : String) (release : Release) : Environment × HandleId :=
  let (handles, id) := env.handles.add label release
  ({ env with handles }, id)

/-- Takes the release action of a handle and writes so into the journal. -/
def take? (env : Environment) (id : HandleId) : Option (Environment × Release) :=
  (env.handles.pending? id).map fun (label, release) =>
    ({ env with handles := env.handles.retire id }.log [.disposeHandle label], release)

/-- Runs a release action that disposes no other handle. -/
def releasePlain (env : Environment) : Release → Environment
  | .session id => (env.disposeSession id).1
  | .diagnostics id => env.clearAllDiagnostics id
  | .provider kind => { env with ledger := env.ledger.unregister kind }
  | .subscription id => { env with bus := env.bus.unsubscribe id }
  | .gate _ => env

/-- Disposes a handle whose release disposes no other; tells whether this released it. -/
def disposePlain (env : Environment) (id : HandleId) : Environment × Bool :=
  match env.take? id with
  | none => (env, false)
  | some (env, release) => (env.releasePlain release, true)

/-! ## Providers and gates -/

/-- Registers a provider. -/
def registerProvider (env : Environment) (language : String) (kind : ProviderKind) :
    Environment × HandleId :=
  { env with ledger := env.ledger.register ⟨kind, language⟩ }.addHandle kind.label (.provider kind)

/-- Registers providers in order. -/
def registerProviders (env : Environment) (language : String) :
    List ProviderKind → Environment × List HandleId
  | [] => (env, [])
  | kind :: kinds =>
    let (env, id) := env.registerProvider language kind
    let (env, ids) := env.registerProviders language kinds
    (env, id :: ids)

/-- Registers the providers that need no gate. -/
def registerAlwaysOn (env : Environment) (language : String) : Environment × List HandleId :=
  let (env, ids) := env.registerProviders language ProviderKind.alwaysOn
  (env.log [.providersRegistered language ids.length], ids)

/-- Makes a disabled formatting gate. -/
def makeGate (env : Environment) (language : String) : Environment × GateId :=
  let gate := FeatureGate.disabled "formatting" ProviderKind.formatting.length
  ({ env with gates := env.gates ++ [⟨gate, language⟩] }, env.gates.length)

/-- The formatting gate of a number. -/
def formattingGate (env : Environment) (id : GateId) : FormattingGate :=
  env.gates[id]?.getD default

/-- The gate of a number. -/
def gate (env : Environment) (id : GateId) : FeatureGate :=
  (env.formattingGate id).gate

/-- Replaces a gate. -/
def setGate (env : Environment) (id : GateId) (gate : FeatureGate) : Environment :=
  { env with gates := env.gates.modify id ({ · with gate }) }

/-- Closes a gate: what it holds is taken out and disposed from the last handle to the first. -/
def disableGate (env : Environment) (id : GateId) : Environment × Transition :=
  let (gate, taken) := (env.gate id).takeActive
  match taken with
  | none => (env, .unchanged)
  | some handles =>
    let (env, _) := disposeEach disposePlain (env.setGate id gate) handles.reverse
    (env.log [.gateDisabled gate.name], .disposed)

/-- Opens a gate: the formatting providers are registered and handed in; if they come too late they
are disposed again. -/
def enableGate (env : Environment) (id : GateId) : Environment × Transition :=
  if (env.gate id).isEnabled then (env, .unchanged)
  else
    let language := (env.formattingGate id).language
    let (env, handles) := env.registerProviders language ProviderKind.formatting
    let (gate, surplus) := (env.gate id).offer handles
    match surplus with
    | none =>
      ((env.setGate id gate).log [.gateEnabled gate.name gate.width], .registered)
    | some handles => ((disposeEach disposePlain env handles.reverse).1, .unchanged)

/-- Brings a gate into a state. -/
def setEnabled (env : Environment) (id : GateId) (enabled : Bool) : Environment × Transition :=
  if enabled then env.enableGate id else env.disableGate id

/-- Makes the handle that closes a gate. -/
def addGateHandle (env : Environment) (id : GateId) : Environment × HandleId :=
  env.addHandle (env.gate id).teardownLabel (.gate id)

/-! ## Disposal -/

/-- Runs a release action. -/
def runRelease (env : Environment) : Release → Environment
  | .gate id => (env.disableGate id).1
  | release => env.releasePlain release

/-- Disposes a handle; tells whether this released it. -/
def dispose (env : Environment) (id : HandleId) : Environment × Bool :=
  match env.take? id with
  | none => (env, false)
  | some (env, release) => (env.runRelease release, true)

/-- Disposes what an owner holds, from the last handle to the first; tells how many this
released. -/
def disposeAll (env : Environment) (owner : Disposables) : Environment × Nat :=
  let (env, released) := disposeEach dispose env owner.held.reverse
  (if owner.size = 0 then env else env.log [.teardown owner.size released], released)

/-! ## Subscriptions -/

/-- Subscribes a listener. -/
def subscribe (env : Environment) (kind : EventKind) (listener : Listener) :
    Environment × HandleId :=
  let (bus, id) := env.bus.subscribe kind listener
  { env with bus }.addHandle kind.subscriptionLabel (.subscription id)

/-- Subscribes a listener to kinds in order. -/
def subscribeAll (env : Environment) (listener : Listener) :
    List EventKind → Environment × List HandleId
  | [] => (env, [])
  | kind :: kinds =>
    let (env, id) := env.subscribe kind listener
    let (env, ids) := env.subscribeAll listener kinds
    (env, id :: ids)

end Environment
end EngineSync
