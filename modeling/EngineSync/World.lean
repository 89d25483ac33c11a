import EngineSync.Activation

/-!
# Activations at work

The environment, every activation that was made in it, and the names of those that are live.  Each
kind of call has a function that lets it go on as far as it can and one that gives it up.
-/
namespace EngineSync

/-- A world of activations. -/
structure World where
  env : Environment
  language : String
  modulePath : String
  activations : List Activation
  live : List (String × ActivationId)
  outsideCalls : Nat
  outsideAnswers : List (Nat × Except EngineFailure Unit)

namespace World

/-- A world in which nothing happened yet. -/
def initial (env : Environment) (language modulePath : String) : World :=
  ⟨env, language, modulePath, [], [], 0, []⟩

/-- Adds to the journal. -/
def log (world : World) (journal : Journal) : World :=
  { world with env := world.env.log journal }

/-- The activation of a number. -/
def activation (world : World) (id : ActivationId) : Activation :=
  world.activations[id]?.getD default

/-- Replaces an activation. -/
def setActivation (world : World) (id : ActivationId) (activation : Activation) : World :=
  { world with activations := world.activations.set id activation }

/-- The way from documents to the session of an activation. -/
def sync (world : World) (id : ActivationId) : Sync :=
  (world.activation id).sync world.env

/-- Takes over what a way to a session has become. -/
def putSync (world : World) (id : ActivationId) (sync : Sync) : World :=
  let activation := { world.activation id with lanes := sync.lanes }
  { world with env := { world.env with engine := sync.engine, journal := sync.journal } }
    |>.setActivation id activation

/-- Moves the barrier of an activation. -/
def setBarrier (world : World) (id : ActivationId) (barrier : Barrier) : World :=
  world.setActivation id { world.activation id with barrier }

/-! ## The end of an activation -/

/-- Disposes everything that an activation holds; tells how many handles this released. -/
def teardown (world : World) (id : ActivationId) : World × Nat :=
  let activation := world.activation id
  let (env, released) := world.env.disposeAll activation.owner
  ({ world with env }.setActivation id { activation with owner := .empty }, released)

/-- Gives up an activation that was not finished: nothing will pass its barrier, and what it holds
is disposed. -/
def abandon (world : World) (id : ActivationId) : World :=
  ((world.setBarrier id .abandoned).teardown id).1

/-- The live activation of a name. -/
def live? (world : World) (name : String) : Option ActivationId :=
  world.live.lookup name

/-- Drops the live activation of a name, if there is one. -/
def drop (world : World) (name : String) : World :=
  match world.live? name with
  | none => world
  | some id =>
    let (world, _) := world.teardown id
    { world with live := world.live.filter (·.1 ≠ name) }

/-- Ends the live activation of a name in good order. -/
def deactivate (world : World) (name : String) : World :=
  match world.live? name with
  | none => world
  | some id =>
    let (world, released) := world.teardown id
    { world with live := world.live.filter (·.1 ≠ name) }.log [.deactivated released]

/-! ## Activating -/

/-- The open documents have arrived, of which there were so many at the subscription: the barrier
opens, and the activation replaces a live one of its name. -/
def finishActivate (world : World) (name : String) (id : ActivationId) (settings : Settings)
    (total : Nat) : World :=
  let world := world.setBarrier id .open
  let world := world.log [.ready total settings.formatting (world.activation id).owner.size]
  let world := world.drop name
  { world with live := world.live ++ [(name, id)] }

/-- Lets the open documents go on. -/
def pollReplaying (world : World) (name : String) (id : ActivationId) (settings : Settings)
    (replay : Replay) : World × Progress Call CallResult :=
  let (sync, progress) := (world.sync id).pollReplay replay
  let world := world.putSync id sync
  match progress with
  | .pending replay => (world, .pending (.activate name (.replaying id settings replay)))
  | .finished (.ok _) => (world.finishActivate name id settings replay.total, .finished .active)
  | .finished (.error failure) => (world.abandon id, .finished (.failed (.engine failure)))

/-- A session is up: everything is registered, the listeners are subscribed, and the open documents
set out. -/
def startReplay (world : World) (name : String) (collection : CollectionId)
    (session : SessionId) (settings : Settings) : World × Progress Call CallResult :=
  let (env, activation) :=
    Activation.register world.env world.language session collection settings.formatting
  let id := world.activations.length
  let (env, subscriptions) := env.subscribeAll (.activation id) EventKind.all
  let activation := { activation with owner := activation.owner.extend subscriptions }
  let world := { world with env, activations := world.activations ++ [activation] }
  world.pollReplaying name id settings (.start env.openDocuments)

/-- Looks for the engine's answer to the first profile. -/
def pollConfiguring (world : World) (name : String) (collection : CollectionId)
    (session : SessionId) (settings : Settings) (ticket : TicketId) :
    World × Progress Call CallResult :=
  match world.env.collectProfile? settings.profile ticket with
  | none => (world, .pending (.activate name (.configuring collection session settings ticket)))
  | some (env, answer) =>
    match env.concludeBootstrap session answer with
    | (env, .error failure) => ({ world with env }, .finished (.failed (.start failure)))
    | (env, .ok session) => { world with env }.startReplay name collection session settings

/-- The start of an activation. -/
def startActivate (world : World) (name : String) : World × Progress Call CallResult :=
  let (env, collection) := world.env.makeCollection
  let (env, settings) := env.snapshot
  match env.openSession world.modulePath (some collection) with
  | (env, .error failure) => ({ world with env }, .finished (.failed (.start failure)))
  | (env, .ok session) =>
    match env.applyProfile session settings.profile with
    | (env, .error failure) =>
      let (env, _) := env.concludeBootstrap session (.error failure)
      ({ world with env }, .finished (.failed (.start (.configure failure))))
    | (env, .ok ticket) =>
      { world with env }.pollConfiguring name collection session settings ticket

/-- Lets an activation go on as far as it can. -/
def pollActivate (world : World) (name : String) :
    ActivateStage → World × Progress Call CallResult
  | .arriving => world.startActivate name
  | .configuring collection session settings ticket =>
    world.pollConfiguring name collection session settings ticket
  | .replaying id settings replay => world.pollReplaying name id settings replay

/-! ## Publishing -/

/-- What follows from the result of forwarding a document: the diagnostics of one that was closed
are dropped. -/
def concludeForwarding (world : World) (id : ActivationId) (forwarding : Forwarding) :
    ForwardingResult → World × Except EngineFailure Unit
  | .error failure => (world, .error failure)
  | .ok taken =>
    if forwarding.closes && taken then
      let collection := (world.activation id).collection
      ({ world with env := world.env.clearDiagnostics collection forwarding.doc.uri }, .ok ())
    else (world, .ok ())

/-- Lets a listener forward its document. -/
def pollForwarding (world : World) (id : ActivationId) (forwarding : Forwarding) :
    World × Progress ListenerCall (Except EngineFailure Unit) :=
  let (sync, progress) := (world.sync id).poll forwarding
  let world := world.putSync id sync
  match progress with
  | .pending forwarding => (world, .pending (.activation id (.forwarding forwarding)))
  | .finished result =>
    let (world, result) := world.concludeForwarding id forwarding result
    (world, .finished result)

/-- Lets a listener route its change. -/
def pollRouting (world : World) (id : ActivationId) (call : RouteCall) :
    World × Progress ListenerCall (Except EngineFailure Unit) :=
  let (env, progress) := (world.activation id).router.poll world.env call
  ({ world with env },
    progress.map (fun call => .activation id (.routing call)) (·.map fun _ => ()))

/-- A listener past the barrier takes up its event. -/
def handle (world : World) (id : ActivationId) (event : Event) :
    World × Progress ListenerCall (Except EngineFailure Unit) :=
  match event with
  | .opened doc | .changed doc => world.pollForwarding id (.update doc)
  | .closed doc => world.pollForwarding id (.close doc)
  | .configuration change => world.pollRouting id (.arriving change)

/-- Lets a listener go on as far as it can. -/
def pollListener (world : World) (event : Event) :
    ListenerCall → World × Progress ListenerCall (Except EngineFailure Unit)
  | .activation id .arriving =>
    match (world.activation id).barrier with
    | .replaying => (world, .pending (.activation id .arriving))
    | .abandoned => (world, .finished (.ok ()))
    | .open => world.handle id event
  | .activation id (.forwarding forwarding) => world.pollForwarding id forwarding
  | .activation id (.routing call) => world.pollRouting id call
  | .outside call =>
    match world.outsideAnswers.lookup call with
    | none => (world, .pending (.outside call))
    | some answer => (world, .finished answer)

/-- Calls a listener. -/
def startListener (world : World) (listener : Listener) : World × ListenerCall :=
  match listener with
  | .activation _ => (world, ListenerCall.start world.outsideCalls listener)
  | .outside _ =>
    ({ world with outsideCalls := world.outsideCalls + 1 },
      ListenerCall.start world.outsideCalls listener)

/-- Calls the waiting listeners one after another until one has to wait or fails. -/
def deliver (world : World) (event : Event) :
    List (Subscription Listener) → World × Progress Call CallResult
  | [] => (world, .finished .delivered)
  | next :: waiting =>
    let (world, call) := world.startListener next.listener
    match world.pollListener event call with
    | (world, .pending call) =>
      (world, .pending (.publish (.delivering ⟨event, some call, waiting⟩)))
    | (world, .finished (.error failure)) => (world, .finished (.failed (.engine failure)))
    | (world, .finished (.ok ())) => world.deliver event waiting

/-- Lets an event go on as far as it can. -/
def pollPublish (world : World) : PublishStage → World × Progress Call CallResult
  | .arriving event =>
    let waiting := world.env.bus.subscribers event.kind
    (world.log [.publishEvent event.kind.name waiting.length]).deliver event waiting
  | .delivering ⟨event, none, waiting⟩ => world.deliver event waiting
  | .delivering ⟨event, some call, waiting⟩ =>
    match world.pollListener event call with
    | (world, .pending call) =>
      (world, .pending (.publish (.delivering ⟨event, some call, waiting⟩)))
    | (world, .finished (.error failure)) => (world, .finished (.failed (.engine failure)))
    | (world, .finished (.ok ())) => world.deliver event waiting

/-! ## Calls -/

/-- Lets a call go on as far as it can. -/
def poll (world : World) : Call → World × Progress Call CallResult
  | .activate name stage => world.pollActivate name stage
  | .publish stage => world.pollPublish stage
  | .sync id call =>
    let (sync, progress) := (world.sync id).pollCall call
    (world.putSync id sync, progress.map (Call.sync id) CallResult.synced)

/-- Gives up a listener's work. -/
def cancelListener (world : World) : ListenerCall → World
  | .activation id (.forwarding forwarding) =>
    world.putSync id ((world.sync id).cancel forwarding)
  | .activation _ (.routing call) => { world with env := Router.cancel world.env call }
  | .activation _ .arriving | .outside _ => world

/-- Gives up a call.  An activation in the middle of its replay is torn down; one whose first
profile is with the engine leaves its session as it is. -/
def cancel (world : World) : Call → World
  | .activate _ .arriving => world
  | .activate _ (.configuring _ _ _ ticket) =>
    { world with env := { world.env with engine := world.env.engine.cancel ticket } }
  | .activate _ (.replaying id _ replay) =>
    (world.putSync id ((world.sync id).cancelReplay replay)).abandon id
  | .publish (.arriving _) => world
  | .publish (.delivering delivery) =>
    match delivery.current with
    | none => world
    | some call => world.cancelListener call
  | .sync id call => world.putSync id ((world.sync id).cancelCall call)

/-- Lets calls go on until none of them can. -/
def settle (world : World) (pending : List (Pending Call)) : Course World Call CallResult :=
  Pending.settle poll (Call.weight world.env.openDocuments.length) world pending

/-- Routes a change at once for a live activation; a change that would have to wait is given up and
has no result. -/
def routeNow (world : World) (id : ActivationId) (change : ConfigChange) :
    World × Option RouteResult :=
  match (world.activation id).router.poll world.env (.arriving change) with
  | (env, .finished result) => ({ world with env }, some result)
  | (env, .pending call) => ({ world with env := Router.cancel env call }, none)

end World
end EngineSync
