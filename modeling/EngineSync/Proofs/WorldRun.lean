import EngineSync.Proofs.Run
import EngineSync.Proofs.WorldSteps

/-!
# Runs of a world

Any number of calls work on one world: names are activated, events are published, and documents go
straight to the session of a live activation.  Meanwhile the engine answers what it likes when it
likes, files and settings change, somebody else listens on the bus, and live activations come to
their end.  `World.Tells` says what has to be shown of a property so that it holds along every run:
one step of a call is enough, because every chance is a row of steps.
-/
namespace EngineSync

/-- What can be asked for. -/
inductive WorldRequest where
  | activate (name : String)
  | publish (event : Event)
  | sync (id : ActivationId) (request : SyncRequest)

/-- What the surroundings do: a permit is added, one call is answered out of turn, the engine
changes its mind about what it refuses, files, settings or the open documents change, diagnostics
are reported, somebody else subscribes, leaves or answers, or something is done to the live
activation of a name. -/
inductive WorldMove where
  | release (key : String)
  | grant (ticket : TicketId)
  | refuse (refusals : Refusals)
  | files (files : FileTree)
  | source (source : SettingsSource)
  | documents (docs : List Document)
  | report (uri : Uri) (version : Option Int) (diagnostics : List Diagnostic)
  | listen (kind : EventKind) (number : Nat)
  | unlisten (number : SubscriptionId)
  | answer (call : Nat) (result : Except EngineFailure Unit)
  | deactivate (name : String)
  | drop (name : String)
  | disposeSession (name : String)
  | route (name : String) (change : ConfigChange)

namespace World

/-- Whether an activation is live under some name. -/
def isLive (world : World) (id : ActivationId) : Bool :=
  world.live.any (·.2 = id)

/-- The call that a request becomes; documents go straight to live activations only. -/
def accept (world : World) : WorldRequest → Option Call
  | .activate name => some (.activate name .arriving)
  | .publish event => some (.publish (.arriving event))
  | .sync id request => if world.isLive id then some (.sync id request.call) else none

/-- Whether somebody else has a subscription. -/
def isOutside (world : World) (number : SubscriptionId) : Bool :=
  world.env.bus.subscriptions.all fun sub =>
    match sub.listener with
    | .activation _ => sub.id ≠ number
    | .outside _ => true

/-- What the surroundings do to a world. -/
def surround (world : World) : WorldMove → World
  | .release key => { world with env.engine := world.env.engine.release key }
  | .grant ticket => { world with env.engine := world.env.engine.grant ticket }
  | .refuse refusals => { world with env.engine.refusals := refusals }
  | .files files => { world with env.files := files }
  | .source source => { world with env.source := source }
  | .documents docs => { world with env.openDocuments := docs }
  | .report uri version diagnostics =>
    { world with env := world.env.publishDiagnostics uri version diagnostics }
  | .listen kind number => { world with env := (world.env.subscribe kind (.outside number)).1 }
  | .unlisten number =>
    if world.isOutside number then { world with env.bus := world.env.bus.unsubscribe number }
    else world
  | .answer call result => { world with outsideAnswers := world.outsideAnswers ++ [(call, result)] }
  | .deactivate name => world.deactivate name
  | .drop name => world.drop name
  | .disposeSession name =>
    match world.live? name with
    | none => world
    | some id => { world with env := (world.env.disposeSession (world.activation id).session).1 }
  | .route name change =>
    match world.live? name with
    | none => world
    | some id => (world.routeNow id change).1

/-- Calls of a world. -/
def machine : Machine World Call CallResult WorldRequest WorldMove where
  poll := poll
  drop := cancel
  accept := accept
  move := surround

end World

/-- What a world starts with. -/
structure Outset where
  defects : Defects
  refusals : Refusals
  gated : List String
  files : FileTree
  source : SettingsSource
  documents : List Document
  language : String
  modulePath : String

/-- The world in which nothing happened yet, and no call is under way. -/
def Outset.work (outset : Outset) : Work World Call CallResult :=
  .idle (.initial (.initial (.initial outset.defects outset.refusals outset.gated) outset.files
    outset.source outset.documents) outset.language outset.modulePath)

/-- A world that was reached from the start, with the calls under way. -/
def Outset.reach (outset : Outset) (actions : List (Action WorldRequest WorldMove)) :
    Work World Call CallResult :=
  World.machine.run outset.work actions

/-- What was noted until then, and of which call. -/
def Outset.notes (outset : Outset) (actions : List (Action WorldRequest WorldMove)) :
    List (Nat × WorldNote) :=
  World.machine.chronicle World.notes outset.work actions

namespace World

/-- A property of a world, of the calls under way and of the notes so far, that requests, steps and
moves keep. -/
structure Tells (Inv : World → List Call → List WorldNote → Prop) : Prop where
  tidy : ∀ {world calls history}, Inv world calls history → world.env.Tidy
  perm : ∀ {world calls calls' history}, calls.Perm calls' → Inv world calls history →
    Inv world calls' history
  accept : ∀ {world calls history request call}, Inv world calls history →
    world.accept request = some call → Inv world (call :: calls) history
  hop : ∀ {world call calls history notes after progress}, Inv world (call :: calls) history →
    Hop world call notes after progress → Inv after (progress.rest ++ calls) (history ++ notes)
  cancel : ∀ {world call calls history}, Inv world (call :: calls) history →
    Inv (world.cancel call) calls history
  surround : ∀ {world calls history} (move : WorldMove), Inv world calls history →
    Inv (world.surround move) calls history

variable {Inv : World → List Call → List WorldNote → Prop}

theorem Tells.poll (tells : Tells Inv) {world : World} {call : Call} {calls : List Call}
    {history : List WorldNote} (h : Inv world (call :: calls) history) :
    Inv (world.poll call).1 ((world.poll call).2.rest ++ calls) (history ++ world.notes call) :=
  (poll_hops (tells.tidy h) call).keeps (fun world rest history => Inv world (rest ++ calls) history)
    (fun h hop => tells.hop h hop) h

theorem Tells.machine (tells : Tells Inv) : World.machine.Tells World.notes Inv where
  perm := tells.perm
  accept := tells.accept
  poll := tells.poll
  drop := tells.cancel
  move := tells.surround

/-- A property that pays no heed to the notes is kept by every action. -/
theorem Tells.keeps {Inv : World → List Call → Prop} (tells : Tells fun world calls _ =>
    Inv world calls) : World.machine.Keeps Inv where
  perm hp h := @tells.perm _ _ _ [] hp h
  accept h accepted := @tells.accept _ _ [] _ _ h accepted
  poll h := @Tells.poll _ tells _ _ _ [] h
  drop h := @tells.cancel _ _ _ [] h
  move way h := @tells.surround _ _ [] way h

/-- What requests, steps and moves keep holds in every world that can be reached. -/
theorem Tells.reach (tells : Tells Inv) (outset : Outset) (h : Inv outset.work.state [] [])
    (actions : List (Action WorldRequest WorldMove)) :
    Inv (outset.reach actions).state (outset.reach actions).calls
      ((outset.notes actions).map (·.2)) :=
  @Machine.Tells.run _ _ _ _ _ _ _ _ _ tells.machine outset.work [] h actions

end World
end EngineSync
