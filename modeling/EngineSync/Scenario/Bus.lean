import EngineSync.EventBus.Hub
import EngineSync.Journal
import EngineSync.Json.Value
import EngineSync.Scenario.Refusal

/-!
# A bus and its listeners

Each listener acts out a list of actions when it is called; among them it may end subscriptions,
add new ones and publish events itself.
-/
namespace EngineSync.Scenario.Bus

/-- What a listener does.  A `refused` action is one that cannot be carried out. -/
inductive Action where
  | fail
  | dispose (id : String)
  | subscribe (id : String) (kind : EventKind) (actions : List Action)
  | publish (event : Event)
  | refused (name : String) (refusal : Refusal)
deriving Repr, Inhabited

/-- A listener. -/
structure Listener where
  id : String
  actions : List Action
deriving Repr, Inhabited

/-- The answer to a step or to an action. -/
inductive Answer where
  | done
  | flag (value : Bool)
  | text (text : String)
  | failed (failure : Failure)
  | refused (refusal : Refusal)
deriving DecidableEq, Repr, Inhabited

namespace Answer

/-- An answer as a value. -/
def toJson : Answer → Json
  | .done => .string "ok"
  | .flag value => .bool value
  | .text words => .string words
  | .failed failure => error failure.kind failure.message
  | .refused refusal => error refusal.kind refusal.message
where
  /-- A failure as a value. -/
  error (kind message : String) : Json :=
    .object [("error", .string kind), ("message", .string message)]

end Answer

/-- What listeners report. -/
inductive Note where
  | received (id : String) (event : Event)
  | did (id action : String) (answer : Answer)
deriving DecidableEq, Repr, Inhabited

namespace Note

/-- What an event was about. -/
def eventText : Event → String
  | .opened doc | .changed doc | .closed doc =>
    doc.uri.text ++ " v" ++ Decimal.integer doc.version ++ " " ++ Text.quoted doc.text
  | .configuration change => ",".intercalate change.keys

/-- The wording of a note. -/
def text : Note → String
  | .received id event => id ++ " <- " ++ event.kind.name ++ " " ++ eventText event
  | .did id action answer => id ++ " did " ++ action ++ ": " ++ answer.toJson.text

end Note

/-- The scenario so far.  The bus may be gone; handles outlive it. -/
structure State where
  hub : Hub Listener Failure
  isOpen : Bool
  names : List (String × HandleId)
  notes : List Note
  journal : Journal
deriving Repr, Inhabited

/-- A step.  An event may be refused, but only while there is a bus. -/
inductive Step where
  | subscribe (id : String) (kind : EventKind) (actions : List Action)
  | dispose (id : String)
  | publish (event : Except Refusal Event)
  | outline
  | dropBus
deriving Repr, Inhabited

/-- A publication, and what the listener it has called is still to do. -/
structure Frame where
  publication : Publication Listener
  acting : List Action
deriving Repr, Inhabited

namespace State

/-- A bus without listeners. -/
def initial : State :=
  ⟨.empty, true, [], [], []⟩

/-- Adds a note. -/
def report (state : State) (note : Note) : State :=
  { state with notes := state.notes ++ [note] }

/-- Adds an entry to the journal. -/
def log (state : State) (entry : Entry) : State :=
  { state with journal := state.journal ++ [entry] }

/-- What is refused once the bus is gone. -/
def noBus : Refusal := .unusable "no bus"

/-- Subscribes a listener and names the handle. -/
def subscribe (state : State) (id : String) (kind : EventKind) (actions : List Action) :
    State × Answer :=
  if state.isOpen then
    let (hub, handle) := state.hub.subscribe kind ⟨id, actions⟩
    ({ state with hub, names := (id, handle) :: state.names.filter (·.1 ≠ id) },
      .text kind.subscriptionLabel)
  else (state, .refused noBus)

/-- Disposes the handle that goes by a name. -/
def dispose (state : State) (id : String) : State × Answer :=
  match state.names.lookup id with
  | none => (state, .refused (.unusable "handle"))
  | some handle =>
    match state.hub.dispose handle with
    | (_, none) => (state, .flag false)
    | (hub, some label) => ({ state with hub }.log (.disposeHandle label), .flag true)

/-- A listener comes back from its call. -/
def answer (state : State) (calling : Calling Listener) (result : Except Failure Unit) : State :=
  { state with hub := state.hub.answer calling.number result }

/-- The failure of a listener. -/
def listenerFailure (id : String) : Failure :=
  .engine (.rejected "listener" id)

/-- What a publication comes to. -/
def outcome : Except Failure Unit → Answer
  | .ok () => .done
  | .error failure => .failed failure

/-- Goes on with the innermost publication; `outer` are those whose listeners wait for it.  Listeners
that publish can keep each other busy for ever, so the number of moves is bounded. -/
def proceed (state : State) (frame : Frame) (outer : List Frame) : Nat → State × Answer
  | 0 => (state, .done)
  | moves + 1 =>
    match state.hub.poll frame.publication with
    | (hub, .finished result) =>
      let state := { state with hub }
      match outer with
      | [] => (state, outcome result)
      | frame :: outer =>
        -- the listener that published is told the outcome
        match frame.publication.calling? with
        | none => proceed state frame outer moves
        | some calling =>
          let note := .did calling.subscription.listener.id "publish" (outcome result)
          proceed (state.report note) frame outer moves
    | (hub, .pending publication) =>
      let state := { state with hub }
      match frame.publication, publication.calling? with
      | .arriving event, _ =>
        let listeners := state.hub.bus.count event.kind
        proceed (state.log (.publishEvent event.kind.name listeners)) ⟨publication, []⟩ outer moves
      | .delivering _, none => proceed state ⟨publication, []⟩ outer moves
      | .delivering ⟨event, none, _⟩, some calling =>
        let listener := calling.subscription.listener
        proceed (state.report (.received listener.id event)) ⟨publication, listener.actions⟩ outer
          moves
      | .delivering _, some calling =>
        let id := calling.subscription.listener.id
        match frame.acting with
        | [] => proceed (state.answer calling (.ok ())) frame outer moves
        | .fail :: _ =>
          proceed (state.answer calling (.error (listenerFailure id))) frame outer moves
        | .dispose other :: rest =>
          let (state, answer) := state.dispose other
          proceed (state.report (.did id "dispose" answer)) ⟨publication, rest⟩ outer moves
        | .subscribe other kind actions :: rest =>
          let (state, answer) := state.subscribe other kind actions
          proceed (state.report (.did id "subscribe" answer)) ⟨publication, rest⟩ outer moves
        | .refused name refusal :: rest =>
          proceed (state.report (.did id name (.refused refusal))) ⟨publication, rest⟩ outer moves
        | .publish event :: rest =>
          if state.isOpen then
            proceed state ⟨.arriving event, []⟩ (⟨publication, rest⟩ :: outer) moves
          else
            proceed (state.report (.did id "publish" (.refused noBus))) ⟨publication, rest⟩ outer
              moves

/-- The most moves one event is given. -/
def maxMoves : Nat := 1000000

/-- Publishes an event from outside. -/
def publish (state : State) (event : Except Refusal Event) : State × Answer :=
  if state.isOpen then
    match event with
    | .error refusal => (state, .refused refusal)
    | .ok event => proceed state ⟨.arriving event, []⟩ [] maxMoves
  else (state, .refused noBus)

/-- What one step does; it adds to the notes. -/
def apply (state : State) : Step → State × Answer
  | .subscribe id kind actions => state.subscribe id kind actions
  | .dispose id => state.dispose id
  | .publish event => state.publish event
  | .outline =>
    if state.isOpen then (state, .text state.hub.bus.outline) else (state, .refused noBus)
  | .dropBus => ({ state with isOpen := false }, .flag state.isOpen)

/-- One step, after which the notes are those of this step. -/
def step (state : State) (step : Step) : State × Answer :=
  { state with notes := [] }.apply step

/-- How many listeners each kind has, while there is a bus. -/
def counts (state : State) : Option (List Nat) :=
  if state.isOpen then some (EventKind.all.map state.hub.bus.count) else none

end State
end EngineSync.Scenario.Bus
