import EngineSync.Decimal.Integer
import EngineSync.Document
import EngineSync.Failure
import EngineSync.Profile
import EngineSync.Text.Outline

/-!
# The engine

The engine as its callers see it.  Every call is recorded when it arrives.  A call whose key is
gated then waits for a permit of that key; permits go to waiting calls in the order of their arrival
and are kept when nobody waits.  The answer is settled when the call completes.
-/
namespace EngineSync

/-- The number of a session, from zero in the order of creation. -/
abbrev SessionId := Nat

/-- The number of a diagnostics collection. -/
abbrev CollectionId := Nat

/-- What a session is asked to do. -/
inductive Request where
  | update (uri : Uri) (version : Int) (text : String)
  | close (uri : Uri)
  | configure (profile : Profile)
deriving DecidableEq, Repr, Inhabited

namespace Request

/-- The key under which a request can be held back. -/
def key : Request → String
  | .update uri version _ => uri.text ++ "@" ++ Decimal.integer version
  | .close uri => uri.text ++ "@close"
  | .configure profile => "configure@" ++ profile.name

/-- The name of the operation a request asks for. -/
def operation : Request → String
  | .update .. => "updateDocument"
  | .close .. => "closeDocument"
  | .configure .. => "updateConfiguration"

/-- Whether a request is about a document. -/
def isDocument : Request → Bool
  | .configure _ => false
  | _ => true

end Request

/-- A call as the engine records it. -/
inductive EngineCall where
  | load (size : Nat)
  | create (session : SessionId)
  | request (session : SessionId) (request : Request)
  | dispose (session : SessionId)
deriving DecidableEq, Repr, Inhabited

/-- Whether a call is about a document. -/
def EngineCall.isDocument : EngineCall → Bool
  | .request _ asked => asked.isDocument
  | _ => false

/-- What the engine can never do. -/
structure Defects where
  load : Bool
  configuration : Bool
  updates : Bool
deriving DecidableEq, Repr, Inhabited

/-- What the engine refuses for the time being; updates are refused by document. -/
structure Refusals where
  create : Bool
  close : Bool
  configure : Bool
  documents : List String
deriving DecidableEq, Repr, Inhabited

/-- The number of a call under way. -/
abbrev TicketId := Nat

/-- A call under way; a granted one completes as soon as its caller looks. -/
structure Ticket where
  id : TicketId
  session : SessionId
  request : Request
  granted : Bool
deriving DecidableEq, Repr, Inhabited

/-- A session; reports of the engine go to its sink. -/
structure SessionState where
  disposed : Bool
  sink : Option CollectionId
deriving DecidableEq, Repr, Inhabited

/-- The engine. -/
structure Engine where
  calls : List EngineCall
  completed : List String
  defects : Defects
  refusals : Refusals
  gated : List String
  permits : List String
  tickets : List Ticket
  nextTicket : TicketId
  sessions : List SessionState
deriving DecidableEq, Repr, Inhabited

namespace Engine

/-- An engine that was not called yet. -/
def initial (defects : Defects) (refusals : Refusals) (gated : List String) : Engine :=
  ⟨[], [], defects, refusals, gated, [], [], 0, []⟩

/-- Records a call. -/
def record (engine : Engine) (call : EngineCall) : Engine :=
  { engine with calls := engine.calls ++ [call] }

/-- Loads a module of some size. -/
def load (engine : Engine) (size : Nat) : Except EngineFailure Engine :=
  if engine.defects.load then .error (.instantiate "malformed module")
  else .ok (engine.record (.load size))

/-- Creates a session that reports to a sink. -/
def create (engine : Engine) (sink : Option CollectionId) :
    Except EngineFailure (Engine × SessionId) :=
  if engine.refusals.create then .error (.rejected "createSession" "refused")
  else
    let session := engine.sessions.length
    let opened := { engine with sessions := engine.sessions ++ [SessionState.mk false sink] }
    .ok (opened.record (.create session), session)

/-- Whether a session was disposed. -/
def isDisposed (engine : Engine) (session : SessionId) : Bool :=
  (engine.sessions[session]?.map (·.disposed)).getD false

/-- The sink of the newest session. -/
def newestSink (engine : Engine) : Option CollectionId :=
  engine.sessions.getLast?.bind (·.sink)

/-- How many calls about documents were recorded. -/
def documentCalls (engine : Engine) : Nat :=
  engine.calls.countP EngineCall.isDocument

/-- Takes a request: it is recorded, and it waits if its key is gated and no permit is kept. -/
def issue (engine : Engine) (session : SessionId) (request : Request) : Engine × TicketId :=
  let engine := engine.record (.request session request)
  let id := engine.nextTicket
  let add (engine : Engine) (granted : Bool) : Engine :=
    { engine with
      tickets := engine.tickets ++ [⟨id, session, request, granted⟩]
      nextTicket := id + 1 }
  if !engine.gated.contains request.key then (add engine true, id)
  else if engine.permits.contains request.key then
    (add { engine with permits := engine.permits.erase request.key } true, id)
  else (add engine false, id)

/-- The answer to a request: what the engine can never do comes before what it refuses now. -/
def answer (engine : Engine) (request : Request) : Except EngineFailure Unit :=
  let defective := match request with
    | .update .. => engine.defects.updates
    | .close _ => false
    | .configure _ => engine.defects.configuration
  let refused := match request with
    | .update uri _ _ => engine.refusals.documents.contains uri.text
    | .close _ => engine.refusals.close
    | .configure _ => engine.refusals.configure
  if defective then .error (.rejected request.operation "rejected by recording session")
  else if refused then .error (.rejected request.operation "refused")
  else .ok ()

/-- Completes a call under way, unless it still waits. -/
def collect? (engine : Engine) (id : TicketId) : Option (Engine × Except EngineFailure Unit) :=
  match engine.tickets.find? (·.id = id) with
  | some ticket =>
    if ticket.granted then
      some ({ engine with
          tickets := engine.tickets.filter (·.id ≠ id)
          completed := engine.completed ++ [ticket.request.key] },
        engine.answer ticket.request)
    else none
  | none => none

/-- Grants the first waiting call of a key, if there is one. -/
def grantFirst? (key : String) : List Ticket → Option (List Ticket)
  | [] => none
  | ticket :: rest =>
    if ticket.request.key = key && !ticket.granted then
      some ({ ticket with granted := true } :: rest)
    else (grantFirst? key rest).map (ticket :: ·)

/-- Adds a permit for a key: it goes to the first waiting call or is kept. -/
def release (engine : Engine) (key : String) : Engine :=
  match grantFirst? key engine.tickets with
  | some tickets => { engine with tickets }
  | none => { engine with permits := engine.permits ++ [key] }

/-- Gives up a call under way; a permit that it had not used goes on. -/
def cancel (engine : Engine) (id : TicketId) : Engine :=
  match engine.tickets.find? (·.id = id) with
  | none => engine
  | some ticket =>
    let engine := { engine with tickets := engine.tickets.filter (·.id ≠ id) }
    if ticket.granted && engine.gated.contains ticket.request.key then
      engine.release ticket.request.key
    else engine

/-- Marks a session as disposed and records it. -/
def dispose (engine : Engine) (session : SessionId) : Engine :=
  { engine with
    sessions := engine.sessions.modify session ({ · with disposed := true }) }.record
      (.dispose session)

end Engine
end EngineSync
