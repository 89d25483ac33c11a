import EngineSync.Lanes
import EngineSync.Pending
import EngineSync.Session

/-!
# Document synchronization

Events of documents become calls of the engine: opening and changing send the whole text, closing
tells the engine to forget the document.  Every call holds the lane of its document until the engine
has answered, so the calls of one document follow each other in the order in which they reached the
lane, and those of different documents never wait for each other.  A document that is not tracked
touches nothing.
-/
namespace EngineSync

/-- The way from documents to a session. -/
structure Sync where
  session : SessionId
  filter : DocumentFilter
  lanes : Lanes
  engine : Engine
  journal : Journal
deriving DecidableEq, Repr, Inhabited

/-- How far a forwarding came: it has not run, it stands in a lane, or the engine has its call. -/
inductive ForwardingStage where
  | arriving
  | queued (lane : LaneId) (turn : TurnId)
  | calling (lane : LaneId) (turn : TurnId) (ticket : TicketId)
deriving DecidableEq, Repr, Inhabited

/-- A document on its way to the engine. -/
structure Forwarding where
  doc : Document
  closes : Bool
  stage : ForwardingStage
deriving DecidableEq, Repr, Inhabited

namespace Forwarding

/-- The text of a document, not sent yet. -/
def update (doc : Document) : Forwarding :=
  ⟨doc, false, .arriving⟩

/-- The end of a document, not told yet. -/
def close (doc : Document) : Forwarding :=
  ⟨doc, true, .arriving⟩

/-- What the engine is asked to do. -/
def request (forwarding : Forwarding) : Request :=
  if forwarding.closes then .close forwarding.doc.uri
  else .update forwarding.doc.uri forwarding.doc.version forwarding.doc.text

/-- How many moves a forwarding has still to make. -/
def weight (forwarding : Forwarding) : Nat :=
  match forwarding.stage with
  | .arriving => 3
  | .queued .. => 2
  | .calling .. => 1

/-- What a forwarding leaves in the journal once it holds its lane. -/
def entry (forwarding : Forwarding) : Entry :=
  if forwarding.closes then .laneClose forwarding.doc.uri
  else .laneUpdate forwarding.doc.uri forwarding.doc.version

end Forwarding

/-- The result of a forwarding: whether the engine took it. -/
abbrev ForwardingResult := Except EngineFailure Bool

namespace Sync

/-- Adds to the journal. -/
def log (sync : Sync) (journal : Journal) : Sync :=
  { sync with journal := sync.journal ++ journal }

/-- The end of a forwarding: its lane is free, and is retired after a close. -/
def depart (sync : Sync) (forwarding : Forwarding) (lane : LaneId) (turn : TurnId) : Sync :=
  let lanes := sync.lanes.leave lane turn
  let lanes := if forwarding.closes then lanes.retire forwarding.doc.uri lane else lanes
  { sync with lanes := lanes.unreference lane }

/-- Looks for the engine's answer. -/
def pollCalling (sync : Sync) (forwarding : Forwarding) (lane : LaneId) (turn : TurnId)
    (ticket : TicketId) : Sync × Progress Forwarding ForwardingResult :=
  match sync.engine.collect? ticket with
  | none => (sync, .pending { forwarding with stage := .calling lane turn ticket })
  | some (engine, answer) =>
    ({ sync with engine }.depart forwarding lane turn, .finished (answer.map fun _ => true))

/-- Looks whether the lane is held and then calls the engine. -/
def pollQueued (sync : Sync) (forwarding : Forwarding) (lane : LaneId) (turn : TurnId) :
    Sync × Progress Forwarding ForwardingResult :=
  if sync.lanes.holds lane turn then
    let sync := sync.log [forwarding.entry]
    let (engine, journal, issued) := Session.request sync.engine sync.session forwarding.request
    let sync := { sync with engine }.log journal
    match issued with
    | .error failure => (sync.depart forwarding lane turn, .finished (.error failure))
    | .ok ticket => sync.pollCalling forwarding lane turn ticket
  else (sync, .pending { forwarding with stage := .queued lane turn })

/-- Lets a document into its lane if it is tracked. -/
def pollArriving (sync : Sync) (forwarding : Forwarding) :
    Sync × Progress Forwarding ForwardingResult :=
  let doc := forwarding.doc
  if sync.filter.tracks doc then
    let (lanes, lane, turn) := sync.lanes.enter doc.uri
    { sync with lanes }.pollQueued forwarding lane turn
  else
    (if forwarding.closes then sync else sync.log [.skipped doc.uri doc.language],
      .finished (.ok false))

/-- Lets a forwarding go on as far as it can. -/
def poll (sync : Sync) (forwarding : Forwarding) : Sync × Progress Forwarding ForwardingResult :=
  match forwarding.stage with
  | .arriving => sync.pollArriving forwarding
  | .queued lane turn => sync.pollQueued forwarding lane turn
  | .calling lane turn ticket => sync.pollCalling forwarding lane turn ticket

/-- Gives up a forwarding: its call and its place in the lane vanish. -/
def cancel (sync : Sync) (forwarding : Forwarding) : Sync :=
  match forwarding.stage with
  | .arriving => sync
  | .queued lane turn => { sync with lanes := (sync.lanes.leave lane turn).unreference lane }
  | .calling lane turn ticket =>
    { sync with
      engine := sync.engine.cancel ticket
      lanes := (sync.lanes.leave lane turn).unreference lane }

/-- The outline of a way to a session. -/
def outline (sync : Sync) : String :=
  Text.outline "DocumentSync"
    [("language_id", Text.quoted sync.filter.language),
      ("lanes", Decimal.natural sync.lanes.size)] true

end Sync

/-- Documents that were open at the start, on their way to the engine one after another: the one
that is on its way, those behind it, how many the engine has taken, and how many there were. -/
structure Replay where
  current : Option Forwarding
  waiting : List Document
  forwarded : Nat
  total : Nat
deriving DecidableEq, Repr, Inhabited

namespace Replay

/-- Documents none of which was sent yet. -/
def start (docs : List Document) : Replay :=
  ⟨none, docs, 0, docs.length⟩

/-- How many moves a replay has still to make. -/
def weight (replay : Replay) : Nat :=
  ((replay.current.map (·.weight)).getD 0) + 3 * replay.waiting.length + 1

/-- What one more result adds to the count. -/
def countOne (forwarded : Nat) (taken : Bool) : Nat :=
  if taken then forwarded + 1 else forwarded

end Replay

namespace Sync

/-- Sends documents one after another until one has to wait or fails. -/
def pollReplayFrom (sync : Sync) (total forwarded : Nat) :
    List Document → Sync × Progress Replay (Except EngineFailure Nat)
  | [] => (sync.log [.replayed forwarded], .finished (.ok forwarded))
  | doc :: rest =>
    match sync.poll (.update doc) with
    | (sync, .pending forwarding) => (sync, .pending ⟨some forwarding, rest, forwarded, total⟩)
    | (sync, .finished (.error failure)) => (sync, .finished (.error failure))
    | (sync, .finished (.ok taken)) =>
      sync.pollReplayFrom total (Replay.countOne forwarded taken) rest

/-- Lets a replay go on as far as it can. -/
def pollReplay (sync : Sync) (replay : Replay) :
    Sync × Progress Replay (Except EngineFailure Nat) :=
  match replay.current with
  | none => sync.pollReplayFrom replay.total replay.forwarded replay.waiting
  | some forwarding =>
    match sync.poll forwarding with
    | (sync, .pending forwarding) => (sync, .pending { replay with current := some forwarding })
    | (sync, .finished (.error failure)) => (sync, .finished (.error failure))
    | (sync, .finished (.ok taken)) =>
      sync.pollReplayFrom replay.total (Replay.countOne replay.forwarded taken) replay.waiting

/-- Gives up a replay. -/
def cancelReplay (sync : Sync) (replay : Replay) : Sync :=
  match replay.current with
  | none => sync
  | some forwarding => sync.cancel forwarding

end Sync

/-- A call on the way to a session. -/
inductive SyncCall where
  | forward (forwarding : Forwarding)
  | replay (replay : Replay)
deriving DecidableEq, Repr, Inhabited

/-- How many moves a call has still to make. -/
def SyncCall.weight : SyncCall → Nat
  | .forward doc => doc.weight
  | .replay docs => docs.weight

/-- The result of a call on the way to a session. -/
inductive SyncResult where
  | forwarded (taken : Bool)
  | replayed (count : Nat)
  | failed (failure : EngineFailure)
deriving DecidableEq, Repr, Inhabited

namespace SyncResult

/-- The result of a forwarding. -/
def ofForwarding : ForwardingResult → SyncResult
  | .ok taken => .forwarded taken
  | .error failure => .failed failure

/-- The result of a replay. -/
def ofReplay : Except EngineFailure Nat → SyncResult
  | .ok count => .replayed count
  | .error failure => .failed failure

end SyncResult

namespace Sync

/-- Lets a call go on as far as it can. -/
def pollCall (sync : Sync) : SyncCall → Sync × Progress SyncCall SyncResult
  | .forward forwarding =>
    let (sync, progress) := sync.poll forwarding
    (sync, progress.map SyncCall.forward SyncResult.ofForwarding)
  | .replay replay =>
    let (sync, progress) := sync.pollReplay replay
    (sync, progress.map SyncCall.replay SyncResult.ofReplay)

/-- Gives up a call. -/
def cancelCall (sync : Sync) : SyncCall → Sync
  | .forward forwarding => sync.cancel forwarding
  | .replay replay => sync.cancelReplay replay

end Sync
end EngineSync
