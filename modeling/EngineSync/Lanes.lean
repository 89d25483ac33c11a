import EngineSync.Uri

/-!
# Lanes

One lane for each document: a lock whose waiters get it in the order in which they came.  A lane is
made when the first call for its document arrives.  A call keeps a reference to its lane until it
ends; the lane is retired after a close that held the only reference.
-/
namespace EngineSync

/-- The number of a lane, never used again. -/
abbrev LaneId := Nat

/-- The number of a place in a lane, never used again. -/
abbrev TurnId := Nat

/-- A lane: the place in front holds it and the others wait behind; `references` counts the calls
that have not ended. -/
structure Lane where
  id : LaneId
  queue : List TurnId
  references : Nat
deriving DecidableEq, Repr, Inhabited

/-- The lanes, and which of them belongs to which document. -/
structure Lanes where
  table : List (Uri × LaneId)
  all : List Lane
  nextLane : LaneId
  nextTurn : TurnId
deriving DecidableEq, Repr, Inhabited

namespace Lanes

/-- No lanes. -/
def empty : Lanes :=
  ⟨[], [], 0, 0⟩

/-- The lane of a document. -/
def laneOf? (lanes : Lanes) (uri : Uri) : Option LaneId :=
  lanes.table.lookup uri

/-- A lane by its number. -/
def find? (lanes : Lanes) (id : LaneId) : Option Lane :=
  lanes.all.find? (·.id = id)

/-- Changes a lane. -/
def update (lanes : Lanes) (id : LaneId) (f : Lane → Lane) : Lanes :=
  { lanes with all := lanes.all.map fun lane => if lane.id = id then f lane else lane }

/-- How many documents have a lane. -/
def size (lanes : Lanes) : Nat :=
  lanes.table.length

/-- The lane of a document, which is made if there is none. -/
def obtain (lanes : Lanes) (uri : Uri) : Lanes × LaneId :=
  match lanes.laneOf? uri with
  | some id => (lanes, id)
  | none =>
    let id := lanes.nextLane
    ({ lanes with
        table := lanes.table ++ [(uri, id)]
        all := lanes.all ++ [⟨id, [], 0⟩]
        nextLane := id + 1 }, id)

/-- A call arrives at the lane of its document and takes the last place. -/
def enter (lanes : Lanes) (uri : Uri) : Lanes × LaneId × TurnId :=
  let (lanes, id) := lanes.obtain uri
  let turn := lanes.nextTurn
  let lanes := lanes.update id fun lane =>
    { lane with queue := lane.queue ++ [turn], references := lane.references + 1 }
  ({ lanes with nextTurn := turn + 1 }, id, turn)

/-- Whether a place holds its lane. -/
def holds (lanes : Lanes) (id : LaneId) (turn : TurnId) : Bool :=
  match lanes.find? id with
  | some lane => lane.queue.head? = some turn
  | none => false

/-- Gives up a place; if it held the lane, the next one holds it now. -/
def leave (lanes : Lanes) (id : LaneId) (turn : TurnId) : Lanes :=
  lanes.update id fun lane => { lane with queue := lane.queue.filter (· ≠ turn) }

/-- Gives up a reference. -/
def unreference (lanes : Lanes) (id : LaneId) : Lanes :=
  lanes.update id fun lane => { lane with references := lane.references - 1 }

/-- Retires the lane of a document if it is still the given one and only the caller refers to it. -/
def retire (lanes : Lanes) (uri : Uri) (id : LaneId) : Lanes :=
  match lanes.find? id with
  | some lane =>
    if lanes.laneOf? uri = some id && lane.references = 1 then
      { lanes with table := lanes.table.filter (·.1 ≠ uri) }
    else lanes
  | none => lanes

end Lanes
end EngineSync
