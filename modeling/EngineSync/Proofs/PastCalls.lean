import EngineSync.Proofs.PastEnvironment

/-!
# Calls behind a past

Routing a change and bringing documents to a session go behind a past as they go without one.  A
call reads the same but for the numbers in it, and it waits, fails or finishes at the same places.
-/
namespace EngineSync

namespace Shift
variable (s : Shift)

def router (router : Router) : Router :=
  ⟨s.session + router.session, s.gate + router.gate⟩

def route : RouteCall → RouteCall
  | .arriving change => .arriving change
  | .applying profile ticket => .applying profile (s.ticket + ticket)

def forwardingStage : ForwardingStage → ForwardingStage
  | .arriving => .arriving
  | .queued lane turn => .queued lane turn
  | .calling lane turn ticket => .calling lane turn (s.ticket + ticket)

def forwarding (forwarding : Forwarding) : Forwarding :=
  { forwarding with stage := s.forwardingStage forwarding.stage }

def replay (replay : Replay) : Replay :=
  { replay with current := replay.current.map s.forwarding }

def syncCall : SyncCall → SyncCall
  | .forward forwarding => .forward (s.forwarding forwarding)
  | .replay replay => .replay (s.replay replay)

end Shift

namespace Past
variable (p : Past)

/-! ## Routing -/

section Router
variable (env : Environment) (router : Router)

theorem pollApplying (profile : Profile) (ticket : TicketId) :
    Router.pollApplying (p.environment env) profile (p.shift.ticket + ticket) =
      (Router.pollApplying env profile ticket).map p.environment
        (Progress.map p.shift.route fun result => result) := by
  unfold Router.pollApplying
  rw [p.env_collectProfile?]
  cases env.collectProfile? profile ticket <;> rfl

theorem routeProfile : (p.shift.router router).routeProfile (p.environment env) =
    (router.routeProfile env).map p.environment
      (Progress.map p.shift.route fun result => result) := by
  unfold Router.routeProfile
  rw [p.env_profile]
  rcases env.profile with ⟨env, profile⟩
  dsimp only [Prod.map_apply, Shift.router]
  rw [p.env_log, p.env_applyProfile]
  rcases Environment.applyProfile _ router.session profile with ⟨env, failure | ticket⟩
  · rfl
  · exact p.pollApplying env profile ticket

theorem routeFormatting : (p.shift.router router).routeFormatting (p.environment env) =
    (router.routeFormatting env).map p.environment fun reaction => reaction := by
  unfold Router.routeFormatting
  rw [p.env_formatting]
  rcases env.formatting with ⟨env, enabled⟩
  dsimp only [Prod.map_apply, Shift.router]
  rw [p.env_log, p.env_setEnabled]
  rfl

theorem route (change : ConfigChange) : (p.shift.router router).route (p.environment env) change =
    (router.route env change).map p.environment
      (Progress.map p.shift.route fun result => result) := by
  unfold Router.route
  rw [p.routeProfile, p.routeFormatting, p.env_log]
  split
  · rfl
  · split <;> rfl

theorem router_poll (call : RouteCall) :
    (p.shift.router router).poll (p.environment env) (p.shift.route call) =
      (router.poll env call).map p.environment
        (Progress.map p.shift.route fun result => result) := by
  cases call with
  | arriving change => exact p.route env router change
  | applying profile ticket => exact p.pollApplying env profile ticket

theorem router_cancel (call : RouteCall) :
    Router.cancel (p.environment env) (p.shift.route call) =
      p.environment (Router.cancel env call) := by
  cases call with
  | arriving change => rfl
  | applying profile ticket =>
    exact congrArg (fun engine => { p.environment env with engine })
      (p.engine_cancel env.engine ticket)

end Router

/-! ## Documents on their way -/

/-- The way to a session, with a past. -/
def sync (sync : Sync) : Sync :=
  { sync with
    session := p.shift.session + sync.session
    engine := p.engine sync.engine
    journal := p.journal ++ sync.journal }

section Sync
variable (sync : Sync) (forwarding : Forwarding)

theorem sync_log (journal : Journal) : (p.sync sync).log journal = p.sync (sync.log journal) := by
  simp [Past.sync, Sync.log]

theorem pollCalling (lane : LaneId) (turn : TurnId) (ticket : TicketId) :
    (p.sync sync).pollCalling (p.shift.forwarding forwarding) lane turn (p.shift.ticket + ticket) =
      (sync.pollCalling forwarding lane turn ticket).map p.sync
        (Progress.map p.shift.forwarding fun result => result) := by
  unfold Sync.pollCalling
  rw [show (p.sync sync).engine.collect? _ = _ from p.engine_collect? sync.engine ticket]
  cases sync.engine.collect? ticket with
  | none => rfl
  | some collected => rfl

theorem pollQueued (lane : LaneId) (turn : TurnId) :
    (p.sync sync).pollQueued (p.shift.forwarding forwarding) lane turn =
      (sync.pollQueued forwarding lane turn).map p.sync
        (Progress.map p.shift.forwarding fun result => result) := by
  unfold Sync.pollQueued
  rw [show (p.sync sync).lanes = sync.lanes from rfl,
    show (p.shift.forwarding forwarding).entry = forwarding.entry from rfl, p.sync_log]
  split
  · extract_lets noted noted'
    have asked : Session.request noted.engine noted.session _ = _ :=
      p.session_request noted'.engine noted'.session forwarding.request
    rw [show (p.shift.forwarding forwarding).request = forwarding.request from rfl, asked]
    rcases Session.request noted'.engine noted'.session forwarding.request with
      ⟨engine, journal, failure | ticket⟩
    · exact congrArg (fun sync => (Sync.depart sync forwarding lane turn, _))
        (p.sync_log { noted' with engine } journal)
    · have behind := p.pollCalling (Sync.log { noted' with engine } journal) forwarding lane turn ticket
      rw [← p.sync_log] at behind
      exact behind
  · rfl

theorem pollArriving : (p.sync sync).pollArriving (p.shift.forwarding forwarding) =
    (sync.pollArriving forwarding).map p.sync
      (Progress.map p.shift.forwarding fun result => result) := by
  unfold Sync.pollArriving
  rw [show (p.sync sync).filter = sync.filter from rfl,
    show (p.shift.forwarding forwarding).doc = forwarding.doc from rfl,
    show (p.shift.forwarding forwarding).closes = forwarding.closes from rfl]
  dsimp only
  split
  · exact p.pollQueued { sync with lanes := (sync.lanes.enter forwarding.doc.uri).1 } forwarding _ _
  · rw [p.sync_log]
    split <;> rfl

theorem sync_poll : (p.sync sync).poll (p.shift.forwarding forwarding) =
    (sync.poll forwarding).map p.sync (Progress.map p.shift.forwarding fun result => result) := by
  rcases forwarding with ⟨doc, closes, _ | ⟨lane, turn⟩ | ⟨lane, turn, ticket⟩⟩
  · exact p.pollArriving sync _
  · exact p.pollQueued sync _ lane turn
  · exact p.pollCalling sync _ lane turn ticket

theorem sync_cancel : (p.sync sync).cancel (p.shift.forwarding forwarding) =
    p.sync (sync.cancel forwarding) := by
  rcases forwarding with ⟨doc, closes, _ | ⟨lane, turn⟩ | ⟨lane, turn, ticket⟩⟩
  · rfl
  · rfl
  · exact congrArg (fun engine => { p.sync sync with
      engine, lanes := (sync.lanes.leave lane turn).unreference lane })
      (p.engine_cancel sync.engine ticket)

theorem pollReplayFrom (total forwarded : Nat) (docs : List Document) :
    (p.sync sync).pollReplayFrom total forwarded docs =
      (sync.pollReplayFrom total forwarded docs).map p.sync
        (Progress.map p.shift.replay fun result => result) := by
  induction docs generalizing sync forwarded with
  | nil => exact congrArg (·, _) (p.sync_log sync _)
  | cons doc docs ih =>
    have polled := p.sync_poll sync (.update doc)
    rw [show p.shift.forwarding (.update doc) = .update doc from rfl] at polled
    unfold Sync.pollReplayFrom
    rw [polled]
    rcases sync.poll (.update doc) with ⟨sync, next | failure | taken⟩
    · rfl
    · rfl
    · exact ih sync _

theorem pollReplay (replay : Replay) : (p.sync sync).pollReplay (p.shift.replay replay) =
    (sync.pollReplay replay).map p.sync (Progress.map p.shift.replay fun result => result) := by
  rcases replay with ⟨_ | forwarding, waiting, forwarded, total⟩
  · exact p.pollReplayFrom sync total forwarded waiting
  · have polled := p.sync_poll sync forwarding
    unfold Sync.pollReplay
    dsimp only [Shift.replay, Option.map_some]
    rw [polled]
    rcases sync.poll forwarding with ⟨sync, next | failure | taken⟩
    · rfl
    · rfl
    · exact p.pollReplayFrom sync total _ waiting

theorem cancelReplay (replay : Replay) : (p.sync sync).cancelReplay (p.shift.replay replay) =
    p.sync (sync.cancelReplay replay) := by
  rcases replay with ⟨_ | forwarding, waiting, forwarded, total⟩
  · rfl
  · exact p.sync_cancel sync forwarding

theorem pollCall (call : SyncCall) : (p.sync sync).pollCall (p.shift.syncCall call) =
    (sync.pollCall call).map p.sync (Progress.map p.shift.syncCall fun result => result) := by
  cases call with
  | forward forwarding =>
    have polled := p.sync_poll sync forwarding
    unfold Sync.pollCall
    dsimp only [Shift.syncCall]
    rw [polled]
    rcases sync.poll forwarding with ⟨sync, next | result⟩ <;> rfl
  | replay replay =>
    have polled := p.pollReplay sync replay
    unfold Sync.pollCall
    dsimp only [Shift.syncCall]
    rw [polled]
    rcases sync.pollReplay replay with ⟨sync, next | result⟩ <;> rfl

theorem cancelCall (call : SyncCall) : (p.sync sync).cancelCall (p.shift.syncCall call) =
    p.sync (sync.cancelCall call) := by
  cases call with
  | forward forwarding => exact p.sync_cancel sync forwarding
  | replay replay => exact p.cancelReplay sync replay

end Sync
end Past
end EngineSync
