import EngineSync.Proofs.LaneOrder
import EngineSync.Proofs.Run
import EngineSync.Proofs.Tickets
import EngineSync.Sync

/-!
# The steps of a forwarding

A forwarding that gets the chance to go on may take several steps at once: it reaches its lane, it
hands its call to the engine as soon as it holds the lane, and it takes the answer and leaves.
`Sync.Hop` is one such step, and `Sync.poll_hops` takes every chance apart into steps.  Each step
leaves a move that names the document and the turn; `Sync.moves` reads the same moves off the states
before and after the chance, so that the history of a run can be told without looking inside.
-/
namespace EngineSync

namespace Forwarding

/-- The place of a forwarding that has reached its lane. -/
def place? (forwarding : Forwarding) : Option Place :=
  match forwarding.stage with
  | .arriving => none
  | .queued lane turn | .calling lane turn _ => some ⟨forwarding.doc.uri, lane, turn⟩

/-- Whether the engine has the call of a forwarding. -/
def isCalling (forwarding : Forwarding) : Bool :=
  match forwarding.stage with
  | .calling .. => true
  | _ => false

/-- The call of a forwarding at the engine. -/
def ticket? (forwarding : Forwarding) : Option TicketId :=
  match forwarding.stage with
  | .calling _ _ ticket => some ticket
  | _ => none

/-- The turn of a forwarding; one that has not arrived gets the next one. -/
def turnIn (forwarding : Forwarding) (lanes : Lanes) : TurnId :=
  (forwarding.place?.map (·.turn)).getD lanes.nextTurn

end Forwarding

theorem Forwarding.request_isDocument (f : Forwarding) : f.request.isDocument = true := by
  unfold Forwarding.request
  split <;> rfl

theorem Forwarding.request_uri? (f : Forwarding) : f.request.uri? = some f.doc.uri := by
  unfold Forwarding.request
  split <;> rfl

/-- The places of forwardings that have reached their lanes. -/
def placesOf (forwardings : List Forwarding) : List Place :=
  forwardings.filterMap Forwarding.place?

theorem placesOf_cons_none {f : Forwarding} (h : f.place? = none) (fs : List Forwarding) :
    placesOf (f :: fs) = placesOf fs := by
  simp [placesOf, h]

theorem placesOf_cons_some {f : Forwarding} {p : Place} (h : f.place? = some p)
    (fs : List Forwarding) : placesOf (f :: fs) = p :: placesOf fs := by
  simp [placesOf, h]

theorem mem_placesOf {fs : List Forwarding} {p : Place} :
    p ∈ placesOf fs ↔ ∃ f ∈ fs, f.place? = some p :=
  List.mem_filterMap

/-- What can be asked of a way to a session. -/
inductive SyncRequest where
  | opened (doc : Document)
  | changed (doc : Document)
  | closed (doc : Document)
  | replay (docs : List Document)
deriving DecidableEq, Repr

/-- The call that a request becomes. -/
def SyncRequest.call : SyncRequest → SyncCall
  | .opened doc | .changed doc => .forward (.update doc)
  | .closed doc => .forward (.close doc)
  | .replay docs => .replay (.start docs)

/-- The forwarding a call is at. -/
def SyncCall.current? : SyncCall → Option Forwarding
  | .forward forwarding => some forwarding
  | .replay docs => docs.current

/-- What happens to a forwarding: it reaches its lane, the engine gets its call, it ends with a
result, or it is given up. -/
inductive LaneStep where
  | reached
  | issued (request : Request)
  | ended (result : ForwardingResult)
  | abandoned
deriving Repr, Inhabited

/-- A step of the forwarding that has or had some turn in the lanes. -/
structure LaneMove where
  uri : Uri
  turn : TurnId
  step : LaneStep
deriving Repr, Inhabited

namespace Sync

/-- The end of a forwarding, if it has come. -/
def endMoves (forwarding : Forwarding) (turn : TurnId) :
    Progress Forwarding ForwardingResult → List LaneMove
  | .pending _ => []
  | .finished result => [⟨forwarding.doc.uri, turn, .ended result⟩]

/-- The call of a forwarding, if the engine has recorded one. -/
def issueMoves (forwarding : Forwarding) (turn : TurnId) (before after : Engine) : List LaneMove :=
  if after.calls.length ≠ before.calls.length then
    [⟨forwarding.doc.uri, turn, .issued forwarding.request⟩]
  else []

/-- The moves of a forwarding that gets the chance to go on, read off what it finds and what it
leaves. -/
def moves (sync : Sync) (forwarding : Forwarding) : List LaneMove :=
  let (after, progress) := sync.poll forwarding
  let turn := forwarding.turnIn sync.lanes
  let later := issueMoves forwarding turn sync.engine after.engine ++
    endMoves forwarding turn progress
  if forwarding.stage ≠ .arriving then later
  else if after.lanes.nextTurn ≠ sync.lanes.nextTurn then
    ⟨forwarding.doc.uri, turn, .reached⟩ :: later
  else []

/-- One step of a forwarding, and the move it leaves. -/
inductive Hop : Sync → Forwarding → List LaneMove → Sync →
    Progress Forwarding ForwardingResult → Prop where
  | skip {sync forwarding} (arriving : forwarding.stage = .arriving)
      (untracked : sync.filter.tracks forwarding.doc = false) :
      Hop sync forwarding []
        (if forwarding.closes then sync
          else sync.log [.skipped forwarding.doc.uri forwarding.doc.language])
        (.finished (.ok false))
  | reach {sync forwarding lanes lane turn} (arriving : forwarding.stage = .arriving)
      (tracked : sync.filter.tracks forwarding.doc = true)
      (entered : sync.lanes.enter forwarding.doc.uri = (lanes, lane, turn)) :
      Hop sync forwarding [⟨forwarding.doc.uri, turn, .reached⟩] { sync with lanes }
        (.pending { forwarding with stage := .queued lane turn })
  | refuse {sync forwarding lane turn} (queued : forwarding.stage = .queued lane turn)
      (holds : sync.lanes.holds lane turn = true)
      (disposed : sync.engine.isDisposed sync.session = true) :
      Hop sync forwarding [⟨forwarding.doc.uri, turn, .ended (.error .disposed)⟩]
        ((sync.log [forwarding.entry, Session.requestEntry forwarding.request]).depart
          forwarding lane turn)
        (.finished (.error .disposed))
  | issue {sync forwarding lane turn} (queued : forwarding.stage = .queued lane turn)
      (holds : sync.lanes.holds lane turn = true)
      (open' : sync.engine.isDisposed sync.session = false) :
      Hop sync forwarding [⟨forwarding.doc.uri, turn, .issued forwarding.request⟩]
        { sync.log [forwarding.entry, Session.requestEntry forwarding.request] with
          engine := (sync.engine.issue sync.session forwarding.request).1 }
        (.pending { forwarding with
          stage := .calling lane turn (sync.engine.issue sync.session forwarding.request).2 })
  | collect {sync forwarding lane turn ticket engine answer}
      (calling : forwarding.stage = .calling lane turn ticket)
      (collected : sync.engine.collect? ticket = some (engine, answer)) :
      Hop sync forwarding
        [⟨forwarding.doc.uri, turn, .ended (answer.map fun _ => true)⟩]
        ({ sync with engine }.depart forwarding lane turn)
        (.finished (answer.map fun _ => true))

/-- Steps of a forwarding one after another. -/
abbrev Hops := Chain Hop

end Sync

/-! ## What a step leaves alone -/

theorem Lanes.enter_nextTurn (lanes : Lanes) (uri : Uri) :
    (lanes.enter uri).1.nextTurn = lanes.nextTurn + 1 := by
  unfold enter Lanes.obtain
  cases lanes.laneOf? uri <;> rfl

theorem Lanes.enter_turn (lanes : Lanes) (uri : Uri) :
    (lanes.enter uri).2.2 = lanes.nextTurn := by
  unfold enter Lanes.obtain
  cases lanes.laneOf? uri <;> rfl

theorem Lanes.retire_nextTurn (lanes : Lanes) (uri : Uri) (id : LaneId) :
    (lanes.retire uri id).nextTurn = lanes.nextTurn := by
  unfold retire
  cases lanes.find? id with
  | none => rfl
  | some lane => dsimp only; split <;> rfl

namespace Sync
variable {sync : Sync} {forwarding : Forwarding} {lane : LaneId} {turn : TurnId}

theorem depart_nextTurn : (sync.depart forwarding lane turn).lanes.nextTurn =
    sync.lanes.nextTurn := by
  unfold depart
  dsimp only [Lanes.unreference, Lanes.update]
  split
  · rw [Lanes.retire_nextTurn]; rfl
  · rfl

theorem depart_sound {forwarding : Forwarding} {places : List Place}
    (h : sync.lanes.Sound (⟨forwarding.doc.uri, lane, turn⟩ :: places)) :
    (sync.depart forwarding lane turn).lanes.Sound places := by
  unfold depart
  dsimp only
  split
  · exact h.quit_retiring
  · exact h.quit

/-! ## Every chance is a row of steps -/

theorem hops_of_calling {ticket : TicketId} (calling : forwarding.stage = .calling lane turn ticket) :
    Hops sync forwarding (endMoves forwarding turn (sync.poll forwarding).2)
        (sync.poll forwarding).1 (sync.poll forwarding).2 ∧
      (sync.poll forwarding).1.engine.calls = sync.engine.calls ∧
      (sync.poll forwarding).1.lanes.nextTurn = sync.lanes.nextTurn := by
  simp only [poll, calling, pollCalling]
  cases collected : sync.engine.collect? ticket with
  | none =>
    have same : { forwarding with stage := .calling lane turn ticket } = forwarding := by
      rw [← calling]
    rw [same]
    exact ⟨.rest _ _, rfl, rfl⟩
  | some outcome =>
    obtain ⟨engine, answer⟩ := outcome
    refine ⟨.finish (.collect calling collected), ?_, depart_nextTurn⟩
    obtain ⟨_, -, -, -, -, rfl⟩ := Engine.collect?_eq collected
    rfl

theorem poll_refused (queued : forwarding.stage = .queued lane turn)
    (holds : sync.lanes.holds lane turn = true)
    (disposed : sync.engine.isDisposed sync.session = true) :
    sync.poll forwarding =
      ((sync.log [forwarding.entry, Session.requestEntry forwarding.request]).depart
        forwarding lane turn, .finished (.error .disposed)) := by
  simp only [poll, queued, pollQueued, holds, if_true, Session.request, log, disposed,
    List.append_assoc, List.cons_append, List.nil_append]

theorem poll_issued (queued : forwarding.stage = .queued lane turn)
    (holds : sync.lanes.holds lane turn = true)
    (open' : sync.engine.isDisposed sync.session = false) :
    sync.poll forwarding =
      Sync.poll
        { sync.log [forwarding.entry, Session.requestEntry forwarding.request] with
          engine := (sync.engine.issue sync.session forwarding.request).1 }
        { forwarding with
          stage := .calling lane turn (sync.engine.issue sync.session forwarding.request).2 } := by
  simp only [poll, queued, pollQueued, holds, if_true, Session.request, log, open',
    Bool.false_eq_true, if_false, List.append_assoc, List.cons_append, List.nil_append]
  rfl

theorem poll_waiting (queued : forwarding.stage = .queued lane turn)
    (waits : sync.lanes.holds lane turn = false) :
    sync.poll forwarding = (sync, .pending forwarding) := by
  have same : { forwarding with stage := .queued lane turn } = forwarding := by rw [← queued]
  simp only [poll, queued, pollQueued, waits, Bool.false_eq_true, if_false, same]

theorem hops_of_queued (queued : forwarding.stage = .queued lane turn) :
    Hops sync forwarding
        (issueMoves forwarding turn sync.engine (sync.poll forwarding).1.engine ++
          endMoves forwarding turn (sync.poll forwarding).2)
        (sync.poll forwarding).1 (sync.poll forwarding).2 ∧
      (sync.poll forwarding).1.lanes.nextTurn = sync.lanes.nextTurn := by
  cases holds : sync.lanes.holds lane turn with
  | false =>
    rw [poll_waiting queued holds]
    have waits : Hops sync forwarding [] sync (.pending forwarding) := .rest sync forwarding
    simpa [issueMoves, endMoves] using waits
  | true =>
    cases disposed : sync.engine.isDisposed sync.session with
    | true =>
      rw [poll_refused queued holds disposed]
      refine ⟨?_, depart_nextTurn⟩
      simpa [issueMoves, endMoves, depart, log] using Chain.finish (Hop.refuse queued holds disposed)
    | false =>
      have issued := Hop.issue queued holds disposed
      rw [poll_issued queued holds disposed]
      -- the engine has the call now; what remains is the chance of a forwarding that calls
      obtain ⟨more, same_calls, same_turn⟩ := @hops_of_calling
        { sync.log [forwarding.entry, Session.requestEntry forwarding.request] with
          engine := (sync.engine.issue sync.session forwarding.request).1 }
        { forwarding with
          stage := .calling lane turn (sync.engine.issue sync.session forwarding.request).2 }
        lane turn _ rfl
      refine ⟨?_, same_turn⟩
      obtain ⟨granted, permits, issue_eq⟩ :=
        sync.engine.issue_eq sync.session forwarding.request
      rw [issueMoves, same_calls, if_pos (by simp [issue_eq])]
      exact .step issued more

theorem poll_tracked (arriving : forwarding.stage = .arriving)
    (tracked : sync.filter.tracks forwarding.doc = true) {lanes : Lanes}
    (entered : sync.lanes.enter forwarding.doc.uri = (lanes, lane, turn)) :
    sync.poll forwarding =
      Sync.poll { sync with lanes } { forwarding with stage := .queued lane turn } := by
  simp only [poll, arriving, pollArriving, tracked, if_true, entered]
  rfl

/-- A tracked document reaches its lane as soon as its forwarding runs. -/
theorem moves_of_tracked (arriving : forwarding.stage = .arriving)
    (tracked : sync.filter.tracks forwarding.doc = true) :
    sync.moves forwarding = ⟨forwarding.doc.uri, sync.lanes.nextTurn, .reached⟩ ::
      (issueMoves forwarding sync.lanes.nextTurn sync.engine (sync.poll forwarding).1.engine ++
        endMoves forwarding sync.lanes.nextTurn (sync.poll forwarding).2) := by
  rcases entered : sync.lanes.enter forwarding.doc.uri with ⟨lanes, lane, turn⟩
  have next : lanes.nextTurn = sync.lanes.nextTurn + 1 := by
    simpa [entered] using Lanes.enter_nextTurn sync.lanes forwarding.doc.uri
  have arrived : (sync.poll forwarding).1.lanes.nextTurn ≠ sync.lanes.nextTurn := by
    have same_turn := (@hops_of_queued { sync with lanes }
      { forwarding with stage := .queued lane turn } lane turn rfl).2
    rw [poll_tracked arriving tracked entered, same_turn, next]
    exact Nat.succ_ne_self _
  have own_turn : forwarding.turnIn sync.lanes = sync.lanes.nextTurn := by
    simp [Forwarding.turnIn, Forwarding.place?, arriving]
  simp only [moves, arriving, own_turn, ne_eq, arrived, not_true_eq_false, not_false_eq_true,
    if_true, if_false]

/-- **A chance is a row of steps**, and its moves are theirs. -/
theorem poll_hops (sync : Sync) (forwarding : Forwarding) :
    Hops sync forwarding (sync.moves forwarding) (sync.poll forwarding).1
      (sync.poll forwarding).2 := by
  cases stage : forwarding.stage with
  | arriving =>
    cases tracked : sync.filter.tracks forwarding.doc with
    | false =>
      have skipped : sync.poll forwarding = (if forwarding.closes then sync
          else sync.log [.skipped forwarding.doc.uri forwarding.doc.language],
          .finished (.ok false)) := by
        simp only [poll, stage, pollArriving, tracked, Bool.false_eq_true, if_false]
      have none_moved : sync.moves forwarding = [] := by
        cases closes : forwarding.closes <;> simp [moves, skipped, stage, closes, log]
      rw [none_moved, skipped]
      exact .finish (.skip stage tracked)
    | true =>
      rcases entered : sync.lanes.enter forwarding.doc.uri with ⟨lanes, lane, turn⟩
      have turn_eq : turn = sync.lanes.nextTurn := by
        simpa [entered] using Lanes.enter_turn sync.lanes forwarding.doc.uri
      have more := (@hops_of_queued { sync with lanes }
        { forwarding with stage := .queued lane turn } lane turn rfl).1
      rw [moves_of_tracked stage tracked, poll_tracked stage tracked entered, ← turn_eq]
      exact .step (.reach stage tracked entered) more
  | queued lane turn =>
    have turn_eq : forwarding.turnIn sync.lanes = turn := by
      simp [Forwarding.turnIn, Forwarding.place?, stage]
    have hops := (@hops_of_queued sync _ _ _ stage).1
    simpa [moves, stage, turn_eq] using hops
  | calling lane turn ticket =>
    have turn_eq : forwarding.turnIn sync.lanes = turn := by
      simp [Forwarding.turnIn, Forwarding.place?, stage]
    obtain ⟨hops, same_calls, -⟩ := @hops_of_calling sync _ _ _ _ stage
    simpa [moves, stage, turn_eq, issueMoves, same_calls] using hops

/-- A forwarding that has to wait stands in a lane. -/
theorem poll_placed {next : Forwarding}
    (pending : (sync.poll forwarding).2 = .pending next) : next.stage ≠ .arriving := by
  have calling (sync : Sync) (lane : LaneId) (turn : TurnId) (ticket : TicketId)
      (pending : (sync.pollCalling forwarding lane turn ticket).2 = .pending next) :
      next.stage ≠ .arriving := by
    unfold pollCalling at pending
    split at pending
    · cases pending
      exact ForwardingStage.noConfusion
    · cases pending
  have queued (sync : Sync) (lane : LaneId) (turn : TurnId)
      (pending : (sync.pollQueued forwarding lane turn).2 = .pending next) :
      next.stage ≠ .arriving := by
    unfold pollQueued at pending
    split at pending
    · dsimp only at pending
      split at pending
      · cases pending
      · exact calling _ _ _ _ pending
    · cases pending
      exact ForwardingStage.noConfusion
  unfold poll at pending
  split at pending
  · unfold pollArriving at pending
    dsimp only at pending
    split at pending
    · exact queued _ _ _ pending
    · cases pending
  · exact queued _ _ _ pending
  · exact calling _ _ _ _ pending

/-! ## Documents one after another -/

/-- What becomes of a replay with what becomes of the document it is at. -/
def continued (rest : List Document) (forwarded total : Nat) :
    Progress Forwarding ForwardingResult → Progress Replay (Except EngineFailure Nat)
  | .pending forwarding => .pending ⟨some forwarding, rest, forwarded, total⟩
  | .finished (.error failure) => .finished (.error failure)
  | .finished (.ok taken) => .pending ⟨none, rest, Replay.countOne forwarded taken, total⟩

/-- One step of a replay: it takes the next document, its document takes a step, or there is none
left. -/
inductive ReplayHop : Sync → Replay → List LaneMove → Sync →
    Progress Replay (Except EngineFailure Nat) → Prop where
  | next (sync doc rest forwarded total) :
      ReplayHop sync ⟨none, doc :: rest, forwarded, total⟩ [] sync
        (.pending ⟨some (.update doc), rest, forwarded, total⟩)
  | go {sync forwarding rest forwarded total moves after progress}
      (hop : Hop sync forwarding moves after progress) :
      ReplayHop sync ⟨some forwarding, rest, forwarded, total⟩ moves after
        (continued rest forwarded total progress)
  | done (sync forwarded total) :
      ReplayHop sync ⟨none, [], forwarded, total⟩ [] (sync.log [.replayed forwarded])
        (.finished (.ok forwarded))

/-- The moves of documents that are sent one after another. -/
def replayMoves (sync : Sync) : List Document → List LaneMove
  | [] => []
  | doc :: rest =>
    sync.moves (.update doc) ++
      match sync.poll (.update doc) with
      | (after, .finished (.ok _)) => after.replayMoves rest
      | _ => []

/-- The moves of a call that gets the chance to go on. -/
def callMoves (sync : Sync) : SyncCall → List LaneMove
  | .forward forwarding => sync.moves forwarding
  | .replay ⟨none, waiting, _, _⟩ => sync.replayMoves waiting
  | .replay ⟨some forwarding, waiting, _, _⟩ =>
    sync.moves forwarding ++
      match sync.poll forwarding with
      | (after, .finished (.ok _)) => after.replayMoves waiting
      | _ => []

theorem replay_of_hops {moves : List LaneMove} {after : Sync}
    {progress : Progress Forwarding ForwardingResult} (rest : List Document) (forwarded total : Nat)
    (hops : Hops sync forwarding moves after progress) :
    Chain ReplayHop sync ⟨some forwarding, rest, forwarded, total⟩ moves after
      (continued rest forwarded total progress) := by
  induction hops with
  | rest => exact .rest _ _
  | finish hop => exact .single (.go hop)
  | step hop _ ih => exact .step (.go hop) ih

theorem replayFrom_hops (sync : Sync) (docs : List Document) (forwarded total : Nat) :
    Chain ReplayHop sync ⟨none, docs, forwarded, total⟩ (sync.replayMoves docs)
      (sync.pollReplayFrom total forwarded docs).1 (sync.pollReplayFrom total forwarded docs).2 := by
  induction docs generalizing sync forwarded with
  | nil => exact .finish (.done sync forwarded total)
  | cons doc rest ih =>
    have first := Chain.trans (.single (.next sync doc rest forwarded total))
      (replay_of_hops rest forwarded total (sync.poll_hops (.update doc)))
    rw [pollReplayFrom, replayMoves]
    rcases polled : sync.poll (.update doc) with ⟨after, forwarding | failure | taken⟩
    · simpa [polled, continued] using first
    · simpa [polled, continued] using first
    · rw [polled] at first
      exact first.trans (ih after (Replay.countOne forwarded taken))

/-- **A chance of a replay is a row of steps**, and its moves are theirs. -/
theorem pollReplay_hops (sync : Sync) (replay : Replay) :
    Chain ReplayHop sync replay (sync.callMoves (.replay replay)) (sync.pollReplay replay).1
      (sync.pollReplay replay).2 := by
  obtain ⟨_ | forwarding, waiting, forwarded, total⟩ := replay
  · exact sync.replayFrom_hops waiting forwarded total
  · have first := replay_of_hops waiting forwarded total (sync.poll_hops forwarding)
    simp only [pollReplay, callMoves]
    rcases polled : sync.poll forwarding with ⟨after, call | failure | taken⟩
    · simpa [polled, continued] using first
    · simpa [polled, continued] using first
    · rw [polled] at first
      exact first.trans (after.replayFrom_hops waiting (Replay.countOne forwarded taken) total)

end Sync
end EngineSync
