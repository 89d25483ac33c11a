import Mathlib.Data.List.Sort
import EngineSync.Proofs.Forwarding

/-!
# Lanes are safe

Any number of calls work on one way to a session: documents are opened, changed and closed, and
lists of open documents are replayed.  They go on and are given up in any order, and meanwhile the
engine answers what it likes when it likes and the session may end.  The history of such a run is
the list of the moves of all its forwardings.  `Sync.Safe` relates the history to what stands in the
lanes and at the engine; every step keeps it, and `lane_safety` reads off it what callers rely on.
-/
namespace EngineSync

/-! ## The run of one way to a session -/

/-- What the surroundings do: a permit is added, one call is answered out of turn, the engine
changes its mind about what it refuses, or the session is disposed. -/
inductive SyncMove where
  | release (key : String)
  | grant (ticket : TicketId)
  | refuse (refusals : Refusals)
  | dispose
deriving DecidableEq, Repr

namespace Sync

/-- What the surroundings do to a way to a session. -/
def surround (sync : Sync) : SyncMove → Sync
  | .release key => { sync with engine := sync.engine.release key }
  | .grant ticket => { sync with engine := sync.engine.grant ticket }
  | .refuse refusals => { sync with engine := { sync.engine with refusals } }
  | .dispose =>
    let (engine, journal, _) := Session.dispose sync.engine sync.session
    { sync with engine }.log journal

/-- Calls on the way to a session. -/
def machine : Machine Sync SyncCall SyncResult SyncRequest SyncMove where
  poll := pollCall
  drop := cancelCall
  accept _ request := some request.call
  move := surround

/-! ## The history of a run -/

end Sync

/-- The move of a forwarding that is given up. -/
def Forwarding.abandoned (forwarding : Forwarding) : List LaneMove :=
  forwarding.place?.toList.map fun place => ⟨place.uri, place.turn, .abandoned⟩

namespace SyncCall

/-- The moves of a call that is given up. -/
def abandoned (call : SyncCall) : List LaneMove :=
  call.current?.toList.flatMap Forwarding.abandoned

end SyncCall

/-- The machine with its history. -/
def Sync.recorded : Machine (Sync × List LaneMove) SyncCall SyncResult SyncRequest SyncMove :=
  Sync.machine.noting Sync.callMoves fun _ => SyncCall.abandoned

namespace LaneStep

/-- Whether a forwarding reaches its lane. -/
def isReached : LaneStep → Bool
  | .reached => true
  | _ => false

/-- What the engine is asked. -/
def request? : LaneStep → Option Request
  | .issued request => some request
  | _ => none

end LaneStep

/-- The turns that have reached the lane of a document, in order. -/
def reachedTurns (history : List LaneMove) (uri : Uri) : List TurnId :=
  (history.filter fun move => move.uri = uri && move.step.isReached).map (·.turn)

/-- The turns whose calls the engine got for a document, in order. -/
def issuedTurns (history : List LaneMove) (uri : Uri) : List TurnId :=
  (history.filter fun move => move.uri = uri && move.step.request?.isSome).map (·.turn)

/-- What the engine was asked, in order. -/
def issuedRequests (history : List LaneMove) : List Request :=
  history.filterMap (·.step.request?)

/-- Everything that happened to the forwarding of some turn: the steps, and the document. -/
def Told (history : List LaneMove) (uri : Uri) (turn : TurnId) (steps : List LaneStep) : Prop :=
  history.filter (·.turn = turn) = steps.map (⟨uri, turn, ·⟩)

/-- The ways in which a forwarding that has reached its lane can end: the engine had its call once
and has answered, or it was refused once because the session is disposed, or it was given up before
or after the engine had its call. -/
inductive LaneEnd : List LaneStep → Prop where
  | answered (request : Request) (answer : Except EngineFailure Unit)
      (answers : answer ≠ .error .disposed) :
      LaneEnd [.reached, .issued request, .ended (answer.map fun _ => true)]
  | refused : LaneEnd [.reached, .ended (.error .disposed)]
  | left : LaneEnd [.reached, .abandoned]
  | withdrawn (request : Request) : LaneEnd [.reached, .issued request, .abandoned]

/-! ## The invariant -/

namespace Forwarding

/-- What has happened to a forwarding so far. -/
def steps (forwarding : Forwarding) : List LaneStep :=
  match forwarding.stage with
  | .arriving => []
  | .queued .. => [.reached]
  | .calling .. => [.reached, .issued forwarding.request]

end Forwarding

/-- How the history of a run fits what stands in the lanes and at the engine.  Every call under way
belongs to a forwarding (`owners`), every turn that was given away is either still in its lane
(`underway`) or has come to an end (`settled`), and nobody in a lane is older than a call that the
engine got before (`passed`). -/
structure Sync.Safe (base sync : Sync) (history : List LaneMove)
    (forwardings : List Forwarding) : Prop where
  session : sync.session = base.session
  lanes : sync.lanes.Sound (placesOf forwardings)
  claim_ids : (sync.engine.claims.map (·.1)).Nodup
  claim_lt : ∀ claim ∈ sync.engine.claims, claim.1 < sync.engine.nextTicket
  owners : ∀ claim ∈ sync.engine.claims, ∃ f ∈ forwardings,
    f.ticket? = some claim.1 ∧ f.request = claim.2.2
  turn_lt : ∀ move ∈ history, move.turn < sync.lanes.nextTurn
  underway : ∀ f ∈ forwardings, ∀ p, f.place? = some p → Told history p.uri p.turn f.steps
  settled : ∀ turn < sync.lanes.nextTurn, (∃ p ∈ placesOf forwardings, p.turn = turn) ∨
    ∃ uri steps, LaneEnd steps ∧ Told history uri turn steps
  passed : ∀ move ∈ history, move.step.request?.isSome → ∀ p ∈ placesOf forwardings,
    p.uri = move.uri → move.turn ≤ p.turn
  about : ∀ move ∈ history, ∀ request, move.step.request? = some request →
    request.uri? = some move.uri
  reached : ∀ uri, (reachedTurns history uri).Pairwise (· < ·)
  issued : ∀ uri, (issuedTurns history uri).Pairwise (· < ·)
  recorded : sync.engine.calls.filter EngineCall.isDocument =
    base.engine.calls.filter EngineCall.isDocument ++
      (issuedRequests history).map (EngineCall.request base.session)

/-! ### Histories grow at the end -/

section
variable {history : List LaneMove} {uri uri' : Uri} {turn turn' : TurnId} {step : LaneStep}
  {steps : List LaneStep}

theorem reachedTurns_append (history more : List LaneMove) (uri : Uri) :
    reachedTurns (history ++ more) uri = reachedTurns history uri ++ reachedTurns more uri := by
  simp [reachedTurns]

theorem issuedTurns_append (history more : List LaneMove) (uri : Uri) :
    issuedTurns (history ++ more) uri = issuedTurns history uri ++ issuedTurns more uri := by
  simp [issuedTurns]

theorem issuedRequests_append (history more : List LaneMove) :
    issuedRequests (history ++ more) = issuedRequests history ++ issuedRequests more := by
  simp [issuedRequests]

theorem Told.fresh (h : ∀ move ∈ history, move.turn < turn) : Told history uri turn [] := by
  have nobody : ∀ move ∈ history, ¬move.turn = turn := fun move hm => Nat.ne_of_lt (h move hm)
  simpa [Told] using nobody

theorem Told.own (h : Told history uri turn steps) (step : LaneStep) :
    Told (history ++ [⟨uri, turn, step⟩]) uri turn (steps ++ [step]) := by
  unfold Told at h ⊢
  simp [h]

theorem Told.other (h : Told history uri turn steps) (hne : turn' ≠ turn) :
    Told (history ++ [⟨uri', turn', step⟩]) uri turn steps := by
  unfold Told at h ⊢
  simpa [hne] using h

/-- What was told of a turn names its document. -/
theorem Told.mem (h : Told history uri turn steps) {move : LaneMove} (hm : move ∈ history)
    (ht : move.turn = turn) : move.uri = uri ∧ move.step ∈ steps := by
  have listed : move ∈ steps.map (⟨uri, turn, ·⟩) := by
    rw [← h]
    exact List.mem_filter.mpr ⟨hm, decide_eq_true ht⟩
  obtain ⟨step, hs, rfl⟩ := List.mem_map.mp listed
  exact ⟨rfl, hs⟩

theorem Told.mem_history (h : Told history uri turn steps) (hs : step ∈ steps) :
    (⟨uri, turn, step⟩ : LaneMove) ∈ history := by
  have listed : (⟨uri, turn, step⟩ : LaneMove) ∈ history.filter (·.turn = turn) := by
    rw [h]
    exact List.mem_map_of_mem hs
  exact (List.mem_filter.mp listed).1

end

/-! ### Every step keeps it -/

namespace Sync.Safe
variable {base sync after : Sync} {history : List LaneMove}
  {f f' : Forwarding} {fs fs' : List Forwarding}

theorem perm (h : Safe base sync history fs) (hp : fs.Perm fs') : Safe base sync history fs' where
  session := h.session
  lanes := h.lanes.perm (hp.filterMap _)
  claim_ids := h.claim_ids
  claim_lt := h.claim_lt
  owners claim hc := by
    obtain ⟨f, hf, owns⟩ := h.owners claim hc
    exact ⟨f, hp.mem_iff.mp hf, owns⟩
  turn_lt := h.turn_lt
  underway f hf := h.underway f (hp.mem_iff.mpr hf)
  settled turn ht := (h.settled turn ht).imp_left fun ⟨p, hm, he⟩ =>
    ⟨p, (hp.filterMap _).mem_iff.mp hm, he⟩
  passed move hm hs p hm' := h.passed move hm hs p ((hp.filterMap _).mem_iff.mpr hm')
  about := h.about
  reached := h.reached
  issued := h.issued
  recorded := h.recorded

/-- The engine may do what it likes as long as the calls under way stay. -/
theorem of_same (h : Safe base sync history fs) (session : after.session = sync.session)
    (lanes : after.lanes = sync.lanes) (claims : after.engine.claims = sync.engine.claims)
    (next : after.engine.nextTicket = sync.engine.nextTicket)
    (calls : after.engine.calls.filter EngineCall.isDocument =
      sync.engine.calls.filter EngineCall.isDocument) : Safe base after history fs where
  session := session.trans h.session
  lanes := lanes ▸ h.lanes
  claim_ids := claims ▸ h.claim_ids
  claim_lt := by rw [claims, next]; exact h.claim_lt
  owners := by rw [claims]; exact h.owners
  turn_lt := lanes ▸ h.turn_lt
  underway := h.underway
  settled := lanes ▸ h.settled
  passed := h.passed
  about := h.about
  reached := h.reached
  issued := h.issued
  recorded := calls.trans h.recorded

/-- A forwarding that has not run leaves no trace. -/
theorem arriving_iff (arriving : f.stage = .arriving) :
    Safe base sync history (f :: fs) ↔ Safe base sync history fs := by
  have no_place : f.place? = none := by simp [Forwarding.place?, arriving]
  have no_ticket : f.ticket? = none := by simp [Forwarding.ticket?, arriving]
  have places := placesOf_cons_none no_place fs
  constructor
  · intro h
    refine ⟨h.session, places ▸ h.lanes, h.claim_ids, h.claim_lt, fun claim hc => ?_, h.turn_lt,
      fun g hg => h.underway g (List.mem_cons_of_mem _ hg), places ▸ h.settled,
      places ▸ h.passed, h.about, h.reached, h.issued, h.recorded⟩
    obtain ⟨g, hg, owns⟩ := h.owners claim hc
    rcases List.mem_cons.mp hg with rfl | hg
    · rw [no_ticket] at owns
      cases owns.1
    · exact ⟨g, hg, owns⟩
  · intro h
    refine ⟨h.session, places.symm ▸ h.lanes, h.claim_ids, h.claim_lt, fun claim hc => ?_,
      h.turn_lt, fun g hg p hp => ?_, places.symm ▸ h.settled, places.symm ▸ h.passed, h.about,
      h.reached, h.issued, h.recorded⟩
    · obtain ⟨g, hg, owns⟩ := h.owners claim hc
      exact ⟨g, List.mem_cons_of_mem _ hg, owns⟩
    · rcases List.mem_cons.mp hg with rfl | hg
      · rw [no_place] at hp
        cases hp
      · exact h.underway g hg p hp

/-- A forwarding reaches its lane: it is younger than everybody else there. -/
theorem reach (h : Safe base sync history (f :: fs)) (arriving : f.stage = .arriving)
    {lanes : Lanes} {lane : LaneId} {turn : TurnId}
    (entered : sync.lanes.enter f.doc.uri = (lanes, lane, turn)) :
    Safe base { sync with lanes } (history ++ [⟨f.doc.uri, turn, .reached⟩])
      ({ f with stage := .queued lane turn } :: fs) := by
  have h := (arriving_iff arriving).mp h
  have sound := h.lanes.enter f.doc.uri
  have turn_eq : turn = sync.lanes.nextTurn := by
    simpa [entered] using Lanes.enter_turn sync.lanes f.doc.uri
  have next : lanes.nextTurn = turn + 1 := by
    simpa [entered, turn_eq] using Lanes.enter_nextTurn sync.lanes f.doc.uri
  simp only [entered, ← turn_eq] at sound
  have older : ∀ move ∈ history, move.turn < turn := turn_eq ▸ h.turn_lt
  have younger : ∀ p ∈ placesOf fs, p.turn < turn := turn_eq ▸ h.lanes.turn_lt
  have own : ({ f with stage := .queued lane turn } : Forwarding).place? =
      some ⟨f.doc.uri, lane, turn⟩ := rfl
  have told : Told (history ++ [⟨f.doc.uri, turn, .reached⟩]) f.doc.uri turn [.reached] :=
    (Told.fresh older).own .reached
  refine ⟨h.session, ?_, h.claim_ids, h.claim_lt, ?_, ?_, ?_, ?_, ?_, ?_, ?_, ?_, ?_⟩
  · rw [placesOf_cons_some own]
    exact sound
  · intro claim hc
    obtain ⟨g, hg, owns⟩ := h.owners claim hc
    exact ⟨g, List.mem_cons_of_mem _ hg, owns⟩
  · intro move hm
    rw [next]
    rcases List.mem_append.mp hm with hm | hm
    · exact Nat.lt_succ_of_lt (older move hm)
    · rw [List.mem_singleton.mp hm]
      exact Nat.lt_succ_self _
  · intro g hg p hp
    rcases List.mem_cons.mp hg with rfl | hg
    · rw [own] at hp
      cases hp
      exact told
    · have lt := younger p (mem_placesOf.mpr ⟨g, hg, hp⟩)
      exact (h.underway g hg p hp).other (Nat.ne_of_gt lt)
  · intro t ht
    rw [placesOf_cons_some own]
    rcases Nat.lt_or_eq_of_le (Nat.le_of_lt_succ (next ▸ ht)) with lt | rfl
    · rcases h.settled t (turn_eq ▸ lt) with ⟨p, hp, he⟩ | ⟨uri, steps, ended, ht⟩
      · exact .inl ⟨p, List.mem_cons_of_mem _ hp, he⟩
      · exact .inr ⟨uri, steps, ended, ht.other (Nat.ne_of_gt lt)⟩
    · exact .inl ⟨_, List.mem_cons_self, rfl⟩
  · intro move hm issued p hp he
    rw [placesOf_cons_some own] at hp
    rcases List.mem_append.mp hm with hm | hm
    · rcases List.mem_cons.mp hp with rfl | hp
      · exact Nat.le_of_lt (older move hm)
      · exact h.passed move hm issued p hp he
    · rw [List.mem_singleton.mp hm] at issued
      cases issued
  · intro move hm request asked
    rcases List.mem_append.mp hm with hm | hm
    · exact h.about move hm request asked
    · rw [List.mem_singleton.mp hm] at asked
      cases asked
  · intro uri
    rw [reachedTurns_append]
    refine List.pairwise_append.mpr ⟨h.reached uri, ?_, ?_⟩
    · exact (List.pairwise_singleton _ _).sublist ((List.filter_sublist).map _)
    · intro old ho new hn
      obtain ⟨move, hm, rfl⟩ := List.mem_map.mp ho
      obtain ⟨made, hmade, rfl⟩ := List.mem_map.mp hn
      rw [List.mem_singleton.mp (List.mem_filter.mp hmade).1]
      exact older move (List.mem_filter.mp hm).1
  · intro uri
    rw [issuedTurns_append]
    simpa [issuedTurns, LaneStep.request?] using h.issued uri
  · rw [issuedRequests_append]
    simpa [issuedRequests, LaneStep.request?] using h.recorded

/-- The engine gets the call of a forwarding that holds its lane. -/
theorem issue (h : Safe base sync history (f :: fs)) {lane : LaneId} {turn : TurnId}
    (queued : f.stage = .queued lane turn) (holds : sync.lanes.holds lane turn = true)
    (journal : Journal) :
    Safe base
      { sync with engine := (sync.engine.issue sync.session f.request).1, journal }
      (history ++ [⟨f.doc.uri, turn, .issued f.request⟩])
      ({ f with stage :=
          .calling lane turn (sync.engine.issue sync.session f.request).2 } :: fs) := by
  obtain ⟨granted, permits, issue_eq⟩ := sync.engine.issue_eq sync.session f.request
  have claims := @Engine.claims_issue sync.engine sync.session f.request
  rw [issue_eq] at claims ⊢
  have own : f.place? = some ⟨f.doc.uri, lane, turn⟩ := by simp [Forwarding.place?, queued]
  have told : Told history f.doc.uri turn [.reached] := by
    simpa [Forwarding.steps, queued] using h.underway f List.mem_cons_self _ own
  have lanes := h.lanes
  rw [placesOf_cons_some own] at lanes
  have first := lanes.holds_iff.mp holds
  have turns := List.nodup_cons.mp lanes.turns
  -- the places are those from before; only the stage of the holder has changed
  have places : placesOf ({ f with stage := .calling lane turn sync.engine.nextTicket } :: fs) =
      placesOf (f :: fs) := by
    rw [placesOf_cons_some own, placesOf_cons_some]
    rfl
  refine ⟨h.session, places ▸ h.lanes, ?_, ?_, ?_, ?_, ?_, ?_, ?_, ?_, ?_, ?_, ?_⟩
  · rw [claims, List.map_append]
    refine List.nodup_append.mpr ⟨h.claim_ids, List.nodup_singleton _, ?_⟩
    intro old ho new hn
    obtain ⟨claim, hc, rfl⟩ := List.mem_map.mp ho
    rw [List.mem_singleton.mp hn]
    exact Nat.ne_of_lt (h.claim_lt claim hc)
  · intro claim hc
    rw [claims] at hc
    rcases List.mem_append.mp hc with hc | hc
    · exact Nat.lt_succ_of_lt (h.claim_lt claim hc)
    · rw [List.mem_singleton.mp hc]
      exact Nat.lt_succ_self _
  · intro claim hc
    rw [claims] at hc
    rcases List.mem_append.mp hc with hc | hc
    · obtain ⟨g, hg, owns⟩ := h.owners claim hc
      rcases List.mem_cons.mp hg with rfl | hg
      · simp [Forwarding.ticket?, queued] at owns
      · exact ⟨g, List.mem_cons_of_mem _ hg, owns⟩
    · rw [List.mem_singleton.mp hc]
      exact ⟨_, List.mem_cons_self, rfl, rfl⟩
  · intro move hm
    rcases List.mem_append.mp hm with hm | hm
    · exact h.turn_lt move hm
    · rw [List.mem_singleton.mp hm]
      exact lanes.turn_lt _ List.mem_cons_self
  · intro g hg p hp
    rcases List.mem_cons.mp hg with rfl | hg
    · cases hp
      exact told.own _
    · refine (h.underway g (List.mem_cons_of_mem _ hg) p hp).other fun he => ?_
      exact turns.1 (List.mem_map.mpr ⟨p, mem_placesOf.mpr ⟨g, hg, hp⟩, he.symm⟩)
  · intro t ht
    rw [places]
    rcases h.settled t ht with waits | ⟨uri, steps, ended, told'⟩
    · exact .inl waits
    · refine .inr ⟨uri, steps, ended, told'.other fun he => ?_⟩
      -- a turn that has come to an end is not the one that still waits
      have one : [LaneStep.reached] = steps := by
        have both : [LaneStep.reached].map (LaneMove.mk f.doc.uri turn) =
            steps.map (LaneMove.mk uri t) := by
          subst he
          exact told.symm.trans told'
        simpa [Function.comp_def] using congrArg (List.map LaneMove.step) both
      rw [← one] at ended
      cases ended
  · intro move hm issued p hp he
    rw [places] at hp
    rcases List.mem_append.mp hm with hm | hm
    · exact h.passed move hm issued p hp he
    · rw [List.mem_singleton.mp hm] at he ⊢
      rw [placesOf_cons_some own] at hp
      rcases List.mem_cons.mp hp with rfl | hp
      · exact Nat.le_refl _
      · exact Nat.le_of_lt (first p hp he)
  · intro move hm request asked
    rcases List.mem_append.mp hm with hm | hm
    · exact h.about move hm request asked
    · rw [List.mem_singleton.mp hm] at asked ⊢
      cases asked
      exact f.request_uri?
  · intro uri
    rw [reachedTurns_append]
    simpa [reachedTurns, LaneStep.isReached] using h.reached uri
  · intro uri
    rw [issuedTurns_append]
    refine List.pairwise_append.mpr ⟨h.issued uri, ?_, ?_⟩
    · exact (List.pairwise_singleton _ _).sublist ((List.filter_sublist).map _)
    · intro old ho new hn
      obtain ⟨move, hm, rfl⟩ := List.mem_map.mp ho
      obtain ⟨made, hmade, rfl⟩ := List.mem_map.mp hn
      obtain ⟨hm, hs⟩ := List.mem_filter.mp hm
      obtain ⟨hmade, hu⟩ := List.mem_filter.mp hmade
      rw [List.mem_singleton.mp hmade] at hu ⊢
      simp only [Bool.and_eq_true, decide_eq_true_eq] at hs hu
      have le := h.passed move hm hs.2 ⟨f.doc.uri, lane, turn⟩
        (mem_placesOf.mpr ⟨f, List.mem_cons_self, own⟩) (hu.1.trans hs.1.symm)
      refine Nat.lt_of_le_of_ne le fun he => ?_
      -- this turn has not had its call yet
      have step := (told.mem hm he).2
      rw [List.mem_singleton.mp step] at hs
      cases hs.2
  · rw [issuedRequests_append, List.filter_append, h.recorded]
    simp [issuedRequests, LaneStep.request?, EngineCall.isDocument, f.request_isDocument, h.session]

/-- A forwarding ends: its place is free, and the engine does not have its call. -/
theorem leave (h : Safe base sync history (f :: fs)) {p : Place} (own : f.place? = some p)
    {step : LaneStep} (ends : LaneEnd (f.steps ++ [step])) (silent : step.request? = none)
    (late : step.isReached = false)
    (session : after.session = sync.session) (lanes : after.lanes.Sound (placesOf fs))
    (turns : after.lanes.nextTurn = sync.lanes.nextTurn)
    (claims : after.engine.claims.Sublist sync.engine.claims)
    (gone : ∀ claim ∈ after.engine.claims, f.ticket? ≠ some claim.1)
    (next : after.engine.nextTicket = sync.engine.nextTicket)
    (calls : after.engine.calls = sync.engine.calls) :
    Safe base after (history ++ [⟨p.uri, p.turn, step⟩]) fs := by
  have places := placesOf_cons_some own fs
  have fresh := (List.nodup_cons.mp (places ▸ h.lanes).turns).1
  have other : ∀ q ∈ placesOf fs, p.turn ≠ q.turn := fun q hq he =>
    fresh (List.mem_map.mpr ⟨q, hq, he.symm⟩)
  have told := (h.underway f List.mem_cons_self p own).own step
  refine ⟨session.trans h.session, lanes, ?_, ?_, ?_, ?_, ?_, ?_, ?_, ?_, ?_, ?_, ?_⟩
  · exact h.claim_ids.sublist (claims.map _)
  · intro claim hc
    rw [next]
    exact h.claim_lt claim (claims.subset hc)
  · intro claim hc
    obtain ⟨g, hg, owns⟩ := h.owners claim (claims.subset hc)
    rcases List.mem_cons.mp hg with rfl | hg
    · exact absurd owns.1 (gone claim hc)
    · exact ⟨g, hg, owns⟩
  · intro move hm
    rw [turns]
    rcases List.mem_append.mp hm with hm | hm
    · exact h.turn_lt move hm
    · rw [List.mem_singleton.mp hm]
      exact h.lanes.turn_lt p (mem_placesOf.mpr ⟨f, List.mem_cons_self, own⟩)
  · intro g hg q hq
    exact (h.underway g (List.mem_cons_of_mem _ hg) q hq).other
      (other q (mem_placesOf.mpr ⟨g, hg, hq⟩))
  · intro t ht
    by_cases he : p.turn = t
    · exact .inr ⟨p.uri, _, ends, he ▸ told⟩
    · rcases h.settled t (turns ▸ ht) with ⟨q, hq, hqt⟩ | ⟨uri, steps, ended, told'⟩
      · rw [places] at hq
        rcases List.mem_cons.mp hq with rfl | hq
        · exact absurd hqt he
        · exact .inl ⟨q, hq, hqt⟩
      · exact .inr ⟨uri, steps, ended, told'.other he⟩
  · intro move hm issued q hq he
    rcases List.mem_append.mp hm with hm | hm
    · exact h.passed move hm issued q (places ▸ List.mem_cons_of_mem _ hq) he
    · rw [List.mem_singleton.mp hm, silent] at issued
      cases issued
  · intro move hm request asked
    rcases List.mem_append.mp hm with hm | hm
    · exact h.about move hm request asked
    · rw [List.mem_singleton.mp hm, silent] at asked
      cases asked
  · intro uri
    rw [reachedTurns_append]
    simpa [reachedTurns, late] using h.reached uri
  · intro uri
    rw [issuedTurns_append]
    simpa [issuedTurns, silent] using h.issued uri
  · rw [issuedRequests_append, calls]
    simpa [issuedRequests, silent] using h.recorded

/-- One step of a forwarding. -/
theorem hop {moves : List LaneMove} {progress : Progress Forwarding ForwardingResult}
    (h : Safe base sync history (f :: fs)) (hop : Hop sync f moves after progress) :
    Safe base after (history ++ moves) (progress.rest ++ fs) := by
  cases hop with
  | skip arriving untracked =>
    rw [List.append_nil]
    have gone := (arriving_iff arriving).mp h
    split
    · exact gone
    · exact gone.of_same rfl rfl rfl rfl rfl
  | reach arriving tracked entered => exact h.reach arriving entered
  | @refuse lane turn queued holds disposed =>
    have own : f.place? = some ⟨f.doc.uri, lane, turn⟩ := by simp [Forwarding.place?, queued]
    have lanes := h.lanes
    rw [placesOf_cons_some own] at lanes
    have ends : LaneEnd (f.steps ++ [.ended (.error .disposed)]) := by
      simpa [Forwarding.steps, queued] using LaneEnd.refused
    refine h.leave own ends rfl rfl rfl ?_ depart_nextTurn (List.Sublist.refl _) ?_ rfl rfl
    · exact depart_sound lanes
    · simp [Forwarding.ticket?, queued]
  | issue queued holds open' => exact h.issue queued holds _
  | @collect lane turn ticket engine answer calling collected =>
    have own : f.place? = some ⟨f.doc.uri, lane, turn⟩ := by simp [Forwarding.place?, calling]
    have lanes := h.lanes
    rw [placesOf_cons_some own] at lanes
    have claims := Engine.claims_collect? collected
    obtain ⟨_, -, -, -, answered, rfl⟩ := Engine.collect?_eq collected
    have ends : LaneEnd (f.steps ++ [.ended (answer.map fun _ => true)]) := by
      have := LaneEnd.answered f.request answer (answered ▸ Engine.answer_ne_disposed _ _)
      simpa [Forwarding.steps, calling] using this
    refine h.leave own ends rfl rfl rfl (depart_sound lanes) depart_nextTurn ?_ ?_ rfl rfl
    · exact claims ▸ List.filter_sublist
    · intro claim hc
      have kept : claim ∈ sync.engine.claims.filter (·.1 ≠ ticket) := claims ▸ hc
      have hne : claim.1 ≠ ticket := by simpa using (List.mem_filter.mp kept).2
      simpa [Forwarding.ticket?, calling] using hne.symm

/-- Any number of steps. -/
theorem hops {moves : List LaneMove} {progress : Progress Forwarding ForwardingResult}
    (h : Safe base sync history (f :: fs)) (hops : Hops sync f moves after progress) :
    Safe base after (history ++ moves) (progress.rest ++ fs) :=
  hops.keeps (fun sync calls history => Safe base sync history (calls ++ fs))
    (fun h hop => h.hop hop) h

theorem poll (h : Safe base sync history (f :: fs)) :
    Safe base (sync.poll f).1 (history ++ sync.moves f) ((sync.poll f).2.rest ++ fs) :=
  h.hops (sync.poll_hops f)


/-- A forwarding is given up. -/
theorem cancel (h : Safe base sync history (f :: fs)) :
    Safe base (sync.cancel f) (history ++ f.abandoned) fs := by
  cases stage : f.stage with
  | arriving =>
    have gone := (arriving_iff stage).mp h
    simpa [Sync.cancel, Forwarding.abandoned, Forwarding.place?, stage] using gone
  | queued lane turn =>
    have own : f.place? = some ⟨f.doc.uri, lane, turn⟩ := by simp [Forwarding.place?, stage]
    have lanes := h.lanes
    rw [placesOf_cons_some own] at lanes
    have ends : LaneEnd (f.steps ++ [.abandoned]) := by
      simpa [Forwarding.steps, stage] using LaneEnd.left
    simp only [Sync.cancel, stage, Forwarding.abandoned, own, Option.toList_some, List.map_cons,
      List.map_nil]
    refine h.leave own ends rfl rfl rfl lanes.quit rfl (List.Sublist.refl _) ?_ rfl rfl
    simp [Forwarding.ticket?, stage]
  | calling lane turn ticket =>
    have own : f.place? = some ⟨f.doc.uri, lane, turn⟩ := by simp [Forwarding.place?, stage]
    have lanes := h.lanes
    rw [placesOf_cons_some own] at lanes
    have ends : LaneEnd (f.steps ++ [.abandoned]) := by
      simpa [Forwarding.steps, stage] using LaneEnd.withdrawn f.request
    have claims := @Engine.claims_cancel sync.engine ticket
    obtain ⟨tickets, permits, cancelled, -⟩ := sync.engine.cancel_eq ticket
    simp only [Sync.cancel, stage, Forwarding.abandoned, own, Option.toList_some, List.map_cons,
      List.map_nil]
    refine h.leave own ends rfl rfl rfl lanes.quit rfl ?_ ?_ ?_ ?_
    · exact claims ▸ List.filter_sublist
    · intro claim hc
      have kept : claim ∈ sync.engine.claims.filter (·.1 ≠ ticket) := claims ▸ hc
      have hne : claim.1 ≠ ticket := by simpa using (List.mem_filter.mp kept).2
      simpa [Forwarding.ticket?, stage] using hne.symm
    · rw [cancelled]
    · rw [cancelled]

/-- One step of a replay. -/
theorem replayHop {replay : Replay} {moves : List LaneMove}
    {progress : Progress Replay (Except EngineFailure Nat)}
    (h : Safe base sync history (replay.current.toList ++ fs))
    (hop : ReplayHop sync replay moves after progress) :
    Safe base after (history ++ moves) (progress.rest.filterMap Replay.current ++ fs) := by
  cases hop with
  | next doc rest forwarded total =>
    rw [List.append_nil]
    exact (arriving_iff (f := .update doc) rfl).mpr h
  | @go f rest forwarded total _ _ progress step =>
    have stepped := h.hop step
    rcases progress with f' | failure | taken <;> exact stepped
  | done forwarded total =>
    rw [List.append_nil]
    exact h.of_same rfl rfl rfl rfl rfl

theorem pollReplay {replay : Replay} (h : Safe base sync history (replay.current.toList ++ fs)) :
    Safe base (sync.pollReplay replay).1 (history ++ sync.callMoves (.replay replay))
      ((sync.pollReplay replay).2.rest.filterMap Replay.current ++ fs) := by
  refine (sync.pollReplay_hops replay).keeps
    (fun sync replays history => Safe base sync history (replays.filterMap Replay.current ++ fs))
    (fun {_ replay _ _ _ _} h hop => Safe.replayHop ?_ hop) ?_
  · rcases current : replay.current <;> simpa [current, List.filterMap_cons] using h
  · rcases current : replay.current <;> simpa [current, List.filterMap_cons] using h

/-- Any call gets the chance to go on. -/
theorem pollCall {call : SyncCall} (h : Safe base sync history (call.current?.toList ++ fs)) :
    Safe base (sync.pollCall call).1 (history ++ sync.callMoves call)
      ((sync.pollCall call).2.rest.filterMap SyncCall.current? ++ fs) := by
  have forwards : SyncCall.current? ∘ SyncCall.forward = some := rfl
  have replays : SyncCall.current? ∘ SyncCall.replay = Replay.current := rfl
  cases call with
  | forward forwarding =>
    simp only [Sync.pollCall, Progress.rest_map, List.filterMap_map, forwards, List.filterMap_some]
    exact h.poll
  | replay docs =>
    simp only [Sync.pollCall, Progress.rest_map, List.filterMap_map, replays]
    exact h.pollReplay

/-- The surroundings move. -/
theorem surround (h : Safe base sync history fs) (way : SyncMove) :
    Safe base (sync.surround way) history fs := by
  cases way with
  | release key =>
    have claims := @Engine.claims_release sync.engine key
    obtain ⟨tickets, permits, released, -⟩ := sync.engine.release_eq key
    exact h.of_same rfl rfl claims (by simp [Sync.surround, released])
      (by simp [Sync.surround, released])
  | grant ticket => exact h.of_same rfl rfl Engine.claims_grant rfl rfl
  | refuse refusals => exact h.of_same rfl rfl rfl rfl rfl
  | dispose =>
    simp only [Sync.surround, Session.dispose]
    split
    · exact h.of_same rfl rfl rfl rfl rfl
    · refine h.of_same rfl rfl rfl rfl ?_
      simp [Engine.dispose, Engine.record, Sync.log, EngineCall.isDocument]

theorem start (lanes : sync.lanes = .empty) (quiet : sync.engine.tickets = []) :
    Safe sync sync [] [] := by
  have no_claims : sync.engine.claims = [] := by simp [Engine.claims, quiet]
  refine ⟨rfl, lanes ▸ Lanes.sound_empty, ?_, ?_, ?_, by simp, by simp, ?_, by simp, by simp, ?_, ?_,
    ?_⟩
  · simp [no_claims]
  · simp [no_claims]
  · simp [no_claims]
  · simp [lanes, Lanes.empty]
  · simp [reachedTurns]
  · simp [issuedTurns]
  · simp [issuedRequests]

end Sync.Safe

/-! ## Any run -/

namespace Sync

theorem current?_cons (call : SyncCall) (calls : List SyncCall) :
    (call :: calls).filterMap SyncCall.current? =
      call.current?.toList ++ calls.filterMap SyncCall.current? := by
  cases h : call.current? <;> simp [h]

theorem recorded_keeps (base : Sync) : Sync.recorded.Keeps fun noted calls =>
    Safe base noted.1 noted.2 (calls.filterMap SyncCall.current?) where
  perm hp h := h.perm (hp.filterMap _)
  accept {noted calls request call} h accepted := by
    have started : call = request.call := (Option.some.inj accepted).symm
    subst started
    cases request with
    | opened doc | changed doc | closed doc => exact (Safe.arriving_iff rfl).mpr h
    | replay docs => exact h
  poll {noted call calls} h := by
    rw [current?_cons] at h
    rw [List.filterMap_append]
    exact h.pollCall
  drop {noted call calls} h := by
    rw [current?_cons] at h
    simp only [recorded, Machine.noting, machine]
    cases call with
    | forward forwarding =>
      simpa [cancelCall, SyncCall.abandoned, SyncCall.current?] using h.cancel
    | replay replay =>
      obtain ⟨_ | forwarding, waiting, forwarded, total⟩ := replay
      · simpa [cancelCall, cancelReplay, SyncCall.abandoned, SyncCall.current?] using h
      · simpa [cancelCall, cancelReplay, SyncCall.abandoned, SyncCall.current?] using h.cancel
  move way h := h.surround way

end Sync

/-! ## What callers rely on -/

theorem eq_of_filterMap_nodup {α β : Type} {g : α → Option β} {l : List α}
    (h : (l.filterMap g).Nodup) {a b : α} (ha : a ∈ l) (hb : b ∈ l) {x : β} (hax : g a = some x)
    (hbx : g b = some x) : a = b := by
  induction l with
  | nil => cases ha
  | cons c rest ih =>
    have later : ∀ d ∈ rest, g d = some x → g c = some x → False := by
      intro d hd hdx hcx
      rw [List.filterMap_cons_some hcx] at h
      exact (List.nodup_cons.mp h).1 (List.mem_filterMap.mpr ⟨d, hd, hdx⟩)
    rcases List.mem_cons.mp ha with hac | ha' <;> rcases List.mem_cons.mp hb with hbc | hb'
    · rw [hac, hbc]
    · exact (later b hb' hbx (hac ▸ hax)).elim
    · exact (later a ha' hax (hbc ▸ hbx)).elim
    · exact ih (h.sublist ((List.sublist_cons_self c rest).filterMap g)) ha' hb'

namespace Sync.Safe
variable {base sync : Sync} {history : List LaneMove} {fs : List Forwarding}

/-- No two forwardings have the same turn. -/
theorem same_of_turn (h : Safe base sync history fs) {f g : Forwarding} (hf : f ∈ fs) (hg : g ∈ fs)
    {p q : Place} (hp : f.place? = some p) (hq : g.place? = some q) (he : p.turn = q.turn) :
    f = g := by
  have turns := h.lanes.turns
  rw [placesOf, List.map_filterMap] at turns
  exact eq_of_filterMap_nodup turns hf hg (by simp [hp]) (by simp [hq, he] : _ = some p.turn)

/-- What the engine has of a forwarding is in the history. -/
theorem owner_issued (h : Safe base sync history fs) {claim : TicketId × SessionId × Request}
    (hc : claim ∈ sync.engine.claims) : ∃ f ∈ fs, ∃ p, f.place? = some p ∧
      f.ticket? = some claim.1 ∧ claim.2.2.uri? = some p.uri ∧
      (⟨p.uri, p.turn, .issued f.request⟩ : LaneMove) ∈ history := by
  obtain ⟨f, hf, owns, same⟩ := h.owners claim hc
  cases stage : f.stage with
  | arriving => simp [Forwarding.ticket?, stage] at owns
  | queued lane turn => simp [Forwarding.ticket?, stage] at owns
  | calling lane turn ticket =>
    have own : f.place? = some ⟨f.doc.uri, lane, turn⟩ := by simp [Forwarding.place?, stage]
    refine ⟨f, hf, _, own, owns, same ▸ f.request_uri?, ?_⟩
    refine (h.underway f hf _ own).mem_history ?_
    simp [Forwarding.steps, stage]

theorem outstanding_le_one (h : Safe base sync history fs) (session : SessionId) (uri : Uri) :
    (sync.engine.outstanding session uri).length ≤ 1 := by
  rcases listed : sync.engine.outstanding session uri with _ | ⟨t, _ | ⟨t', rest⟩⟩
  · exact Nat.zero_le _
  · exact Nat.le_refl _
  · -- two calls of one document would both be the oldest in its lane
    exfalso
    have about : ∀ ticket ∈ sync.engine.outstanding session uri,
        ticket ∈ sync.engine.tickets ∧ ticket.request.uri? = some uri := by
      intro ticket ht
      obtain ⟨hm, hs⟩ := List.mem_filter.mp ht
      exact ⟨hm, (decide_eq_true_eq.mp hs).2⟩
    have ids : ((sync.engine.outstanding session uri).map (·.id)).Nodup := by
      have all := h.claim_ids
      rw [Engine.claims, List.map_map] at all
      exact all.sublist (List.filter_sublist.map _)
    rw [listed] at about ids
    obtain ⟨hm, hu⟩ := about t (by simp)
    obtain ⟨hm', hu'⟩ := about t' (by simp)
    obtain ⟨f, hf, p, hp, owns, hpu, told⟩ := h.owner_issued (List.mem_map_of_mem hm)
    obtain ⟨f', hf', p', hp', owns', hpu', told'⟩ := h.owner_issued (List.mem_map_of_mem hm')
    have uris : p.uri = p'.uri :=
      (Option.some.inj (hpu.symm.trans hu)).trans (Option.some.inj (hpu'.symm.trans hu')).symm
    have le := h.passed _ told rfl p' (mem_placesOf.mpr ⟨f', hf', hp'⟩) uris.symm
    have ge := h.passed _ told' rfl p (mem_placesOf.mpr ⟨f, hf, hp⟩) uris
    have same := h.same_of_turn hf hf' hp hp' (Nat.le_antisymm le ge)
    rw [same, owns'] at owns
    simp [show t'.id = t.id from Option.some.inj owns] at ids

/-- Whoever had a call has been in the lane. -/
theorem issued_sublist (h : Safe base sync history fs) (uri : Uri) :
    (issuedTurns history uri).Sublist (reachedTurns history uri) := by
  have starts : ∀ turn < sync.lanes.nextTurn, ∃ uri steps,
      LaneStep.reached ∈ steps ∧ Told history uri turn steps := by
    intro turn ht
    rcases h.settled turn ht with ⟨p, hp, rfl⟩ | ⟨uri, steps, ends, told⟩
    · obtain ⟨f, hf, own⟩ := mem_placesOf.mp hp
      refine ⟨p.uri, f.steps, ?_, h.underway f hf p own⟩
      cases stage : f.stage <;> simp_all [Forwarding.place?, Forwarding.steps]
    · refine ⟨uri, steps, ?_, told⟩
      cases ends <;> exact List.mem_cons_self
  have subset : issuedTurns history uri ⊆ reachedTurns history uri := by
    intro turn ht
    obtain ⟨move, hm, rfl⟩ := List.mem_map.mp ht
    obtain ⟨hm, hs⟩ := List.mem_filter.mp hm
    simp only [Bool.and_eq_true, decide_eq_true_eq] at hs
    obtain ⟨uri', steps, reached, told⟩ := starts move.turn (h.turn_lt move hm)
    have same := (told.mem hm rfl).1
    refine List.mem_map.mpr ⟨_, List.mem_filter.mpr ⟨told.mem_history reached, ?_⟩, rfl⟩
    simp [← same, hs.1, LaneStep.isReached]
  have once : (issuedTurns history uri).Nodup := (h.issued uri).imp Nat.ne_of_lt
  exact List.sublist_of_subperm_of_pairwise (List.subperm_of_subset once subset) (h.issued uri) (h.reached uri)

end Sync.Safe

/-- **Lanes are safe.**  Whatever is asked for, given up, answered or refused in any order: the
engine has at most one call of a document at a time; it gets the calls of a document in the order in
which their forwardings reached the lane; whoever has left the lane without being given up had its
call answered once or was refused once; and all that hold or await the lane of a document are in the
lane that the document has now. -/
theorem lane_safety (sync : Sync) (fresh : sync.lanes = .empty) (quiet : sync.engine.tickets = [])
    (actions : List (Action SyncRequest SyncMove)) :
    let work := Sync.recorded.run (.idle (sync, [])) actions
    let now := work.state.1
    let history := work.state.2
    let underway := work.calls.filterMap SyncCall.current?
    (∀ uri, (now.engine.outstanding sync.session uri).length ≤ 1) ∧
      (∀ uri, (issuedTurns history uri).Sublist (reachedTurns history uri)) ∧
      now.engine.calls.filter EngineCall.isDocument =
        sync.engine.calls.filter EngineCall.isDocument ++
          (issuedRequests history).map (.request sync.session) ∧
      (∀ move ∈ history, ∀ request, move.step.request? = some request →
        request.uri? = some move.uri) ∧
      (∀ turn < now.lanes.nextTurn,
        (∃ f ∈ underway, ∃ p, f.place? = some p ∧ p.turn = turn ∧
            Told history p.uri turn f.steps) ∨
          ∃ uri steps, LaneEnd steps ∧ Told history uri turn steps) ∧
      (∀ f : Forwarding, f.stage = .arriving → now.filter.tracks f.doc = true →
        ⟨f.doc.uri, now.lanes.nextTurn, .reached⟩ ∈ now.moves f) ∧
      ∀ f ∈ underway, ∀ p, f.place? = some p → now.lanes.laneOf? p.uri = some p.lane := by
  intro work now history underway
  have safe : Sync.Safe sync now history underway :=
    (Sync.recorded_keeps sync).run (.start fresh quiet) actions
  refine ⟨safe.outstanding_le_one _, safe.issued_sublist, safe.recorded, safe.about, ?_, ?_, ?_⟩
  · intro turn ht
    rcases safe.settled turn ht with ⟨p, hp, rfl⟩ | ended
    · obtain ⟨f, hf, own⟩ := mem_placesOf.mp hp
      exact .inl ⟨f, hf, p, own, rfl, safe.underway f hf p own⟩
    · exact .inr ended
  · intro f arriving tracked
    rw [now.moves_of_tracked arriving tracked]
    exact List.mem_cons_self
  · intro f hf p own
    exact safe.lanes.at_lane p (mem_placesOf.mpr ⟨f, hf, own⟩)

/-- A change is published while the engine still has the call of the opening: it waits. -/
theorem lane_safety_of_held_call :
    let doc : Document := ⟨⟨"file:///a.qs"⟩, "qsharp", 1, "operation", false⟩
    let engine := Engine.initial ⟨false, false, false⟩ ⟨false, false, false, []⟩ ["file:///a.qs@1"]
    let sync : Sync := ⟨0, ⟨"qsharp"⟩, .empty, engine, []⟩
    let work := Sync.recorded.run (.idle (sync, []))
      [.start (.opened doc), .start (.changed { doc with version := 2 }), .poll 0, .poll 1]
    sync.lanes = .empty ∧ sync.engine.tickets = [] ∧
      reachedTurns work.state.2 doc.uri = [0, 1] ∧ issuedTurns work.state.2 doc.uri = [0] ∧
      ∀ uri, (work.state.1.engine.outstanding 0 uri).length ≤ 1 :=
  ⟨rfl, rfl, by decide +kernel, by decide +kernel, (lane_safety _ rfl rfl _).1⟩

end EngineSync
