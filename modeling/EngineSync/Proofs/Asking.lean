import Mathlib.Algebra.Order.Ring.Int
import EngineSync.Proofs.Links

/-!
# What is asked of a session

Whatever calls do, they leave the sessions as they are, and once a session is disposed, nothing is
asked of it any more (`Engine.Asks`).  A call on the way to a session has at the engine what it has
asked for (`Sync.Has`).  One that is still bound for a session that was disposed is turned away, as
soon as it holds its lane (`Sync.pollCall_bound`, `Sync.pollCall_waits`).
-/
namespace EngineSync

/-- A session may have been asked for something, but not after it was disposed, and it is disposed
if it was before. -/
structure Engine.Asks (session : SessionId) (engine engine' : Engine) : Prop where
  sessions : engine.sessions.length ≤ engine'.sessions.length
  disposed : engine'.isDisposed session = engine.isDisposed session
  asked : ∃ asked : List Request,
    engine'.callsOf session = engine.callsOf session ++ asked.map (.request session) ∧
      (engine.isDisposed session = true → asked = [])

namespace Engine.Asks
variable {engine engine' engine'' : Engine} {session session' : SessionId} {ticket : TicketId}

/-- Nothing is asked. -/
theorem of_same (sessions : engine.sessions.length ≤ engine'.sessions.length)
    (disposed : engine'.isDisposed session = engine.isDisposed session)
    (calls : engine'.callsOf session = engine.callsOf session) : Asks session engine engine' :=
  ⟨sessions, disposed, [], by rw [calls]; simp, fun _ => rfl⟩

theorem refl (session : SessionId) (engine : Engine) : Asks session engine engine :=
  of_same (Nat.le_refl _) rfl rfl

theorem trans (h : Asks session engine engine') (h' : Asks session engine' engine'') :
    Asks session engine engine'' := by
  obtain ⟨asked, calls, none⟩ := h.asked
  obtain ⟨asked', calls', none'⟩ := h'.asked
  refine ⟨Nat.le_trans h.sessions h'.sessions, h'.disposed.trans h.disposed, asked ++ asked',
    by rw [calls', calls]; simp, fun disposed => ?_⟩
  rw [none disposed, none' (h.disposed.trans disposed)]
  rfl

theorem quiet {env env' : Environment} (later : env.Evolves env')
    (h : Environment.Quiet session env env') : Asks session env.engine env'.engine :=
  of_same later.sessions h.disposed h.calls

theorem issue (session : SessionId) {session' : SessionId} (request : Request)
    (live : engine.isDisposed session' = false) :
    Asks session engine (engine.issue session' request).1 := by
  obtain ⟨granted, permits, issued⟩ := engine.issue_eq session' request
  have disposed : (engine.issue session' request).1.isDisposed session =
      engine.isDisposed session := by
    rw [issued]
    rfl
  by_cases own : session' = session
  · subst own
    refine ⟨by rw [issued], disposed, [request], Engine.callsOf_issue request, fun gone => ?_⟩
    cases live.symm.trans gone
  · refine of_same (by rw [issued]) disposed ?_
    rw [issued]
    simp [Engine.callsOf, EngineCall.session?, own]

theorem request (session session' : SessionId) (request : Request) :
    Asks session engine (Session.request engine session' request).1 := by
  unfold Session.request
  cases live : engine.isDisposed session' with
  | true => exact refl session engine
  | false => exact issue session request live

theorem collect? {answer : Except EngineFailure Unit} (session : SessionId)
    (collected : engine.collect? ticket = some (engine', answer)) :
    Asks session engine engine' := by
  obtain ⟨_, -, -, -, -, rfl⟩ := Engine.collect?_eq collected
  exact of_same (Nat.le_refl _) rfl rfl

theorem cancel (session : SessionId) (ticket : TicketId) :
    Asks session engine (engine.cancel ticket) := by
  obtain ⟨tickets, permits, cancelled, -⟩ := engine.cancel_eq ticket
  rw [cancelled]
  exact of_same (Nat.le_refl _) rfl rfl

theorem release (session : SessionId) (key : String) :
    Asks session engine (engine.release key) := by
  obtain ⟨tickets, permits, released, -⟩ := engine.release_eq key
  rw [released]
  exact of_same (Nat.le_refl _) rfl rfl

end Engine.Asks

/-- What a forwarding has asked the engine for, and the number of that. -/
def Forwarding.asked? (forwarding : Forwarding) : Option (TicketId × Request) :=
  forwarding.ticket?.map (·, forwarding.request)

/-- What a call on the way to a session has asked the engine for. -/
def SyncCall.asked? (call : SyncCall) : Option (TicketId × Request) :=
  call.current?.bind Forwarding.asked?

theorem SyncCall.tickets_eq (call : SyncCall) : call.tickets = call.asked?.toList.map (·.1) := by
  unfold tickets asked? Forwarding.tickets Forwarding.asked?
  cases call.current? with
  | none => rfl
  | some forwarding =>
    simp only [Option.bind_some, Option.toList_some, List.flatMap_singleton]
    cases forwarding.ticket? <;> rfl

namespace Sync
variable {sync after : Sync} {forwarding : Forwarding} {replay : Replay} {moves : List LaneMove}

/-- What the engine was asked for under a number. -/
def Has (sync : Sync) (asked : TicketId × Request) : Prop :=
  sync.engine.made[asked.1]? = some (sync.session, asked.2)

/-- What a step leaves of a way: its session and its filter, and what it asks for, it asks its own
session. -/
structure Goes (sync after : Sync) : Prop where
  session : after.session = sync.session
  filter : after.filter = sync.filter
  asks : Engine.Asks sync.session sync.engine after.engine

theorem Goes.refl (sync : Sync) : Goes sync sync :=
  ⟨rfl, rfl, .refl _ _⟩

theorem Goes.trans {between : Sync} (h : Goes sync between) (h' : Goes between after) :
    Goes sync after := by
  refine ⟨h'.session.trans h.session, h'.filter.trans h.filter, h.asks.trans ?_⟩
  rw [← h.session]
  exact h'.asks

theorem Hop.goes {progress : Progress Forwarding ForwardingResult}
    (hop : Hop sync forwarding moves after progress) : Goes sync after := by
  cases hop with
  | skip arriving untracked => split <;> exact ⟨rfl, rfl, .refl _ _⟩
  | reach | refuse => exact ⟨rfl, rfl, .refl _ _⟩
  | issue queued holds open' => exact ⟨rfl, rfl, .issue _ _ open'⟩
  | collect calling collected => exact ⟨rfl, rfl, .collect? _ collected⟩

theorem ReplayHop.goes {progress : Progress Replay (Except EngineFailure Nat)}
    (hop : ReplayHop sync replay moves after progress) : Goes sync after := by
  cases hop with
  | next => exact .refl _
  | go hop => exact hop.goes
  | done => exact ⟨rfl, rfl, .refl _ _⟩

theorem poll_goes (sync : Sync) (forwarding : Forwarding) :
    Goes sync (sync.poll forwarding).1 :=
  (sync.poll_hops forwarding).carries (fun after _ => Goes sync after)
    (fun kept hop => kept.trans hop.goes) (.refl sync)

theorem pollReplay_goes (sync : Sync) (replay : Replay) :
    Goes sync (sync.pollReplay replay).1 :=
  (sync.pollReplay_hops replay).carries (fun after _ => Goes sync after)
    (fun kept hop => kept.trans hop.goes) (.refl sync)

theorem pollCall_goes (sync : Sync) (call : SyncCall) : Goes sync (sync.pollCall call).1 := by
  cases call with
  | forward forwarding => exact sync.poll_goes forwarding
  | replay replay => exact sync.pollReplay_goes replay

theorem cancel_goes (sync : Sync) (forwarding : Forwarding) :
    Goes sync (sync.cancel forwarding) := by
  unfold cancel
  cases forwarding.stage with
  | arriving => exact .refl sync
  | queued lane turn => exact ⟨rfl, rfl, .refl _ _⟩
  | calling lane turn ticket => exact ⟨rfl, rfl, .cancel _ ticket⟩

theorem cancelCall_goes (sync : Sync) (call : SyncCall) : Goes sync (sync.cancelCall call) := by
  cases call with
  | forward forwarding => exact sync.cancel_goes forwarding
  | replay replay =>
    obtain ⟨_ | forwarding, waiting, forwarded, total⟩ := replay
    · exact .refl sync
    · exact sync.cancel_goes forwarding

/-! ### What was asked for -/

/-- A call on its way has what it has asked for at the engine. -/
theorem Hop.has {progress : Progress Forwarding ForwardingResult}
    (hop : Hop sync forwarding moves after progress) (counted : sync.engine.Counted) :
    ∀ next ∈ progress.rest, ∀ asked ∈ next.asked?, after.Has asked := by
  intro next mem asked own
  cases hop with
  | skip | refuse | collect => cases mem
  | reach arriving =>
    rw [List.mem_singleton.mp mem] at own
    cases own
  | issue queued holds open' =>
    rw [List.mem_singleton.mp mem] at own
    cases own
    exact counted.made_number sync.session forwarding.request

variable {others : List TicketId} {base : Engine} {profile : Profile}

theorem poll_has (h : sync.engine.Served profile base (forwarding.tickets ++ others))
    (own : ∀ asked ∈ forwarding.asked?, sync.Has asked) :
    ∀ next ∈ (sync.poll forwarding).2.rest, ∀ asked ∈ next.asked?,
      (sync.poll forwarding).1.Has asked := by
  have kept := (sync.poll_hops forwarding).carries (fun after rest =>
    after.engine.Served profile base (rest.flatMap Forwarding.tickets ++ others) ∧
      ∀ next ∈ rest, ∀ asked ∈ next.asked?, after.Has asked)
    (fun {_ _ _ _ _} kept hop =>
      ⟨hop.served (by simpa using kept.1), hop.has kept.1.counted⟩)
    ⟨by simpa using h, fun next mem => List.mem_singleton.mp mem ▸ own⟩
  exact kept.2

theorem pollReplay_has
    (h : sync.engine.Served profile base ((SyncCall.replay replay).tickets ++ others))
    (own : ∀ asked ∈ (SyncCall.replay replay).asked?, sync.Has asked) :
    ∀ next ∈ (sync.pollReplay replay).2.rest, ∀ asked ∈ (SyncCall.replay next).asked?,
      (sync.pollReplay replay).1.Has asked := by
  have kept := (sync.pollReplay_hops replay).carries (fun after rest =>
    after.engine.Served profile base (rest.flatMap (SyncCall.tickets ∘ .replay) ++ others) ∧
      ∀ next ∈ rest, ∀ asked ∈ (SyncCall.replay next).asked?, after.Has asked)
    (fun {between replay moves after progress} kept hop =>
      ⟨hop.served (by simpa using kept.1), fun next mem asked own => ?_⟩)
    ⟨by simpa using h, fun next mem => List.mem_singleton.mp mem ▸ own⟩
  · exact kept.2
  · cases hop with
    | next doc rest forwarded total =>
      rw [List.mem_singleton.mp mem] at own
      cases own
    | @go forwarding rest forwarded total moves after outcome hop =>
      rcases outcome with forwarding' | failure | taken
      · rw [List.mem_singleton.mp mem] at own
        exact hop.has kept.1.counted forwarding' List.mem_cons_self asked own
      · cases mem
      · rw [List.mem_singleton.mp mem] at own
        cases own
    | done => cases mem

theorem pollCall_has {call : SyncCall}
    (h : sync.engine.Served profile base (call.tickets ++ others))
    (own : ∀ asked ∈ call.asked?, sync.Has asked) :
    ∀ next ∈ (sync.pollCall call).2.rest, ∀ asked ∈ next.asked?,
      (sync.pollCall call).1.Has asked := by
  intro next mem asked here
  cases call with
  | forward forwarding =>
    simp only [pollCall, Progress.rest_map, List.mem_map] at mem
    obtain ⟨forwarding', there, rfl⟩ := mem
    exact poll_has (by simpa [SyncCall.tickets, SyncCall.current?] using h) own forwarding' there
      asked here
  | replay replay =>
    simp only [pollCall, Progress.rest_map, List.mem_map] at mem
    obtain ⟨replay', there, rfl⟩ := mem
    exact pollReplay_has h own replay' there asked here

end Sync

/-! ### Whoever comes to a session that was disposed -/

/-- A forwarding is still to ask the engine for something. -/
def Forwarding.Bound (filter : DocumentFilter) (forwarding : Forwarding) : Prop :=
  match forwarding.stage with
  | .arriving => filter.tracks forwarding.doc = true
  | .queued .. => True
  | .calling .. => False

/-- So are documents one after another, with the one that is on its way or with one behind it. -/
def Replay.Bound (filter : DocumentFilter) (replay : Replay) : Prop :=
  match replay.current with
  | none => ∃ doc ∈ replay.waiting, filter.tracks doc = true
  | some forwarding => forwarding.Bound filter ∨
    forwarding.stage = .arriving ∧ ∃ doc ∈ replay.waiting, filter.tracks doc = true

/-- So is a call on the way to a session. -/
def SyncCall.Bound (filter : DocumentFilter) : SyncCall → Prop
  | .forward forwarding => forwarding.Bound filter
  | .replay docs => docs.Bound filter

namespace Sync
variable {sync after : Sync} {forwarding : Forwarding} {replay : Replay} {moves : List LaneMove}

/-- The session was disposed. -/
def Ended (sync : Sync) : Prop :=
  sync.engine.isDisposed sync.session = true

theorem Goes.ended (h : Goes sync after) (ended : sync.Ended) : after.Ended := by
  unfold Ended
  rw [h.session, h.asks.disposed]
  exact ended

/-- Whoever is bound for a session that was disposed is turned away. -/
theorem Hop.bound {progress : Progress Forwarding ForwardingResult}
    (hop : Hop sync forwarding moves after progress) (ended : sync.Ended)
    (bound : forwarding.Bound sync.filter) :
    (∀ next ∈ progress.rest, next.Bound after.filter) ∧
      ∀ result, progress = .finished result → result = .error .disposed := by
  unfold Forwarding.Bound at bound
  cases hop with
  | skip arriving untracked =>
    rw [arriving] at bound
    cases bound.symm.trans untracked
  | reach => exact ⟨fun next mem => List.mem_singleton.mp mem ▸ trivial, nofun⟩
  | refuse => exact ⟨nofun, fun result same => (Progress.finished.inj same).symm⟩
  | issue queued holds open' => cases ended.symm.trans open'
  | collect calling => rw [calling] at bound; cases bound

theorem ReplayHop.bound {progress : Progress Replay (Except EngineFailure Nat)}
    (hop : ReplayHop sync replay moves after progress) (ended : sync.Ended)
    (bound : replay.Bound sync.filter) :
    (∀ next ∈ progress.rest, next.Bound after.filter) ∧
      ∀ result, progress = .finished result → result = .error .disposed := by
  cases hop with
  | next doc rest forwarded total =>
    refine ⟨fun next mem => ?_, nofun⟩
    rw [List.mem_singleton.mp mem]
    obtain ⟨tracked, there, tracks⟩ := bound
    rcases List.mem_cons.mp there with rfl | later
    · exact .inl tracks
    · exact .inr ⟨rfl, tracked, later, tracks⟩
  | @go forwarding rest forwarded total moves after outcome hop =>
    have same : after.filter = sync.filter := hop.goes.filter
    rcases bound with bound | ⟨arriving, later⟩
    · -- its document does not come through
      obtain ⟨goes, ends⟩ := hop.bound ended bound
      rcases outcome with forwarding' | failure | taken
      · refine ⟨fun next mem => ?_, nofun⟩
        rw [List.mem_singleton.mp mem]
        exact .inl (goes forwarding' List.mem_cons_self)
      · refine ⟨nofun, fun result same => ?_⟩
        cases ends _ rfl
        exact (Progress.finished.inj same).symm
      · cases ends _ rfl
    · cases hop with
      | skip arriving untracked =>
        refine ⟨fun next mem => ?_, nofun⟩
        rw [List.mem_singleton.mp mem, same]
        exact later
      | reach => exact ⟨fun next mem => List.mem_singleton.mp mem ▸ .inl trivial, nofun⟩
      | refuse queued | issue queued => cases arriving.symm.trans queued
      | collect calling => cases arriving.symm.trans calling
  | done =>
    obtain ⟨tracked, there, -⟩ := bound
    cases there

theorem poll_bound (ended : sync.Ended) (bound : forwarding.Bound sync.filter) :
    (∀ next ∈ (sync.poll forwarding).2.rest, next.Bound sync.filter) ∧
      ∀ result, (sync.poll forwarding).2 = .finished result → result = .error .disposed := by
  have ends := @Chain.ends _ _ _ _ Hop
    (fun between call => between.Ended ∧ call.Bound between.filter) (· = .error .disposed)
    (fun h hop => ⟨fun next mem => ⟨hop.goes.ended h.1, (hop.bound h.1 h.2).1 next mem⟩,
      (hop.bound h.1 h.2).2⟩) _ _ _ _ _ (sync.poll_hops forwarding) ⟨ended, bound⟩
  rw [← (sync.poll_goes forwarding).filter]
  exact ⟨fun next mem => (ends.1 next mem).2, ends.2⟩

theorem pollReplay_bound (ended : sync.Ended) (bound : replay.Bound sync.filter) :
    (∀ next ∈ (sync.pollReplay replay).2.rest, next.Bound sync.filter) ∧
      ∀ result, (sync.pollReplay replay).2 = .finished result → result = .error .disposed := by
  have ends := @Chain.ends _ _ _ _ ReplayHop
    (fun between call => between.Ended ∧ call.Bound between.filter) (· = .error .disposed)
    (fun h hop => ⟨fun next mem => ⟨hop.goes.ended h.1, (hop.bound h.1 h.2).1 next mem⟩,
      (hop.bound h.1 h.2).2⟩) _ _ _ _ _ (sync.pollReplay_hops replay) ⟨ended, bound⟩
  rw [← (sync.pollReplay_goes replay).filter]
  exact ⟨fun next mem => (ends.1 next mem).2, ends.2⟩

theorem pollCall_bound {call : SyncCall} (ended : sync.Ended) (bound : call.Bound sync.filter) :
    (∀ next ∈ (sync.pollCall call).2.rest, next.Bound sync.filter) ∧
      ∀ result, (sync.pollCall call).2 = .finished result → result = .failed .disposed := by
  cases call with
  | forward forwarding =>
    have polls := sync.poll_bound ended bound
    simp only [pollCall]
    revert polls
    rcases sync.poll forwarding with ⟨after, next | result⟩ <;> rintro ⟨goes, ends⟩
    · refine ⟨fun next' mem => List.mem_singleton.mp mem ▸ goes next List.mem_cons_self, ?_⟩
      rintro result' ⟨⟩
    · refine ⟨List.forall_mem_nil _, fun result' same => ?_⟩
      rw [← Progress.finished.inj same, ends result rfl]
      rfl
  | replay replay =>
    have polls := sync.pollReplay_bound ended bound
    simp only [pollCall]
    revert polls
    rcases sync.pollReplay replay with ⟨after, next | result⟩ <;> rintro ⟨goes, ends⟩
    · refine ⟨fun next' mem => List.mem_singleton.mp mem ▸ goes next List.mem_cons_self, ?_⟩
      rintro result' ⟨⟩
    · refine ⟨List.forall_mem_nil _, fun result' same => ?_⟩
      rw [← Progress.finished.inj same, ends result rfl]
      rfl

/-! ### What a call waits for that goes no further -/

theorem pollCalling_waits {lane : LaneId} {turn : TurnId} {ticket : TicketId}
    {next : Forwarding}
    (pending : (sync.pollCalling forwarding lane turn ticket).2 = .pending next) :
    (sync.pollCalling forwarding lane turn ticket).1.Waits next := by
  unfold pollCalling at pending ⊢
  cases collected : sync.engine.collect? ticket with
  | none =>
    rw [collected] at pending
    cases pending
    exact .engine rfl collected
  | some outcome =>
    rw [collected] at pending
    cases pending

theorem pollQueued_waits {lane : LaneId} {turn : TurnId} {next : Forwarding}
    (pending : (sync.pollQueued forwarding lane turn).2 = .pending next) :
    (sync.pollQueued forwarding lane turn).1.Waits next := by
  simp only [pollQueued] at pending ⊢
  cases holds : sync.lanes.holds lane turn with
  | false =>
    rw [holds] at pending
    cases pending
    exact .lane rfl holds
  | true =>
    rw [holds, if_pos rfl] at pending
    rw [if_pos rfl]
    revert pending
    rcases Session.request _ _ _ with ⟨engine, journal, failure | ticket⟩ <;> intro pending
    · cases pending
    · exact pollCalling_waits pending

theorem poll_waits {next : Forwarding} (pending : (sync.poll forwarding).2 = .pending next) :
    (sync.poll forwarding).1.Waits next := by
  unfold poll at pending ⊢
  cases stage : forwarding.stage with
  | calling lane turn ticket =>
    rw [stage] at pending
    exact pollCalling_waits pending
  | queued lane turn =>
    rw [stage] at pending
    exact pollQueued_waits pending
  | arriving =>
    rw [stage] at pending
    simp only [pollArriving] at pending ⊢
    split at pending
    · rw [if_pos ‹_›]
      exact pollQueued_waits pending
    · cases pending

theorem pollReplayFrom_waits {docs : List Document} {total forwarded : Nat} {next : Replay}
    (pending : (sync.pollReplayFrom total forwarded docs).2 = .pending next) :
    ∃ forwarding, next.current = some forwarding ∧
      (sync.pollReplayFrom total forwarded docs).1.Waits forwarding := by
  induction docs generalizing sync forwarded with
  | nil => cases pending
  | cons doc rest ih =>
    have waits := @poll_waits sync (.update doc)
    rw [pollReplayFrom] at pending ⊢
    revert pending waits
    rcases sync.poll (.update doc) with ⟨after, forwarding | failure | taken⟩ <;>
      intro pending waits
    · cases pending
      exact ⟨forwarding, rfl, waits rfl⟩
    · cases pending
    · exact ih pending

theorem pollReplay_waits {next : Replay} (pending : (sync.pollReplay replay).2 = .pending next) :
    ∃ forwarding, next.current = some forwarding ∧
      (sync.pollReplay replay).1.Waits forwarding := by
  obtain ⟨_ | forwarding, waiting, forwarded, total⟩ := replay
  · exact pollReplayFrom_waits pending
  · have waits := @poll_waits sync forwarding
    simp only [pollReplay] at pending ⊢
    revert pending waits
    rcases sync.poll forwarding with ⟨after, next' | failure | taken⟩ <;> intro pending waits
    · cases pending
      exact ⟨next', rfl, waits rfl⟩
    · cases pending
    · exact pollReplayFrom_waits pending

/-- A call that is left at a document waits with it. -/
theorem pollCall_waits {call next : SyncCall} (pending : (sync.pollCall call).2 = .pending next) :
    ∃ forwarding, next.current? = some forwarding ∧
      (sync.pollCall call).1.Waits forwarding := by
  cases call with
  | forward forwarding =>
    have waits := @poll_waits sync forwarding
    simp only [pollCall] at pending ⊢
    revert pending waits
    rcases sync.poll forwarding with ⟨after, next' | result⟩ <;> intro pending waits
    · cases pending
      exact ⟨next', rfl, waits rfl⟩
    · cases pending
  | replay replay =>
    have waits := @pollReplay_waits sync replay
    simp only [pollCall] at pending ⊢
    revert pending waits
    rcases sync.pollReplay replay with ⟨after, next' | result⟩ <;> intro pending waits
    · cases pending
      exact waits rfl
    · cases pending

end Sync

/-! ### Whoever waits for an answer -/

theorem Forwarding.calling_of_asked? {forwarding : Forwarding} {asked : TicketId × Request}
    (own : forwarding.asked? = some asked) : ∃ lane turn,
      forwarding.stage = .calling lane turn asked.1 := by
  unfold asked? ticket? at own
  cases stage : forwarding.stage with
  | arriving | queued =>
    rw [stage] at own
    cases own
  | calling lane turn ticket =>
    rw [stage] at own
    cases own
    exact ⟨lane, turn, rfl⟩

/-- What the engine's answer makes of a call that waits for it: documents one after another go on
with the next one. -/
def SyncCall.answered : SyncCall → Except EngineFailure Unit → Progress SyncCall SyncResult
  | .forward _, answer => .finished (.ofForwarding (answer.map fun _ => true))
  | .replay _, .error failure => .finished (.failed failure)
  | .replay docs, .ok () =>
    .pending (.replay { docs with current := none, forwarded := docs.forwarded + 1 })

namespace Sync
variable {sync after : Sync} {call : SyncCall} {asked : TicketId × Request}

theorem poll_unanswered {forwarding : Forwarding} (own : forwarding.asked? = some asked)
    (unanswered : sync.engine.collect? asked.1 = none) :
    sync.poll forwarding = (sync, .pending forwarding) := by
  obtain ⟨lane, turn, calling⟩ := forwarding.calling_of_asked? own
  have same : { forwarding with stage := .calling lane turn asked.1 } = forwarding := by
    rw [← calling]
  simp only [poll, calling, pollCalling, unanswered, same]

/-- A call goes no further without the answer that it waits for. -/
theorem pollCall_unanswered (own : call.asked? = some asked)
    (unanswered : sync.engine.collect? asked.1 = none) :
    sync.pollCall call = (sync, .pending call) := by
  obtain ⟨forwarding, current, own⟩ := Option.bind_eq_some_iff.mp own
  cases call with
  | forward forwarding' =>
    cases current
    rw [pollCall, poll_unanswered own unanswered]
    rfl
  | replay replay =>
    obtain ⟨current', waiting, forwarded, total⟩ := replay
    cases current
    simp only [pollCall, pollReplay, poll_unanswered own unanswered]
    rfl

/-- With its answer a call ends, or goes on with the next document. -/
theorem pollCall_answered {engine : Engine} {answer : Except EngineFailure Unit}
    (own : call.asked? = some asked)
    (collected : sync.engine.collect? asked.1 = some (engine, answer)) :
    ∃ after, Goes sync after ∧ sync.pollCall call =
      match call.answered answer with
      | .finished result => (after, .finished result)
      | .pending next => after.pollCall next := by
  obtain ⟨forwarding, current, own⟩ := Option.bind_eq_some_iff.mp own
  obtain ⟨lane, turn, calling⟩ := forwarding.calling_of_asked? own
  have goes := sync.poll_goes forwarding
  have polled : (sync.poll forwarding).2 = .finished (answer.map fun _ => true) := by
    simp only [poll, calling, pollCalling, collected]
  refine ⟨(sync.poll forwarding).1, goes, ?_⟩
  revert polled
  cases call with
  | forward forwarding' =>
    cases current
    simp only [pollCall]
    rcases sync.poll forwarding with ⟨after, progress⟩
    rintro rfl
    rfl
  | replay replay =>
    obtain ⟨current', waiting, forwarded, total⟩ := replay
    cases current
    simp only [pollCall, pollReplay]
    rcases sync.poll forwarding with ⟨after, progress⟩
    rintro rfl
    cases answer <;> rfl

end Sync

/-! ## Changes of the configuration -/

/-- A request configures one profile at most. -/
theorem Request.exists_profile (request : Request) :
    ∃ profile, ∀ asked, request = .configure asked → asked = profile := by
  cases request with
  | configure profile => exact ⟨profile, fun _ same => (Request.configure.inj same).symm⟩
  | update | close => exact ⟨default, nofun⟩

namespace Environment
variable {env : Environment} {session : SessionId}

theorem asks_applyProfile (env : Environment) (session session' : SessionId) (profile : Profile) :
    Engine.Asks session env.engine (env.applyProfile session' profile).1.engine :=
  .request session session' (.configure profile)

theorem asks_pollApplying (env : Environment) (session : SessionId) (profile : Profile)
    (ticket : TicketId) :
    Engine.Asks session env.engine (Router.pollApplying env profile ticket).1.engine := by
  unfold Router.pollApplying
  cases collected : env.collectProfile? profile ticket with
  | none => exact .refl _ _
  | some outcome => exact .collect? session (collectProfile?_engine collected)

/-- A profile that was handed to the engine is found there. -/
theorem made_applyProfile {env' : Environment} {profile : Profile} {ticket : TicketId}
    (counted : env.engine.Counted)
    (applied : env.applyProfile session profile = (env', .ok ticket)) :
    env'.engine.made[ticket]? = some (session, .configure profile) := by
  rcases asks : Session.request env.engine session (.configure profile) with
    ⟨engine, journal, failure | number⟩
  · simp [applyProfile, Session.applyProfile, asks] at applied
  · simp only [applyProfile, Session.applyProfile, asks] at applied
    cases applied
    exact counted.made_request asks

/-- So is the profile of a change that waits for an answer. -/
theorem made_route (counted : env.engine.Counted) (router : Router) {call : RouteCall}
    {profile : Profile} {ticket : TicketId}
    (pending : (router.poll env call).2 = .pending (.applying profile ticket)) :
    call = .applying profile ticket ∧ (router.poll env call).1 = env ∨
      (router.poll env call).1.engine.made[ticket]? =
        some (router.session, .configure profile) := by
  cases call with
  | applying asked ticket' =>
    rcases Router.pollApplying_idle env asked ticket' with same | none
    · rw [Router.poll, same] at pending ⊢
      cases pending
      exact .inl ⟨rfl, rfl⟩
    · simp only [Router.poll] at pending
      rw [pending] at none
      cases none
  | arriving change =>
    refine .inr ?_
    simp only [Router.poll, Router.route] at pending ⊢
    split at pending
    · rw [if_pos ‹_›]
      simp only [Router.routeProfile] at pending ⊢
      have counted' : (env.profile.1.log [.routeProfile ConfigChange.profileKey
        env.profile.2]).engine.Counted := counted
      revert pending
      rcases applied : (env.profile.1.log _).applyProfile router.session env.profile.2 with
        ⟨env', failure | ticket'⟩ <;> intro pending
      · cases pending
      · have made := made_applyProfile counted' applied
        rcases Router.pollApplying_idle env' env.profile.2 ticket' with same | none
        · simp only [same] at pending ⊢
          cases pending
          exact made
        · simp only at pending
          rw [pending] at none
          cases none
    · split at pending <;> cases pending

theorem asks_route (tidy : env.Tidy) (there : session < env.engine.sessions.length)
    (router : Router) (call : RouteCall) :
    Engine.Asks session env.engine (router.poll env call).1.engine := by
  cases call with
  | applying profile ticket => exact asks_pollApplying env session profile ticket
  | arriving change =>
    simp only [Router.poll, Router.route]
    split
    · have asks := asks_applyProfile (env.profile.1.log [.routeProfile ConfigChange.profileKey
        env.profile.2]) session router.session env.profile.2
      simp only [Router.routeProfile]
      revert asks
      rcases (env.profile.1.log _).applyProfile router.session env.profile.2 with
        ⟨env', failure | ticket⟩ <;> intro asks
      · exact asks
      · exact asks.trans (asks_pollApplying env' session _ ticket)
    · split
      · -- the gate is brought into the state of the toggle, and no session hears of it
        have reads : Edits (.changing (· = .gate router.gate)) env (env.formatting.1.log
            [.routeFormatting ConfigChange.formattingKey env.formatting.2]) :=
          Edits.log (formatting_edits env) _
        have sets : Edits (.changing (· = .gate router.gate)) _ _ :=
          setEnabled_edits env.formatting.2 (Edits.tidy reads tidy) (.inl rfl)
        have all := Relation.ReflTransGen.trans reads sets
        exact .quiet (Edits.evolves all) (Edits.quiet all (.inl there)
          (by simp [Scope.changing, Scope.IsProvider]))
      · exact .refl _ _

end Environment
end EngineSync
