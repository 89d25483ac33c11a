import EngineSync.Proofs.Holders

/-!
# Turned away

A call that is bound for a session that was disposed is turned away with its next chance, unless it
waits in the lane of a document for another call that holds it (`Holders.Sound.turns_away`).  A call
that the engine has gets its own answer (`Holders.Sound.answered`).
-/
namespace EngineSync

/-- A call comes back with the news that the session is disposed. -/
def HolderResult.isTurnedAway : HolderResult → Bool
  | .synced (.failed .disposed) | .routed (.error .disposed) | .answered (.error .disposed) => true
  | _ => false

namespace HolderCall

/-- A call is still to ask the session for something; each way takes the documents of a filter. -/
def Bound (filters : List DocumentFilter) : HolderCall → Prop
  | .sync number call => call.Bound (filters[number]?.getD default)
  | .route (.arriving change) => change.affects ConfigChange.profileKey = true
  | .ask _ none | .apply _ none => True
  | _ => False

/-- What the engine's answer makes of a call that waits for it. -/
def answered : HolderCall → Except EngineFailure Unit → Progress HolderCall HolderResult
  | .sync number call, answer => (call.answered answer).map (.sync number) .synced
  | .route (.applying profile _), answer =>
    .finished (.routed (answer.map fun _ => some (.profile profile)))
  | .ask _ _, answer | .apply _ _, answer => .finished (.answered answer)
  | call, _ => .pending call

end HolderCall

namespace Holders
variable {holders holders' : Holders} {call : HolderCall} {calls : List HolderCall}
  {number : Nat}

/-- The documents that each way takes. -/
def filters (holders : Holders) : List DocumentFilter :=
  holders.ways.map (·.1)

/-- The session was disposed. -/
def Ended (holders : Holders) : Prop :=
  holders.env.engine.isDisposed holders.session = true

/-- A call waits in a lane that another one holds. -/
def Blocked (holders : Holders) (calls : List HolderCall) (call : HolderCall) : Prop :=
  ∃ number, ∃ place ∈ call.places number, ∃ other ∈ calls, ∃ holder ∈ other.places number,
    holder.lane = place.lane ∧ (holders.way number).2.holds place.lane place.turn = false ∧
      (holders.way number).2.holds holder.lane holder.turn = true

/-- With this chance a call is turned away, unless it waits in a lane. -/
def TurnsAway (holders : Holders) (calls : List HolderCall) (call : HolderCall) : Prop :=
  (∃ result, (holders.poll call).2 = .finished result ∧ result.isTurnedAway = true) ∨
    ∃ next, (holders.poll call).2 = .pending next ∧ next.Bound holders.filters ∧
      Blocked (holders.poll call).1 (next :: calls) next

/-! ## Whoever is bound for the session -/

theorem filter_way (holders : Holders) (number : Nat) :
    (holders.way number).1 = holders.filters[number]?.getD default := by
  unfold way filters
  rw [List.getElem?_map]
  cases holders.ways[number]? <;> rfl

theorem not_calling_of_bound {filter : DocumentFilter} {call : SyncCall} {forwarding : Forwarding}
    {lane : LaneId} {turn : TurnId} {ticket : TicketId} (bound : call.Bound filter)
    (current : call.current? = some forwarding) : forwarding.stage ≠ .calling lane turn ticket := by
  intro calling
  have idle (bound : forwarding.Bound filter) : False := by
    unfold Forwarding.Bound at bound
    rw [calling] at bound
    exact bound
  cases call with
  | forward forwarding' =>
    cases current
    exact idle bound
  | replay replay =>
    obtain ⟨current', waiting, forwarded, total⟩ := replay
    cases current
    rcases bound with bound | ⟨arriving, -⟩
    · exact idle bound
    · cases arriving.symm.trans calling

/-- A call that waits in a lane waits for another one. -/
theorem Sound.blocked {next : SyncCall} (h : Sound holders (.sync number next :: calls))
    (bound : next.Bound (holders.way number).1)
    (waits : ∃ forwarding, next.current? = some forwarding ∧
      (holders.sync number).Waits forwarding) :
    Blocked holders (.sync number next :: calls) (.sync number next) := by
  obtain ⟨forwarding, current, waits⟩ := waits
  cases waits with
  | engine calling => exact absurd calling (not_calling_of_bound bound current)
  | @lane lane turn queued taken =>
    have place : (⟨forwarding.doc.uri, lane, turn⟩ : Place) ∈
        (HolderCall.sync number next).places number := by
      rw [HolderCall.places, if_pos rfl, current]
      exact mem_placesOf.mpr ⟨forwarding, List.mem_cons_self, by simp [Forwarding.place?, queued]⟩
    have there : (⟨forwarding.doc.uri, lane, turn⟩ : Place) ∈
        (.sync number next :: calls).flatMap (HolderCall.places number) :=
      List.mem_flatMap.mpr ⟨_, List.mem_cons_self, place⟩
    obtain ⟨holder, mem, same, -, holds⟩ := (h.lanes number).holder there
    obtain ⟨other, found, own⟩ := List.mem_flatMap.mp mem
    exact ⟨number, _, place, other, found, holder, own, same, taken, holds⟩

/-- Whoever asks a session that was disposed is turned away. -/
theorem Ended.request (ended : holders.Ended) (request : Request) :
    Session.request holders.env.engine holders.session request =
      (holders.env.engine, [Session.requestEntry request], .error .disposed) := by
  have disposed : holders.env.engine.isDisposed holders.session = true := ended
  rw [Session.request, if_pos disposed]

/-- So is whoever applies a profile to it. -/
theorem Ended.applyProfile {env : Environment} (ended : holders.Ended)
    (same : env.engine = holders.env.engine) (profile : Profile) :
    ∃ env', env.applyProfile holders.session profile = (env', .error .disposed) :=
  ⟨_, by rw [Environment.applyProfile, Session.applyProfile, same, ended.request]⟩

theorem Ended.routeProfile (ended : holders.Ended) :
    (holders.router.routeProfile holders.env).2 = .finished (.error .disposed) := by
  obtain ⟨env, refused⟩ := @Ended.applyProfile holders (holders.env.profile.1.log
    [.routeProfile ConfigChange.profileKey holders.env.profile.2]) ended rfl holders.env.profile.2
  simp only [Router.routeProfile]
  rw [show holders.router.session = holders.session from rfl, refused]

theorem sync_putSync (lt : number < holders.ways.length) {after : Sync}
    (goes : (holders.sync number).Goes after) :
    (holders.putSync number after).sync number = after := by
  obtain ⟨session, filter, lanes, engine, journal⟩ := after
  obtain ⟨same, filter_same, -⟩ := goes
  cases same
  cases filter_same
  simp [putSync, sync, way, lt]

/-- A call on a way is turned away if its way says so. -/
theorem Sound.turns_away_sync {call : SyncCall} (h : Sound holders (.sync number call :: calls))
    (bound : (∀ next ∈ ((holders.sync number).pollCall call).2.rest,
      next.Bound (holders.way number).1) ∧ ∀ result,
        ((holders.sync number).pollCall call).2 = .finished result → result = .failed .disposed) :
    TurnsAway holders calls (.sync number call) := by
  have polled := h.polls
  have lt := h.within _ List.mem_cons_self number rfl
  have goes := (holders.sync number).pollCall_goes call
  obtain ⟨stays, ends⟩ := bound
  cases outcome : ((holders.sync number).pollCall call).2 with
  | finished result =>
    refine .inl ⟨.synced result, by simp [poll, outcome, Progress.map], ?_⟩
    rw [ends result outcome]
    rfl
  | pending next =>
    have pending : (holders.poll (.sync number call)).2 = .pending (.sync number next) := by
      simp [poll, outcome, Progress.map]
    have first : (holders.poll (.sync number call)).1 =
        holders.putSync number ((holders.sync number).pollCall call).1 := rfl
    have after : (holders.poll (.sync number call)).1.sync number =
        ((holders.sync number).pollCall call).1 := by
      rw [first, sync_putSync lt goes]
    have stays : next.Bound (holders.way number).1 :=
      stays next (by rw [outcome]; exact List.mem_cons_self)
    rw [pending] at polled
    refine .inr ⟨_, pending, ?_, polled.blocked ?_ ?_⟩
    · show next.Bound (holders.filters[number]?.getD default)
      rw [← filter_way]
      exact stays
    · show next.Bound ((holders.poll (.sync number call)).1.sync number).filter
      rw [after, goes.filter]
      exact stays
    · rw [after]
      exact Sync.pollCall_waits outcome

/-- **A chance of a call that is bound for a session that was disposed.** -/
theorem Sound.turns_away (h : Sound holders (call :: calls)) (ended : holders.Ended)
    (bound : call.Bound holders.filters) : TurnsAway holders calls call := by
  cases call with
  | sync number call =>
    have own : call.Bound (holders.sync number).filter := by
      show call.Bound (holders.way number).1
      rw [filter_way]
      exact bound
    exact h.turns_away_sync (@Sync.pollCall_bound (holders.sync number) call ended own)
  | route call =>
    cases call with
    | applying profile ticket => exact bound.elim
    | arriving change =>
      have affects : change.affects ConfigChange.profileKey = true := bound
      refine .inl ⟨.routed (.error .disposed), ?_, rfl⟩
      simp only [poll, Router.poll, Router.route, affects, if_true]
      rw [ended.routeProfile]
      rfl
  | ask request ticket =>
    cases ticket with
    | some ticket => exact bound.elim
    | none =>
      refine .inl ⟨.answered (.error .disposed), ?_, rfl⟩
      simp only [poll, ended.request]
  | apply profile ticket =>
    cases ticket with
    | some ticket => exact bound.elim
    | none =>
      refine .inl ⟨.answered (.error .disposed), ?_, rfl⟩
      obtain ⟨env, refused⟩ := ended.applyProfile rfl profile
      simp only [poll, refused]
  | dispose => exact bound.elim

/-! ## Whoever waits for an answer -/

/-- A call that waits for an answer has a request under way. -/
theorem Sound.underway (h : Sound holders (call :: calls)) {asked : TicketId × Request}
    (own : call.asked? = some asked) : asked.1 ∈ holders.env.engine.underway := by
  obtain ⟨elsewhere, serves⟩ := h.serves
  rw [serves.owners.mem_iff, List.flatMap_cons, HolderCall.tickets, own]
  simp

/-- The engine answers what it was asked. -/
theorem Sound.own_answer (h : Sound holders (call :: calls)) {asked : TicketId × Request}
    (own : call.asked? = some asked) {engine : Engine} {answer : Except EngineFailure Unit}
    (collected : holders.env.engine.collect? asked.1 = some (engine, answer)) :
    answer = holders.env.engine.answer asked.2 := by
  obtain ⟨elsewhere, serves⟩ := h.serves
  obtain ⟨entry, there, number, -, rfl, -⟩ := Engine.collect?_eq collected
  have made := serves.counted.places entry.claim (List.mem_map_of_mem there)
  have has : holders.env.engine.made[asked.1]? = some (holders.session, asked.2) :=
    h.has call List.mem_cons_self asked own
  rw [← number] at has
  have same : entry.request = asked.2 :=
    congrArg Prod.snd (Option.some.inj (made.symm.trans has))
  rw [same]

theorem putSync_same (holders : Holders) (number : Nat) :
    holders.putSync number (holders.sync number) = holders := by
  have same : holders.ways.set number ((holders.way number).1, (holders.sync number).lanes) =
      holders.ways := by
    by_cases lt : number < holders.ways.length
    · simp [sync, way, lt]
    · exact List.set_eq_of_length_le (Nat.le_of_not_lt lt)
  unfold putSync
  rw [same]
  rfl

/-- Without its answer a call goes no further. -/
theorem poll_unanswered {asked : TicketId × Request} (own : call.asked? = some asked)
    (unanswered : holders.env.engine.collect? asked.1 = none) :
    holders.poll call = (holders, .pending call) := by
  match call with
  | .sync number call =>
    have same := @Sync.pollCall_unanswered (holders.sync number) call asked own unanswered
    simp only [poll, same, putSync_same]
    rfl
  | .route (.applying profile ticket) =>
    cases own
    simp only [poll, Router.poll, Router.pollApplying,
      Environment.collectProfile?_unanswered unanswered]
    rfl
  | .ask request (some ticket) =>
    cases own
    simp only [poll, pollAsked, unanswered]
  | .apply profile (some ticket) =>
    cases own
    simp only [poll, pollApplied, Environment.collectProfile?_unanswered unanswered]
  | .route (.arriving _) | .ask _ none | .apply _ none | .dispose => cases own

/-- With its answer a call ends; documents one after another go on, and are turned away where the
session was disposed. -/
theorem Sound.answered (h : Sound holders (call :: calls)) {asked : TicketId × Request}
    (own : call.asked? = some asked) {engine : Engine} {answer : Except EngineFailure Unit}
    (collected : holders.env.engine.collect? asked.1 = some (engine, answer)) :
    (∀ result, call.answered answer = .finished result →
      (holders.poll call).2 = .finished result) ∧
    ∀ next, call.answered answer = .pending next → holders.Ended →
      next.Bound holders.filters → TurnsAway holders calls call := by
  match call with
  | .sync number call =>
    obtain ⟨after, goes, polled⟩ :=
      @Sync.pollCall_answered (holders.sync number) call asked engine answer own collected
    simp only [HolderCall.answered]
    cases outcome : call.answered answer with
    | finished result =>
      rw [outcome] at polled
      refine ⟨fun result' same => ?_, by rintro _ ⟨⟩⟩
      cases same
      simp only [poll, polled]
      rfl
    | pending next =>
      rw [outcome] at polled
      refine ⟨by rintro _ ⟨⟩, fun next' same ended bound => h.turns_away_sync ?_⟩
      cases same
      have own : next.Bound after.filter := by
        rw [goes.filter]
        show next.Bound (holders.way number).1
        rw [filter_way]
        exact bound
      have turned := after.pollCall_bound (goes.ended ended) own
      rw [goes.filter] at turned
      rw [polled]
      exact turned
  | .route (.applying asked ticket) =>
    cases own
    refine ⟨fun result same => ?_, by rintro _ ⟨⟩⟩
    cases same
    simp only [poll, Router.poll, Router.pollApplying,
      Environment.collectProfile?_answered collected]
    rfl
  | .ask request (some ticket) =>
    cases own
    refine ⟨fun result same => ?_, by rintro _ ⟨⟩⟩
    cases same
    simp only [poll, pollAsked, collected]
  | .apply asked (some ticket) =>
    cases own
    refine ⟨fun result same => ?_, by rintro _ ⟨⟩⟩
    cases same
    simp only [poll, pollApplied, Environment.collectProfile?_answered collected]
  | .route (.arriving _) | .ask _ none | .apply _ none | .dispose => cases own

end Holders
end EngineSync
