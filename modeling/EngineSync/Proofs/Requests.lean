import EngineSync.Proofs.Forwarding
import EngineSync.Proofs.Operations

/-!
# Requests under way

The number of a request is its place among all that were ever made.  A request is under way from the
moment it is made until it is answered or given up, and never again after that.  Whoever has made it
waits for it and for no other: `Engine.Serves` says that the numbers under way are those that some
calls wait for, each of them once.  Every operation of the engine keeps that for the calls that go
on, and adds no configuration but the one of the settings (`Engine.Served`).
-/
namespace EngineSync

/-- What a recorded call asks, and which session. -/
def EngineCall.asking? : EngineCall → Option (SessionId × Request)
  | .request session asked => some (session, asked)
  | _ => none

namespace Engine

/-- The requests that were made, in order. -/
def made (engine : Engine) : List (SessionId × Request) :=
  engine.calls.filterMap EngineCall.asking?

/-- The numbers of the requests under way. -/
def underway (engine : Engine) : List TicketId :=
  engine.claims.map (·.1)

/-- A request was made and is no longer under way. -/
def Over (engine : Engine) (number : TicketId) : Prop :=
  number < engine.made.length ∧ number ∉ engine.underway

instance (engine : Engine) (number : TicketId) : Decidable (engine.Over number) :=
  inferInstanceAs (Decidable (_ ∧ _))

/-- The numbers under way grow, and each is the place of its request. -/
structure Counted (engine : Engine) : Prop where
  next : engine.nextTicket = engine.made.length
  grow : engine.underway.Pairwise (· < ·)
  places : ∀ claim ∈ engine.claims, engine.made[claim.1]? = some claim.2

/-- No request was made, answered or given up. -/
structure Still (engine engine' : Engine) : Prop where
  made : engine'.made = engine.made
  claims : engine'.claims = engine.claims
  next : engine'.nextTicket = engine.nextTicket

/-- The requests under way are those that some calls wait for. -/
structure Serves (engine : Engine) (tickets : List TicketId) : Prop where
  counted : engine.Counted
  owners : engine.underway.Perm tickets

/-- What has become of an engine: requests keep their numbers, those that are under way were so
before or are new, and new ones configure nothing but a certain profile. -/
structure Served (engine : Engine) (profile : Profile) (base : Engine)
    (tickets : List TicketId) : Prop extends Serves engine tickets where
  made : base.made <+: engine.made
  underway : ∀ number ∈ engine.underway, number ∈ base.underway ∨ base.made.length ≤ number
  told : ∀ number, base.made.length ≤ number → ∀ session asked,
    engine.made[number]? = some (session, .configure asked) → asked = profile

variable {engine engine' base : Engine} {number : TicketId} {session : SessionId}
  {request : Request} {tickets others : List TicketId} {profile : Profile}

/-! ## What each operation does to the requests -/

namespace Still

theorem refl (engine : Engine) : Still engine engine :=
  ⟨rfl, rfl, rfl⟩

theorem trans {engine'' : Engine} (h : Still engine engine') (h' : Still engine' engine'') :
    Still engine engine'' :=
  ⟨h'.made.trans h.made, h'.claims.trans h.claims, h'.next.trans h.next⟩

theorem underway (h : Still engine engine') : engine'.underway = engine.underway := by
  rw [Engine.underway, h.claims]
  rfl

theorem counted (h : Still engine engine') (counted : engine.Counted) : engine'.Counted where
  next := by rw [h.next, h.made, counted.next]
  grow := h.underway ▸ counted.grow
  places := by rw [h.claims, h.made]; exact counted.places

theorem release (engine : Engine) (key : String) : Still engine (engine.release key) := by
  obtain ⟨tickets, permits, released, same⟩ := engine.release_eq key
  rw [released]
  exact ⟨rfl, same, rfl⟩

theorem grant (engine : Engine) (number : TicketId) : Still engine (engine.grant number) :=
  ⟨rfl, claims_grant, rfl⟩

theorem dispose (engine : Engine) (session : SessionId) :
    Still engine (Session.dispose engine session).1 := by
  unfold Session.dispose
  split
  · exact refl engine
  · exact ⟨by simp [Engine.made, Engine.dispose, Engine.record, EngineCall.asking?], rfl, rfl⟩

end Still

theorem made_issue (engine : Engine) (session : SessionId) (request : Request) :
    (engine.issue session request).1.made = engine.made ++ [(session, request)] := by
  obtain ⟨granted, permits, issued⟩ := engine.issue_eq session request
  rw [issued]
  exact List.filterMap_append

theorem underway_issue (engine : Engine) (session : SessionId) (request : Request) :
    (engine.issue session request).1.underway = engine.underway ++ [engine.nextTicket] := by
  rw [underway, claims_issue]
  exact List.map_append

theorem underway_without (h : engine'.claims = engine.claims.filter (·.1 ≠ number)) :
    engine'.underway = engine.underway.filter (· ≠ number) := by
  rw [underway, h, underway, List.filter_map]
  rfl

theorem made_collect? {answer : Except EngineFailure Unit}
    (h : engine.collect? number = some (engine', answer)) : engine'.made = engine.made := by
  obtain ⟨ticket, -, -, -, -, rfl⟩ := collect?_eq h
  rfl

theorem mem_underway_of_collect? {answer : Except EngineFailure Unit}
    (h : engine.collect? number = some (engine', answer)) : number ∈ engine.underway := by
  obtain ⟨ticket, mem, same, -⟩ := collect?_eq h
  exact List.mem_map.mpr ⟨ticket.claim, List.mem_map_of_mem mem, same⟩

theorem made_cancel (engine : Engine) (number : TicketId) :
    (engine.cancel number).made = engine.made := by
  obtain ⟨tickets, permits, cancelled, -⟩ := engine.cancel_eq number
  rw [cancelled]
  rfl

namespace Counted

theorem lt_made (h : engine.Counted) (under : number ∈ engine.underway) :
    number < engine.made.length := by
  obtain ⟨claim, mem, rfl⟩ := List.mem_map.mp under
  exact (List.getElem?_eq_some_iff.mp (h.places claim mem)).1

theorem nodup (h : engine.Counted) : engine.underway.Nodup :=
  h.grow.imp Nat.ne_of_lt

/-- A request that is made has the next number. -/
theorem issue (h : engine.Counted) (session : SessionId) (request : Request) :
    (engine.issue session request).1.Counted where
  next := by
    obtain ⟨granted, permits, issued⟩ := engine.issue_eq session request
    rw [made_issue, List.length_append, issued]
    exact congrArg (· + 1) h.next
  grow := by
    rw [underway_issue, h.next, List.pairwise_append]
    refine ⟨h.grow, List.pairwise_singleton _ _, fun old mem new same => ?_⟩
    rw [List.mem_singleton.mp same]
    exact h.lt_made mem
  places claim mem := by
    rw [claims_issue] at mem
    rw [made_issue]
    rcases List.mem_append.mp mem with old | new
    · rw [List.getElem?_append_left (h.lt_made (List.mem_map_of_mem old))]
      exact h.places claim old
    · rw [List.mem_singleton.mp new, h.next]
      exact List.getElem?_concat_length

/-- A request is found under its number. -/
theorem made_number (h : engine.Counted) (session : SessionId) (request : Request) :
    (engine.issue session request).1.made[(engine.issue session request).2]? =
      some (session, request) := by
  have number : (engine.issue session request).2 = engine.made.length := by
    obtain ⟨granted, permits, issued⟩ := engine.issue_eq session request
    rw [issued]
    exact h.next
  rw [made_issue, number]
  exact List.getElem?_concat_length

theorem made_request (h : engine.Counted) {journal : Journal}
    (asked : Session.request engine session request = (engine', journal, .ok number)) :
    engine'.made[number]? = some (session, request) := by
  unfold Session.request at asked
  cases live : engine.isDisposed session with
  | true =>
    rw [live] at asked
    cases asked
  | false =>
    rw [live] at asked
    cases asked
    exact h.made_number session request

/-- A request that is no longer under way. -/
theorem without (h : engine.Counted) (next : engine'.nextTicket = engine.nextTicket)
    (made : engine'.made = engine.made)
    (claims : engine'.claims = engine.claims.filter (·.1 ≠ number)) : engine'.Counted where
  next := by rw [next, made, h.next]
  grow := by
    rw [underway_without claims]
    exact h.grow.filter _
  places claim mem := by
    rw [claims] at mem
    rw [made]
    exact h.places claim (List.mem_filter.mp mem).1

theorem collect? (h : engine.Counted) {answer : Except EngineFailure Unit}
    (collected : engine.collect? number = some (engine', answer)) : engine'.Counted := by
  refine h.without ?_ (made_collect? collected) (claims_collect? collected)
  obtain ⟨ticket, -, -, -, -, rfl⟩ := collect?_eq collected
  rfl

theorem cancel (h : engine.Counted) (number : TicketId) : (engine.cancel number).Counted := by
  refine h.without ?_ (made_cancel engine number) claims_cancel
  obtain ⟨tickets, permits, cancelled, -⟩ := engine.cancel_eq number
  rw [cancelled]

end Counted

namespace Serves

theorem perm {tickets' : List TicketId} (h : engine.Serves tickets) (same : tickets.Perm tickets') :
    engine.Serves tickets' :=
  ⟨h.counted, h.owners.trans same⟩

/-- Nothing has become of the engine yet. -/
theorem start (h : engine.Serves tickets) : engine.Served profile engine tickets where
  toServes := h
  made := List.prefix_refl _
  underway _ mem := .inl mem
  told _ le _ _ found :=
    absurd (List.getElem?_eq_some_iff.mp found).1 (Nat.not_lt_of_le le)

end Serves

namespace Served

theorem still (h : engine.Served profile base tickets) (still : Still engine engine') :
    engine'.Served profile base tickets where
  counted := still.counted h.counted
  owners := still.underway ▸ h.owners
  made := still.made ▸ h.made
  underway := by rw [still.underway]; exact h.underway
  told := by rw [still.made]; exact h.told

/-- A request is made that configures nothing else. -/
theorem issue (h : engine.Served profile base others) (session : SessionId)
    (fits : ∀ asked, request = .configure asked → asked = profile) :
    (engine.issue session request).1.Served profile base
      ((engine.issue session request).2 :: others) where
  counted := h.counted.issue session request
  owners := by
    obtain ⟨granted, permits, issued⟩ := engine.issue_eq session request
    rw [underway_issue, issued]
    exact (List.perm_append_singleton _ _).trans (h.owners.cons _)
  made := by
    rw [made_issue]
    exact h.made.trans (List.prefix_append _ _)
  underway number mem := by
    rw [underway_issue] at mem
    rcases List.mem_append.mp mem with old | new
    · exact h.underway number old
    · rw [List.mem_singleton.mp new, h.counted.next]
      exact .inr h.made.length_le
  told number le session' asked found := by
    rw [made_issue] at found
    rcases Nat.lt_or_ge number engine.made.length with old | new
    · rw [List.getElem?_append_left old] at found
      exact h.told number le session' asked found
    · rw [List.getElem?_append_right new, List.getElem?_singleton] at found
      split at found
      · obtain ⟨-, same⟩ := Prod.mk.inj (Option.some.inj found)
        exact fits asked same
      · cases found

/-- So is one that a session may turn away. -/
theorem ask (h : engine.Served profile base others) (session : SessionId)
    (fits : ∀ asked, request = .configure asked → asked = profile) :
    (Session.request engine session request).1.Served profile base
      ((Session.request engine session request).2.2.toOption.toList ++ others) := by
  unfold Session.request
  cases engine.isDisposed session with
  | true => exact h
  | false => exact h.issue session fits

/-- A request that one call has waited for is no longer under way. -/
theorem without (h : engine.Served profile base (number :: others)) (counted : engine'.Counted)
    (made : engine'.made = engine.made)
    (claims : engine'.claims = engine.claims.filter (·.1 ≠ number)) :
    engine'.Served profile base others where
  counted := counted
  owners := by
    have nodup : (number :: others).Nodup := h.owners.nodup_iff.mp h.counted.nodup
    rw [underway_without claims]
    refine (h.owners.filter _).trans ?_
    rw [List.filter_cons_of_neg (by simp)]
    refine List.Perm.of_eq (List.filter_eq_self.mpr fun other mem => ?_)
    exact decide_eq_true fun same => (List.nodup_cons.mp nodup).1 (same ▸ mem)
  made := made ▸ h.made
  underway number' mem := by
    rw [underway_without claims] at mem
    exact h.underway number' (List.mem_filter.mp mem).1
  told := by rw [made]; exact h.told

theorem collect? (h : engine.Served profile base (number :: others))
    {answer : Except EngineFailure Unit}
    (collected : engine.collect? number = some (engine', answer)) :
    engine'.Served profile base others :=
  h.without (h.counted.collect? collected) (made_collect? collected) (claims_collect? collected)

theorem cancel (h : engine.Served profile base (number :: others)) :
    (engine.cancel number).Served profile base others :=
  h.without (h.counted.cancel number) (made_cancel engine number) claims_cancel

/-- A request that is over stays so. -/
theorem ended (h : engine.Served profile base tickets) (gone : base.Over number) :
    engine.Over number := by
  obtain ⟨lt, gone⟩ := gone
  refine ⟨Nat.lt_of_lt_of_le lt h.made.length_le, fun mem => ?_⟩
  exact (h.underway number mem).elim gone fun le => Nat.not_lt_of_le le lt

/-- A request keeps its place. -/
theorem getElem? (h : engine.Served profile base tickets) {asked : SessionId × Request}
    (found : base.made[number]? = some asked) : engine.made[number]? = some asked := by
  obtain ⟨more, same⟩ := h.made
  rw [← same, List.getElem?_append_left (List.getElem?_eq_some_iff.mp found).1]
  exact found

end Served

end Engine

/-! ## On the way to a session -/

/-- The requests that a forwarding waits for. -/
def Forwarding.tickets (forwarding : Forwarding) : List TicketId :=
  forwarding.ticket?.toList

/-- The requests that a call on the way to a session waits for. -/
def SyncCall.tickets (call : SyncCall) : List TicketId :=
  call.current?.toList.flatMap Forwarding.tickets

namespace Sync
variable {sync after : Sync} {forwarding : Forwarding} {moves : List LaneMove}
  {others : List TicketId} {base : Engine} {profile : Profile}

theorem tickets_calling {lane : LaneId} {turn : TurnId} {ticket : TicketId}
    (calling : forwarding.stage = .calling lane turn ticket) : forwarding.tickets = [ticket] := by
  simp [Forwarding.tickets, Forwarding.ticket?, calling]

theorem tickets_queued {lane : LaneId} {turn : TurnId}
    (queued : forwarding.stage = .queued lane turn) : forwarding.tickets = [] := by
  simp [Forwarding.tickets, Forwarding.ticket?, queued]

theorem tickets_arriving (arriving : forwarding.stage = .arriving) : forwarding.tickets = [] := by
  simp [Forwarding.tickets, Forwarding.ticket?, arriving]

theorem Hop.served {progress : Progress Forwarding ForwardingResult}
    (hop : Hop sync forwarding moves after progress)
    (h : sync.engine.Served profile base (forwarding.tickets ++ others)) :
    after.engine.Served profile base (progress.rest.flatMap Forwarding.tickets ++ others) := by
  cases hop with
  | skip arriving untracked =>
    rw [tickets_arriving arriving] at h
    split <;> exact h
  | reach arriving tracked entered =>
    rw [tickets_arriving arriving] at h
    exact h
  | refuse queued holds disposed =>
    rw [tickets_queued queued] at h
    exact h
  | issue queued holds open' =>
    rw [tickets_queued queued] at h
    refine h.issue sync.session fun asked same => ?_
    have document := forwarding.request_isDocument
    rw [same] at document
    cases document
  | collect calling collected =>
    rw [tickets_calling calling] at h
    exact h.collect? collected

theorem poll_served (h : sync.engine.Served profile base (forwarding.tickets ++ others)) :
    (sync.poll forwarding).1.engine.Served profile base
      ((sync.poll forwarding).2.rest.flatMap Forwarding.tickets ++ others) :=
  (sync.poll_hops forwarding).carries
    (fun after rest => after.engine.Served profile base (rest.flatMap Forwarding.tickets ++ others))
    (fun kept hop => hop.served (by simpa using kept)) (by simpa using h)

theorem ReplayHop.served {replay : Replay} {progress : Progress Replay (Except EngineFailure Nat)}
    (hop : ReplayHop sync replay moves after progress)
    (h : sync.engine.Served profile base ((SyncCall.replay replay).tickets ++ others)) :
    after.engine.Served profile base
      (progress.rest.flatMap (SyncCall.tickets ∘ .replay) ++ others) := by
  cases hop with
  | next doc rest forwarded total => exact h
  | @go forwarding rest forwarded total moves after outcome hop =>
    have stepped := hop.served (by simpa [SyncCall.tickets, SyncCall.current?] using h)
    rcases outcome with forwarding' | failure | taken
    · simpa [continued, SyncCall.tickets, SyncCall.current?] using stepped
    · exact stepped
    · exact stepped
  | done forwarded total => exact h

theorem pollReplay_served {replay : Replay}
    (h : sync.engine.Served profile base ((SyncCall.replay replay).tickets ++ others)) :
    (sync.pollReplay replay).1.engine.Served profile base
      ((sync.pollReplay replay).2.rest.flatMap (SyncCall.tickets ∘ .replay) ++ others) :=
  (sync.pollReplay_hops replay).carries (fun after rest =>
    after.engine.Served profile base (rest.flatMap (SyncCall.tickets ∘ .replay) ++ others))
    (fun kept hop => hop.served (by simpa using kept)) (by simpa using h)

theorem pollCall_served {call : SyncCall}
    (h : sync.engine.Served profile base (call.tickets ++ others)) :
    (sync.pollCall call).1.engine.Served profile base
      ((sync.pollCall call).2.rest.flatMap SyncCall.tickets ++ others) := by
  cases call with
  | forward forwarding =>
    have polled := @poll_served sync forwarding others base profile
      (by simpa [SyncCall.tickets, SyncCall.current?] using h)
    simp only [pollCall, Progress.rest_map, List.flatMap_map]
    simpa [SyncCall.tickets, SyncCall.current?] using polled
  | replay replay =>
    simp only [pollCall, Progress.rest_map, List.flatMap_map]
    exact pollReplay_served h

/-- Whoever is given up waits no longer. -/
theorem cancel_served (h : sync.engine.Served profile base (forwarding.tickets ++ others)) :
    (sync.cancel forwarding).engine.Served profile base others := by
  unfold cancel
  cases stage : forwarding.stage with
  | arriving =>
    rw [tickets_arriving stage] at h
    exact h
  | queued lane turn =>
    rw [tickets_queued stage] at h
    exact h
  | calling lane turn ticket =>
    rw [tickets_calling stage] at h
    exact h.cancel

theorem cancelCall_served {call : SyncCall}
    (h : sync.engine.Served profile base (call.tickets ++ others)) :
    (sync.cancelCall call).engine.Served profile base others := by
  cases call with
  | forward forwarding =>
    exact cancel_served (by simpa [SyncCall.tickets, SyncCall.current?] using h)
  | replay replay =>
    obtain ⟨_ | forwarding, waiting, forwarded, total⟩ := replay
    · exact h
    · exact cancel_served (by simpa [SyncCall.tickets, SyncCall.current?] using h)

end Sync

/-! ## Changes of the configuration -/

/-- The requests that a change under way waits for. -/
def RouteCall.tickets : RouteCall → List TicketId
  | .arriving _ => []
  | .applying _ ticket => [ticket]

namespace Environment
variable {env : Environment} {base : Engine} {profile : Profile} {others : List TicketId}

theorem collectProfile?_engine {asked : Profile} {ticket : TicketId} {after : Environment}
    {answer : Except EngineFailure Unit}
    (h : env.collectProfile? asked ticket = some (after, answer)) :
    env.engine.collect? ticket = some (after.engine, answer) := by
  obtain ⟨⟨engine, answer'⟩, collected, same⟩ := Option.map_eq_some_iff.mp h
  cases same
  exact collected

theorem collectProfile?_unanswered {asked : Profile} {ticket : TicketId}
    (h : env.engine.collect? ticket = none) : env.collectProfile? asked ticket = none :=
  Option.map_eq_none_iff.mpr h

theorem collectProfile?_answered {asked : Profile} {ticket : TicketId} {engine : Engine}
    {answer : Except EngineFailure Unit}
    (h : env.engine.collect? ticket = some (engine, answer)) :
    env.collectProfile? asked ticket =
      some (({ env with engine } : Environment).log (Session.appliedEntries asked answer),
        answer) :=
  Option.map_eq_some_iff.mpr ⟨(engine, answer), h, rfl⟩

/-- A profile is handed to the engine, or the session was disposed. -/
theorem applyProfile_served (session : SessionId) (h : env.engine.Served profile base others) :
    (env.applyProfile session profile).1.engine.Served profile base
      ((env.applyProfile session profile).2.toOption.toList ++ others) :=
  h.ask session fun _ same => (Request.configure.inj same).symm

theorem pollApplying_served {asked : Profile} {ticket : TicketId}
    (h : env.engine.Served profile base (ticket :: others)) :
    (Router.pollApplying env asked ticket).1.engine.Served profile base
      ((Router.pollApplying env asked ticket).2.rest.flatMap RouteCall.tickets ++ others) := by
  unfold Router.pollApplying
  cases collected : env.collectProfile? asked ticket with
  | none => exact h
  | some outcome => exact h.collect? (collectProfile?_engine collected)

/-! ### What makes no request -/

theorem still_releasePlain (env : Environment) (release : Release) :
    env.engine.Still (env.releasePlain release).engine := by
  cases release with
  | session id => exact .dispose env.engine id
  | diagnostics | provider | subscription | gate => exact .refl env.engine

theorem still_disposeEach {dispose : Environment → HandleId → Environment × Bool}
    (still : ∀ (env : Environment) id, env.engine.Still (dispose env id).1.engine)
    (env : Environment) (ids : List HandleId) :
    env.engine.Still (disposeEach dispose env ids).1.engine := by
  induction ids generalizing env with
  | nil => exact .refl env.engine
  | cons id rest ih => exact (still env id).trans (ih _)

theorem still_disposePlain (env : Environment) (id : HandleId) :
    env.engine.Still (env.disposePlain id).1.engine := by
  unfold disposePlain
  cases taken : env.take? id with
  | none => exact .refl env.engine
  | some outcome =>
    obtain ⟨label, -, same⟩ := @take?_eq env outcome.1 id outcome.2 taken
    have kept : outcome.1.engine = env.engine := by rw [same]; rfl
    exact kept ▸ still_releasePlain outcome.1 outcome.2

theorem still_disableGate (env : Environment) (id : GateId) :
    env.engine.Still (env.disableGate id).1.engine := by
  unfold disableGate
  dsimp only
  split
  · exact .refl env.engine
  · exact still_disposeEach still_disposePlain (env.setGate id _) _

theorem engine_registerProviders (env : Environment) (language : String)
    (kinds : List ProviderKind) :
    (env.registerProviders language kinds).1.engine = env.engine := by
  induction kinds generalizing env with
  | nil => rfl
  | cons kind kinds ih => exact ih _

theorem still_setEnabled (env : Environment) (id : GateId) (enabled : Bool) :
    env.engine.Still (env.setEnabled id enabled).1.engine := by
  unfold setEnabled enableGate
  split
  · split
    · exact .refl env.engine
    · have same := engine_registerProviders env (env.formattingGate id).language
        ProviderKind.formatting
      dsimp only
      split
      · exact same ▸ .refl env.engine
      · exact same ▸ still_disposeEach still_disposePlain _ _
  · exact still_disableGate env id

theorem still_dispose (env : Environment) (id : HandleId) :
    env.engine.Still (env.dispose id).1.engine := by
  unfold dispose
  cases taken : env.take? id with
  | none => exact .refl env.engine
  | some outcome =>
    obtain ⟨label, -, same⟩ := @take?_eq env outcome.1 id outcome.2 taken
    have kept : outcome.1.engine = env.engine := by rw [same]; rfl
    have runs : outcome.1.engine.Still (outcome.1.runRelease outcome.2).engine := by
      cases outcome.2 with
      | gate id => exact still_disableGate outcome.1 id
      | session | diagnostics | provider | subscription => exact still_releasePlain outcome.1 _
    exact kept ▸ runs

theorem still_disposeAll (env : Environment) (owner : Disposables) :
    env.engine.Still (env.disposeAll owner).1.engine := by
  have each := still_disposeEach still_dispose env owner.held.reverse
  unfold disposeAll
  dsimp only
  split <;> exact each

/-! ### Routing -/

theorem routing_served (router : Router) {call : RouteCall}
    (h : env.engine.Served env.profile.2 base (call.tickets ++ others)) :
    (router.poll env call).1.engine.Served env.profile.2 base
      ((router.poll env call).2.rest.flatMap RouteCall.tickets ++ others) := by
  cases call with
  | applying asked ticket => exact pollApplying_served h
  | arriving change =>
    simp only [Router.poll, Router.route]
    split
    · -- the profile as it is now is handed to the engine
      have applies := @applyProfile_served (env.profile.1.log [.routeProfile ConfigChange.profileKey
        env.profile.2]) base env.profile.2 others router.session h
      unfold Router.routeProfile
      dsimp only
      revert applies
      rcases (env.profile.1.log _).applyProfile router.session env.profile.2 with
        ⟨env', failure | ticket⟩ <;> intro applies
      · exact applies
      · exact pollApplying_served applies
    · split
      · have sets := still_setEnabled (env.formatting.1.log [.routeFormatting
          ConfigChange.formattingKey env.formatting.2]) router.gate env.formatting.2
        exact h.still sets
      · exact h

/-- A change that is given up waits no longer. -/
theorem cancelRoute_served {call : RouteCall}
    (h : env.engine.Served profile base (call.tickets ++ others)) :
    (Router.cancel env call).engine.Served profile base others := by
  cases call with
  | arriving change => exact h
  | applying asked ticket => exact h.cancel

end Environment
end EngineSync
