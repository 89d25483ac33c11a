import EngineSync.Session

/-!
# Calls at the engine

What each operation of the engine does to the calls under way, in one equation each.  A call under
way keeps its number and its request until it is answered or given up, so `Engine.claims` forgets
everything else: permits and answers leave the claims alone, a request adds one at the end, and an
end takes one away.
-/
namespace EngineSync

/-- The document a request is about. -/
def Request.uri? : Request → Option Uri
  | .update uri _ _ | .close uri => some uri
  | .configure _ => none

/-- What stays of a call under way as long as it is under way: number, session and request. -/
def Ticket.claim (ticket : Ticket) : TicketId × SessionId × Request :=
  (ticket.id, ticket.session, ticket.request)

namespace Engine

/-- The calls under way. -/
def claims (engine : Engine) : List (TicketId × SessionId × Request) :=
  engine.tickets.map Ticket.claim

/-- The calls about a document that the engine has neither answered nor lost. -/
def outstanding (engine : Engine) (session : SessionId) (uri : Uri) : List Ticket :=
  engine.tickets.filter fun ticket => ticket.session = session ∧ ticket.request.uri? = some uri

/-- Lets a call under way complete, whether or not there is a permit for it. -/
def grant (engine : Engine) (id : TicketId) : Engine :=
  { engine with tickets := engine.tickets.map fun ticket =>
      if ticket.id = id then { ticket with granted := true } else ticket }

/-! ## One equation for each operation -/

theorem issue_eq (engine : Engine) (session : SessionId) (request : Request) :
    ∃ granted permits, engine.issue session request =
      ({ engine with
          calls := engine.calls ++ [.request session request]
          tickets := engine.tickets ++ [⟨engine.nextTicket, session, request, granted⟩]
          permits
          nextTicket := engine.nextTicket + 1 }, engine.nextTicket) := by
  unfold issue
  dsimp only [record]
  split
  · exact ⟨true, _, rfl⟩
  · split
    · exact ⟨true, _, rfl⟩
    · exact ⟨false, _, rfl⟩

theorem issue_sessions (engine : Engine) (session : SessionId) (request : Request) :
    (engine.issue session request).1.sessions = engine.sessions := by
  obtain ⟨granted, permits, issued⟩ := engine.issue_eq session request
  rw [issued]

theorem issue_calls (engine : Engine) (session : SessionId) (request : Request) :
    (engine.issue session request).1.calls = engine.calls ++ [.request session request] := by
  obtain ⟨granted, permits, issued⟩ := engine.issue_eq session request
  rw [issued]

theorem issue_answer (engine : Engine) (session : SessionId) (request asked : Request) :
    (engine.issue session request).1.answer asked = engine.answer asked := by
  obtain ⟨granted, permits, issued⟩ := engine.issue_eq session request
  rw [issued]
  rfl

theorem answer_ne_disposed (engine : Engine) (request : Request) :
    engine.answer request ≠ .error .disposed := by
  cases request <;> grind [answer]

theorem collect?_eq {engine after : Engine} {id : TicketId} {answer : Except EngineFailure Unit}
    (h : engine.collect? id = some (after, answer)) :
    ∃ ticket ∈ engine.tickets, ticket.id = id ∧ ticket.granted = true ∧
      answer = engine.answer ticket.request ∧
      after = { engine with
        tickets := engine.tickets.filter (·.id ≠ id)
        completed := engine.completed ++ [ticket.request.key] } := by
  unfold collect? at h
  cases found : engine.tickets.find? (·.id = id) with
  | none => simp [found] at h
  | some ticket =>
    simp only [found] at h
    split at h
    · rename_i granted
      obtain ⟨rfl, rfl⟩ := Prod.mk.inj (Option.some.inj h)
      exact ⟨ticket, List.mem_of_find?_eq_some found, by simpa using List.find?_some found,
        granted, rfl, rfl⟩
    · cases h

theorem grantFirst?_claims {key : String} {tickets granted : List Ticket}
    (h : grantFirst? key tickets = some granted) :
    granted.map Ticket.claim = tickets.map Ticket.claim := by
  induction tickets generalizing granted with
  | nil => cases h
  | cons ticket rest ih =>
    rw [grantFirst?] at h
    split at h
    · cases h
      rfl
    · obtain ⟨later, hl, rfl⟩ := Option.map_eq_some_iff.mp h
      rw [List.map_cons, List.map_cons, ih hl]

theorem release_eq (engine : Engine) (key : String) :
    ∃ tickets permits, engine.release key = { engine with tickets, permits } ∧
      tickets.map Ticket.claim = engine.claims := by
  unfold release
  cases found : grantFirst? key engine.tickets with
  | none => exact ⟨engine.tickets, _, rfl, rfl⟩
  | some tickets => exact ⟨tickets, engine.permits, rfl, grantFirst?_claims found⟩

theorem claims_without (engine : Engine) (id : TicketId) :
    claims { engine with tickets := engine.tickets.filter (·.id ≠ id) } =
      engine.claims.filter (·.1 ≠ id) := by
  simp only [claims, List.filter_map]
  rfl

theorem cancel_eq (engine : Engine) (id : TicketId) :
    ∃ tickets permits, engine.cancel id = { engine with tickets, permits } ∧
      tickets.map Ticket.claim = engine.claims.filter (·.1 ≠ id) := by
  unfold cancel
  cases found : engine.tickets.find? (·.id = id) with
  | none =>
    refine ⟨engine.tickets, engine.permits, rfl, ?_⟩
    refine (List.filter_eq_self.mpr fun claim hc => ?_).symm
    obtain ⟨ticket, ht, rfl⟩ := List.mem_map.mp hc
    have other : ¬ticket.id = id := by simpa using List.find?_eq_none.mp found ticket ht
    exact decide_eq_true other
  | some ticket =>
    dsimp only
    split
    · obtain ⟨tickets, permits, he, same⟩ :=
        release_eq { engine with tickets := engine.tickets.filter (·.id ≠ id) } ticket.request.key
      exact ⟨tickets, permits, he, same.trans (claims_without engine id)⟩
    · exact ⟨_, engine.permits, rfl, claims_without engine id⟩

/-! ## Claims -/

section
variable {engine after : Engine} {id : TicketId} {session : SessionId} {request : Request}

theorem claims_issue : (engine.issue session request).1.claims =
    engine.claims ++ [(engine.nextTicket, session, request)] := by
  obtain ⟨granted, permits, he⟩ := engine.issue_eq session request
  simp [he, claims, Ticket.claim]

theorem claims_collect? {answer : Except EngineFailure Unit}
    (h : engine.collect? id = some (after, answer)) :
    after.claims = engine.claims.filter (·.1 ≠ id) := by
  obtain ⟨ticket, -, -, -, -, rfl⟩ := collect?_eq h
  exact claims_without engine id

theorem claims_release (key : String) : (engine.release key).claims = engine.claims := by
  obtain ⟨tickets, permits, he, same⟩ := engine.release_eq key
  rw [he]
  exact same

theorem claims_grant : (engine.grant id).claims = engine.claims := by
  simp only [claims, grant, List.map_map]
  refine List.map_congr_left fun ticket _ => ?_
  by_cases h : ticket.id = id <;> simp [h, Ticket.claim]

theorem claims_cancel : (engine.cancel id).claims = engine.claims.filter (·.1 ≠ id) := by
  obtain ⟨tickets, permits, he, same⟩ := engine.cancel_eq id
  rw [he]
  exact same

end

end Engine
end EngineSync
