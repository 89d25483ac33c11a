import EngineSync.Proofs.Queues
import EngineSync.Proofs.Requests

/-!
# Documents that share a way

Events of any documents and profiles go to one session, the engine answers one call after the other
when it likes, calls are given up, and the session is disposed.  A run is told from outside: every
call has a name, which says what it is about, so that some calls can be taken out of a run and the
rest stays the same text.  Between the steps of a run the engine has answered nothing that its
caller has not heard of (`Shared.Calm`).
-/
namespace EngineSync

/-- The first of a list that has a property, with what stands before and behind it. -/
def split? {α : Type} (p : α → Bool) : List α → Option (List α × α × List α)
  | [] => none
  | x :: rest =>
    if p x then some ([], x, rest)
    else (split? p rest).map fun (before, found, after) => (x :: before, found, after)

theorem split?_eq_some {α : Type} {p : α → Bool} {list before after : List α} {found : α}
    (h : split? p list = some (before, found, after)) :
    list = before ++ found :: after ∧ p found = true := by
  induction list generalizing before with
  | nil => cases h
  | cons x rest ih =>
    unfold split? at h
    split at h
    · cases h
      exact ⟨rfl, ‹_›⟩
    · obtain ⟨⟨before', found', after'⟩, first, same⟩ := Option.map_eq_some_iff.mp h
      cases same
      obtain ⟨rfl, own⟩ := ih first
      exact ⟨rfl, own⟩

/-- What is found among those that are seen is what was found among all. -/
theorem split?_filterMap {α β : Type} {p : α → Bool} {q : β → Bool} {f : α → Option β}
    (own : ∀ x, p x = true ↔ ∃ y, f x = some y ∧ q y = true) (list : List α) :
    split? q (list.filterMap f) = (split? p list).bind fun (before, found, after) =>
      (f found).map fun seen => (before.filterMap f, seen, after.filterMap f) := by
  induction list with
  | nil => rfl
  | cons x rest ih =>
    rw [split?]
    cases seen : f x with
    | none =>
      have other : ¬p x = true := fun here => by
        obtain ⟨y, found, -⟩ := (own x).mp here
        cases seen.symm.trans found
      rw [List.filterMap_cons_none seen, ih, if_neg other]
      cases split? p rest with
      | none => rfl
      | some found =>
        obtain ⟨before, found, after⟩ := found
        simp [List.filterMap_cons_none seen]
    | some y =>
      rw [List.filterMap_cons_some seen, split?]
      by_cases here : q y = true
      · rw [if_pos here, if_pos ((own x).mpr ⟨y, seen, here⟩)]
        simp [seen]
      · have other : ¬p x = true := fun there => by
          obtain ⟨z, found, same⟩ := (own x).mp there
          cases seen.symm.trans found
          exact here same
        rw [if_neg here, ih, if_neg other]
        cases split? p rest with
        | none => rfl
        | some found =>
          obtain ⟨before, found, after⟩ := found
          cases last : f found <;> simp [List.filterMap_cons_some seen, last]

/-- What a call is about. -/
inductive Subject where
  | document (uri : Uri)
  | configuration
deriving DecidableEq, Repr

/-- The name of a call. -/
structure Caller where
  subject : Subject
  number : Nat
deriving DecidableEq, Repr

/-- A call of those who share a way: a document on its way to the engine, or a profile, with the
request if the engine has it. -/
inductive SharedCall where
  | forward (number : Nat) (forwarding : Forwarding)
  | configure (number : Nat) (profile : Profile) (ticket : Option TicketId)
deriving DecidableEq, Repr

/-- What comes of a call. -/
inductive SharedResult where
  | forwarded (result : ForwardingResult)
  | configured (result : Except EngineFailure Unit)
deriving DecidableEq, Repr

namespace SharedCall

/-- The name of a call. -/
def caller : SharedCall → Caller
  | .forward number forwarding => ⟨.document forwarding.doc.uri, number⟩
  | .configure number _ _ => ⟨.configuration, number⟩

/-- The place of a call in the lane of its document. -/
def place? : SharedCall → Option Place
  | .forward _ forwarding => forwarding.place?
  | .configure .. => none

/-- The request of a call that the engine has. -/
def ticket? : SharedCall → Option TicketId
  | .forward _ forwarding => forwarding.ticket?
  | .configure _ _ ticket => ticket

/-- What a call asks for. -/
def request : SharedCall → Request
  | .forward _ forwarding => forwarding.request
  | .configure _ profile _ => .configure profile

end SharedCall

namespace Sync

/-- Looks for the engine's answer to a profile. -/
def pollConfigured (sync : Sync) (number : Nat) (profile : Profile) (ticket : TicketId) :
    Sync × Progress SharedCall SharedResult :=
  match sync.engine.collect? ticket with
  | none => (sync, .pending (.configure number profile (some ticket)))
  | some (engine, answer) => ({ sync with engine }, .finished (.configured answer))

/-- Lets a call go on as far as it can. -/
def pollShared (sync : Sync) : SharedCall → Sync × Progress SharedCall SharedResult
  | .forward number forwarding =>
    let (sync, progress) := sync.poll forwarding
    (sync, progress.map (SharedCall.forward number) SharedResult.forwarded)
  | .configure number profile (some ticket) => sync.pollConfigured number profile ticket
  | .configure number profile none =>
    let (engine, journal, issued) :=
      Session.request sync.engine sync.session (.configure profile)
    let sync := { sync with engine }.log journal
    match issued with
    | .error failure => (sync, .finished (.configured (.error failure)))
    | .ok ticket => sync.pollConfigured number profile ticket

/-- Gives up a call. -/
def cancelShared (sync : Sync) : SharedCall → Sync
  | .forward _ forwarding => sync.cancel forwarding
  | .configure _ _ (some ticket) => { sync with engine := sync.engine.cancel ticket }
  | .configure _ _ none => sync

end Sync

/-- The way that calls share, the calls under way in the order in which they were started, and who
has heard what so far: the engine's completed requests by their keys, and results. -/
structure Shared where
  sync : Sync
  calls : List SharedCall
  completed : List (Caller × String)
  results : List (Caller × SharedResult)

/-- A step of a run. -/
inductive SharedStep where
  | opened (number : Nat) (doc : Document)
  | changed (number : Nat) (doc : Document)
  | closed (number : Nat) (doc : Document)
  | configure (number : Nat) (profile : Profile)
  | go (caller : Caller)
  | answer (caller : Caller)
  | cancel (caller : Caller)
  | refuse (refusals : Refusals)
  | dispose
deriving DecidableEq, Repr

/-- A step that concerns a document: one of its own calls, or what concerns everybody, that is what
the engine refuses and the disposal of the session. -/
def SharedStep.concerns (uri : Uri) : SharedStep → Bool
  | .opened _ doc | .changed _ doc | .closed _ doc => doc.uri = uri
  | .configure .. => false
  | .go caller | .answer caller | .cancel caller => caller.subject = .document uri
  | .refuse _ | .dispose => true

namespace Shared

/-- Nobody is on the way yet. -/
def start (sync : Sync) : Shared :=
  ⟨sync, [], [], []⟩

/-- A call begins. -/
def begin (shared : Shared) (call : SharedCall) : Shared :=
  { shared with calls := shared.calls ++ [call] }

/-- What a chance of a call leaves. -/
def settle (shared : Shared) (before : List SharedCall) (caller : Caller) (after : List SharedCall)
    (outcome : Sync × Progress SharedCall SharedResult) : Shared where
  sync := outcome.1
  calls := before ++ outcome.2.rest ++ after
  completed := shared.completed ++
    (outcome.1.engine.completed.drop shared.sync.engine.completed.length).map (caller, ·)
  results := shared.results ++ outcome.2.result.map (caller, ·)

/-- One step.  The engine's answer to a call is heard as soon as it is there; a step on a call that
is not under way, or an answer to one that the engine does not have, does nothing. -/
def step (shared : Shared) : SharedStep → Shared
  | .opened number doc | .changed number doc => shared.begin (.forward number (.update doc))
  | .closed number doc => shared.begin (.forward number (.close doc))
  | .configure number profile => shared.begin (.configure number profile none)
  | .go caller =>
    match split? (·.caller = caller) shared.calls with
    | none => shared
    | some (before, call, after) =>
      shared.settle before caller after (shared.sync.pollShared call)
  | .answer caller =>
    match split? (·.caller = caller) shared.calls with
    | none => shared
    | some (before, call, after) =>
      match call.ticket? with
      | none => shared
      | some ticket =>
        shared.settle before caller after
          ({ shared.sync with engine := shared.sync.engine.grant ticket }.pollShared call)
  | .cancel caller =>
    match split? (·.caller = caller) shared.calls with
    | none => shared
    | some (before, call, after) =>
      { shared with sync := shared.sync.cancelShared call, calls := before ++ after }
  | .refuse refusals => { shared with sync.engine.refusals := refusals }
  | .dispose =>
    let (engine, journal, _) := Session.dispose shared.sync.engine shared.sync.session
    { shared with sync := { shared.sync with engine }.log journal }

/-- Steps one after another. -/
def run (shared : Shared) (steps : List SharedStep) : Shared :=
  steps.foldl step shared

end Shared

/-- The calls about a document that the engine has recorded. -/
def Engine.callsAbout (engine : Engine) (uri : Uri) : List EngineCall :=
  engine.calls.filter fun call => call.asking?.bind (·.2.uri?) = some uri

/-! ## Requests that nobody was answered -/

/-- The entry of a call at the engine; one number at most has been answered. -/
def SharedCall.entry? (session : SessionId) (answered : Option TicketId) (call : SharedCall) :
    Option Ticket :=
  call.ticket?.map fun ticket => ⟨ticket, session, call.request, answered = some ticket⟩

/-- The engine has the requests of some calls and no others, and keeps no permit. -/
structure Engine.Calm (engine : Engine) (session : SessionId) (answered : Option TicketId)
    (calls : List SharedCall) : Prop where
  permits : engine.permits = []
  tickets : engine.tickets.Perm (calls.filterMap (SharedCall.entry? session answered))
  ids : (engine.tickets.map (·.id)).Nodup
  lt : ∀ ticket ∈ engine.tickets, ticket.id < engine.nextTicket

namespace Engine
variable {engine : Engine} {session : SessionId} {answered : Option TicketId} {ticket : TicketId}
  {call call' : SharedCall} {calls before after : List SharedCall} {request : Request}

theorem Calm.perm {calls' : List SharedCall} (h : engine.Calm session answered calls)
    (hp : calls.Perm calls') : engine.Calm session answered calls' :=
  ⟨h.permits, h.tickets.trans (hp.filterMap _), h.ids, h.lt⟩

/-- The call of a request that the engine has. -/
theorem Calm.mem (h : engine.Calm session answered (call :: calls))
    (own : call.ticket? = some ticket) :
    (⟨ticket, session, call.request, answered = some ticket⟩ : Ticket) ∈ engine.tickets := by
  refine h.tickets.mem_iff.mpr (List.mem_filterMap.mpr ⟨call, List.mem_cons_self, ?_⟩)
  simp [SharedCall.entry?, own]

theorem Calm.find? (h : engine.Calm session answered (call :: calls))
    (own : call.ticket? = some ticket) : engine.tickets.find? (·.id = ticket) =
      some ⟨ticket, session, call.request, answered = some ticket⟩ := by
  have mem := h.mem own
  cases found : engine.tickets.find? (·.id = ticket) with
  | none => simpa using List.find?_eq_none.mp found _ mem
  | some entry =>
    have same : entry.id = ticket := by simpa using List.find?_some found
    rw [List.inj_on_of_nodup_map h.ids (List.mem_of_find?_eq_some found) mem same]

/-- Without the request of a call the engine has the others. -/
theorem Calm.without (h : engine.Calm session answered (call :: calls))
    (own : call.ticket? = some ticket) (alone : answered = none ∨ answered = some ticket) :
    (engine.tickets.filter (·.id ≠ ticket)).Perm
      (calls.filterMap (SharedCall.entry? session none)) := by
  have entry : call.entry? session answered =
      some ⟨ticket, session, call.request, answered = some ticket⟩ := by
    simp [SharedCall.entry?, own]
  have tickets := h.tickets
  rw [List.filterMap_cons_some entry] at tickets
  have ids := (tickets.map (·.id)).nodup_iff.mp h.ids
  rw [List.map_cons, List.nodup_cons] at ids
  refine (tickets.filter _).trans ?_
  rw [List.filter_cons_of_neg (by simp)]
  -- nobody else has this number, so nobody else was answered
  have others : ∀ other ∈ calls, other.entry? session answered = other.entry? session none := by
    intro other mem
    unfold SharedCall.entry?
    cases number : other.ticket? with
    | none => rfl
    | some ticket' =>
      have ne : ticket' ≠ ticket := by
        rintro rfl
        refine ids.1 (List.mem_map.mpr
          ⟨⟨ticket', session, other.request, answered = some ticket'⟩,
            List.mem_filterMap.mpr ⟨other, mem, ?_⟩, rfl⟩)
        simp [SharedCall.entry?, number]
      rcases alone with rfl | rfl
      · rfl
      · simp [Ne.symm ne]
  rw [List.filterMap_congr others] at ids ⊢
  rw [List.filter_eq_self.mpr fun entry mem => ?_]
  have ne : entry.id ≠ ticket := fun same => ids.1 (List.mem_map.mpr ⟨entry, mem, same⟩)
  simpa using ne

/-- A call that the engine does not have makes no difference. -/
theorem Calm.cons_iff (nothing : call.ticket? = none) :
    engine.Calm session answered (call :: calls) ↔ engine.Calm session answered calls := by
  have none : call.entry? session answered = Option.none := by simp [SharedCall.entry?, nothing]
  constructor
  · rintro ⟨permits, tickets, ids, lt⟩
    rw [List.filterMap_cons_none none] at tickets
    exact ⟨permits, tickets, ids, lt⟩
  · rintro ⟨permits, tickets, ids, lt⟩
    refine ⟨permits, ?_, ids, lt⟩
    rw [List.filterMap_cons_none none]
    exact tickets

/-- The answer of the engine to a call that has it. -/
theorem Calm.collect?_own (h : engine.Calm session (some ticket) (call :: calls))
    (own : call.ticket? = some ticket) : engine.collect? ticket =
      some ({ engine with
        tickets := engine.tickets.filter (·.id ≠ ticket)
        completed := engine.completed ++ [call.request.key] }, engine.answer call.request) := by
  unfold collect?
  rw [h.find? own]
  simp

theorem Calm.collect?_none (h : engine.Calm session none (call :: calls))
    (own : call.ticket? = some ticket) : engine.collect? ticket = none := by
  unfold collect?
  rw [h.find? own]
  simp

theorem Calm.collected (h : engine.Calm session (some ticket) (call :: calls))
    (own : call.ticket? = some ticket) (completed : List String) :
    Calm { engine with tickets := engine.tickets.filter (·.id ≠ ticket), completed }
      session none calls where
  permits := h.permits
  tickets := h.without own (.inr rfl)
  ids := h.ids.sublist (List.filter_sublist.map _)
  lt entry mem := h.lt entry (List.mem_of_mem_filter mem)

/-- The engine answers a call. -/
theorem Calm.grant (h : engine.Calm session none calls) (ticket : TicketId) :
    (engine.grant ticket).Calm session (some ticket) calls where
  permits := h.permits
  tickets := by
    refine (h.tickets.map _).trans (List.Perm.of_eq ?_)
    rw [List.map_filterMap]
    refine List.filterMap_congr fun other _ => ?_
    unfold SharedCall.entry?
    cases other.ticket? with
    | none => rfl
    | some ticket' =>
      by_cases same : ticket' = ticket
      · simp [same]
      · simp [same, Ne.symm same]
  ids := by
    have same : (engine.grant ticket).tickets.map (·.id) = engine.tickets.map (·.id) := by
      simp only [Engine.grant, List.map_map]
      refine List.map_congr_left fun entry _ => ?_
      by_cases own : entry.id = ticket <;> simp [own]
    rw [same]
    exact h.ids
  lt entry mem := by
    obtain ⟨old, there, rfl⟩ := List.mem_map.mp mem
    have lt := h.lt old there
    split <;> exact lt

/-- The engine loses a call that it has not answered. -/
theorem Calm.cancel (h : engine.Calm session none (call :: calls))
    (own : call.ticket? = some ticket) : engine.cancel ticket =
        { engine with tickets := engine.tickets.filter (·.id ≠ ticket) } ∧
      (engine.cancel ticket).Calm session none calls := by
  have lost : engine.cancel ticket =
      { engine with tickets := engine.tickets.filter (·.id ≠ ticket) } := by
    unfold Engine.cancel
    rw [h.find? own]
    simp
  refine ⟨lost, ?_⟩
  rw [lost]
  exact ⟨h.permits, h.without own (.inl rfl), h.ids.sublist (List.filter_sublist.map _),
    fun entry mem => h.lt entry (List.mem_of_mem_filter mem)⟩

/-- A request to an engine that keeps no permit. -/
theorem issue_calm (permits : engine.permits = []) (session : SessionId) (request : Request) :
    engine.issue session request =
      ({ engine with
        calls := engine.calls ++ [.request session request]
        tickets := engine.tickets ++
          [⟨engine.nextTicket, session, request, !engine.gated.contains request.key⟩]
        nextTicket := engine.nextTicket + 1 }, engine.nextTicket) := by
  cases gated : engine.gated.contains request.key <;>
    simp only [issue, record, permits, gated] <;> rfl

theorem Calm.issue (h : engine.Calm session none (call :: calls)) (fresh : call.ticket? = none)
    (same : call'.request = call.request) (own : call'.ticket? = some engine.nextTicket) :
    (engine.issue session call.request).1.Calm session
      (if engine.gated.contains call.request.key then none else some engine.nextTicket)
      (call' :: calls) := by
  rw [issue_calm h.permits]
  have before := (Calm.cons_iff fresh).mp h
  refine ⟨h.permits, ?_, ?_, fun entry mem => ?_⟩
  · have entry : call'.entry? session
        (if engine.gated.contains call.request.key then none else some engine.nextTicket) =
        some ⟨engine.nextTicket, session, call.request, !engine.gated.contains call.request.key⟩ := by
      cases gated : engine.gated.contains call.request.key <;>
        simp [SharedCall.entry?, own, same]
    rw [List.filterMap_cons_some entry]
    refine List.perm_append_comm.trans (List.Perm.cons _ (before.tickets.trans (.of_eq ?_)))
    refine List.filterMap_congr fun other mem => ?_
    unfold SharedCall.entry?
    cases number : other.ticket? with
    | none => rfl
    | some ticket' =>
      -- older calls have smaller numbers
      have older := before.lt ⟨ticket', session, other.request, none = some ticket'⟩
        (before.tickets.mem_iff.mpr (List.mem_filterMap.mpr
          ⟨other, mem, by simp [SharedCall.entry?, number]⟩))
      have ne : engine.nextTicket ≠ ticket' := Nat.ne_of_gt older
      split <;> simp [ne]
  · rw [List.map_append, List.nodup_append]
    refine ⟨h.ids, by simp, fun id old other new => ?_⟩
    obtain ⟨entry, mem, rfl⟩ := List.mem_map.mp old
    have last : other = engine.nextTicket := by simpa using new
    rw [last]
    exact Nat.ne_of_lt (h.lt entry mem)
  · rcases List.mem_append.mp mem with old | new
    · exact Nat.lt_succ_of_lt (h.lt entry old)
    · rw [List.mem_singleton.mp new]
      exact Nat.lt_succ_self _

end Engine
end EngineSync
