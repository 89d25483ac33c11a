import EngineSync.Proofs.WorldRun

/-!
# A past behind a world

A world goes on behind what was there before: engine calls, handles and all else that is numbered
come after those of the past, so every number is ahead by as much as the past has used up.  `Shift`
says by how much and how calls and requests read then, `Past` is what was there, and
`Past.environment` puts it in front.  Every operation on an environment does behind a past what it
does without one: its state has the past in front, and its result reads as the shift has it.  Here
are the engine, handles and listeners; what is said for sessions and activations builds on it.
-/
namespace EngineSync

/-- How far numbers are ahead.  Subscriptions of others keep the numbers they have, so these are
renamed and only those given from `seats` on follow each other. -/
structure Shift where
  session : SessionId
  collection : CollectionId
  handle : HandleId
  gate : GateId
  activation : ActivationId
  ticket : TicketId
  outside : Nat
  seats : SubscriptionId
  number : SubscriptionId → SubscriptionId
  number_injective : number.Injective
  number_succ : ∀ id, seats ≤ id → number (id + 1) = number id + 1

namespace Shift
variable (s : Shift)

/-! ## What is numbered -/

def engineCall : EngineCall → EngineCall
  | .load size => .load size
  | .create session => .create (s.session + session)
  | .request session request => .request (s.session + session) request
  | .dispose session => .dispose (s.session + session)

def ticketAt (ticket : Ticket) : Ticket :=
  { ticket with id := s.ticket + ticket.id, session := s.session + ticket.session }

def sessionState (session : SessionState) : SessionState :=
  { session with sink := session.sink.map (s.collection + ·) }

def release : Release → Release
  | .session id => .session (s.session + id)
  | .diagnostics id => .diagnostics (s.collection + id)
  | .provider kind => .provider kind
  | .subscription id => .subscription (s.number id)
  | .gate id => .gate (s.gate + id)

def handleAt (handle : Handle Release) : Handle Release :=
  { handle with release := handle.release.map s.release }

def handles (ids : List HandleId) : List HandleId :=
  ids.map (s.handle + ·)

def featureGate (gate : FeatureGate) : FeatureGate :=
  { gate with active := gate.active.map s.handles }

def formattingGate (gate : FormattingGate) : FormattingGate :=
  { gate with gate := s.featureGate gate.gate }

def listener : Listener → Listener
  | .activation id => .activation (s.activation + id)
  | .outside number => .outside number

def subscription (sub : Subscription Listener) : Subscription Listener :=
  ⟨s.number sub.id, sub.kind, s.listener sub.listener⟩

end Shift

/-- What was there before, and how the open documents and the answers from outside read then. -/
structure Past where
  calls : List EngineCall
  completed : List String
  tickets : TicketId
  sessions : List SessionState
  handles : List (Handle Release)
  gates : List FormattingGate
  collections : List DiagnosticsCollection
  ledger : Ledger
  journal : Journal
  activations : List Activation
  outsideCalls : Nat
  answers : List (Nat × Except EngineFailure Unit) → List (Nat × Except EngineFailure Unit)
  documents : List Document → List Document
  seats : SubscriptionId
  number : SubscriptionId → SubscriptionId
  number_injective : number.Injective
  number_succ : ∀ id, seats ≤ id → number (id + 1) = number id + 1

namespace Past
variable (p : Past)

/-- How far numbers are ahead behind a past. -/
def shift : Shift where
  session := p.sessions.length
  collection := p.collections.length
  handle := p.handles.length
  gate := p.gates.length
  activation := p.activations.length
  ticket := p.tickets
  outside := p.outsideCalls
  seats := p.seats
  number := p.number
  number_injective := p.number_injective
  number_succ := p.number_succ

/-- The engine with a past. -/
def engine (engine : Engine) : Engine :=
  { engine with
    calls := p.calls ++ engine.calls.map p.shift.engineCall
    completed := p.completed ++ engine.completed
    tickets := engine.tickets.map p.shift.ticketAt
    nextTicket := p.shift.ticket + engine.nextTicket
    sessions := p.sessions ++ engine.sessions.map p.shift.sessionState }

/-- Handles with a past. -/
def table (table : Handles Release) : Handles Release :=
  ⟨p.handles ++ table.all.map p.shift.handleAt⟩

/-- The bus with a past. -/
def bus (bus : EventBus Listener) : EventBus Listener :=
  ⟨p.shift.number bus.nextId, bus.subscriptions.map p.shift.subscription⟩

/-- The ledger with a past. -/
def ledgerAfter (ledger : Ledger) : Ledger :=
  ⟨p.ledger.changes ++ ledger.changes, p.ledger.bindings ++ ledger.bindings⟩

/-- The environment with a past. -/
def environment (env : Environment) : Environment where
  engine := p.engine env.engine
  files := env.files
  source := env.source
  bus := p.bus env.bus
  openDocuments := p.documents env.openDocuments
  handles := p.table env.handles
  gates := p.gates ++ env.gates.map p.shift.formattingGate
  collections := p.collections ++ env.collections
  ledger := p.ledgerAfter env.ledger
  journal := p.journal ++ env.journal

end Past

/-! ## Entries behind others -/

theorem getElem?_behind {α β : Type} (before : List β) (after : List α) (f : α → β) (place : Nat) :
    (before ++ after.map f)[before.length + place]? = after[place]?.map f := by
  rw [List.getElem?_append_right (Nat.le_add_right _ _), Nat.add_sub_cancel_left, List.getElem?_map]

theorem set_behind {α β : Type} (before : List β) (after : List α) (f : α → β) (place : Nat)
    (a : α) : (before ++ after.map f).set (before.length + place) (f a) =
      before ++ (after.set place a).map f := by
  rw [List.set_append_right _ _ (Nat.le_add_right _ _), Nat.add_sub_cancel_left, List.map_set]

theorem modify_behind {α β : Type} (before : List β) (after : List α) (f : α → β) (place : Nat)
    {g : α → α} {h : β → β} (commutes : ∀ a, h (f a) = f (g a)) :
    (before ++ after.map f).modify (before.length + place) h =
      before ++ (after.modify place g).map f := by
  induction before with
  | nil =>
    induction after generalizing place with
    | nil => simp
    | cons a after ih =>
      cases place with
      | zero => simp [commutes]
      | succ place => simpa using ih place
  | cons b before ih => simpa [Nat.succ_add] using ih

namespace Past
variable (p : Past)

/-! ## The engine -/

section Engine
variable (engine : Engine)

theorem engine_record (call : EngineCall) :
    (p.engine engine).record (p.shift.engineCall call) = p.engine (engine.record call) := by
  simp [Past.engine, Engine.record]

theorem engine_load (size : Nat) :
    (p.engine engine).load size = (engine.load size).map p.engine := by
  unfold Engine.load
  rw [show (p.engine engine).defects = engine.defects from rfl]
  cases engine.defects.load with
  | true => rfl
  | false => exact congrArg Except.ok (p.engine_record engine (.load size))

theorem engine_create (sink : Option CollectionId) :
    (p.engine engine).create (sink.map (p.shift.collection + ·)) =
      (engine.create sink).map (Prod.map p.engine (p.shift.session + ·)) := by
  unfold Engine.create
  rw [show (p.engine engine).refusals = engine.refusals from rfl]
  cases engine.refusals.create with
  | true => rfl
  | false =>
    simp [Past.engine, Engine.record, Except.map, Shift.engineCall, Shift.sessionState, Past.shift]

theorem engine_isDisposed (session : SessionId) :
    (p.engine engine).isDisposed (p.shift.session + session) = engine.isDisposed session := by
  have same : (p.engine engine).sessions[p.shift.session + session]? = _ :=
    getElem?_behind p.sessions engine.sessions p.shift.sessionState session
  rw [Engine.isDisposed, same, Engine.isDisposed, Option.map_map]
  rfl

/-- Reports go to a session behind the past as soon as there is one, and nowhere if there never
was. -/
theorem engine_newestSink (newest : engine.sessions = [] → p.sessions = []) :
    (p.engine engine).newestSink = engine.newestSink.map (p.shift.collection + ·) := by
  unfold Engine.newestSink Past.engine
  rw [List.getLast?_append, List.getLast?_map]
  by_cases none : engine.sessions = []
  · simp [none, newest none]
  · rw [List.getLast?_eq_some_getLast none]
    rfl

theorem engine_issue (session : SessionId) (request : Request) :
    (p.engine engine).issue (p.shift.session + session) request =
      (engine.issue session request).map p.engine (p.shift.ticket + ·) := by
  unfold Engine.issue
  rw [show (p.engine engine).record (.request (p.shift.session + session) request) =
    p.engine (engine.record (.request session request)) from p.engine_record engine (.request ..)]
  cases gated : engine.gated.contains request.key <;>
    cases permitted : engine.permits.contains request.key <;>
    simp_all [Past.engine, Engine.record, Shift.engineCall, Shift.ticketAt, Nat.add_assoc]

theorem find?_ticket (id : TicketId) :
    (p.engine engine).tickets.find? (·.id = p.shift.ticket + id) =
      (engine.tickets.find? (·.id = id)).map p.shift.ticketAt := by
  have same : (fun ticket : Ticket => decide (ticket.id = p.shift.ticket + id)) ∘
      p.shift.ticketAt = fun ticket => decide (ticket.id = id) := by
    funext ticket
    simp [Shift.ticketAt]
  show (engine.tickets.map p.shift.ticketAt).find? _ = _
  rw [List.find?_map, same]

theorem filter_ticket (id : TicketId) :
    (p.engine engine).tickets.filter (·.id ≠ p.shift.ticket + id) =
      (engine.tickets.filter (·.id ≠ id)).map p.shift.ticketAt := by
  simp [Past.engine, List.filter_map, Function.comp_def, Shift.ticketAt]

theorem engine_collect? (id : TicketId) : (p.engine engine).collect? (p.shift.ticket + id) =
    (engine.collect? id).map (Prod.map p.engine fun answer => answer) := by
  unfold Engine.collect?
  rw [p.find?_ticket, p.filter_ticket]
  cases engine.tickets.find? (·.id = id) with
  | none => rfl
  | some ticket =>
    cases granted : ticket.granted with
    | true => simp [granted, Past.engine, Shift.ticketAt]; rfl
    | false => simp [granted, Shift.ticketAt]

theorem grantFirst? (key : String) (tickets : List Ticket) :
    Engine.grantFirst? key (tickets.map p.shift.ticketAt) =
      (Engine.grantFirst? key tickets).map (·.map p.shift.ticketAt) := by
  induction tickets with
  | nil => rfl
  | cons ticket rest ih =>
    simp only [List.map_cons, Engine.grantFirst?, ih]
    rw [show (p.shift.ticketAt ticket).request = ticket.request from rfl,
      show (p.shift.ticketAt ticket).granted = ticket.granted from rfl]
    split
    · rfl
    · simp [Function.comp_def]

theorem engine_release (key : String) :
    (p.engine engine).release key = p.engine (engine.release key) := by
  unfold Engine.release
  rw [show (p.engine engine).tickets = engine.tickets.map p.shift.ticketAt from rfl, p.grantFirst?]
  cases Engine.grantFirst? key engine.tickets <;> rfl

theorem engine_cancel (id : TicketId) :
    (p.engine engine).cancel (p.shift.ticket + id) = p.engine (engine.cancel id) := by
  unfold Engine.cancel
  rw [p.find?_ticket, p.filter_ticket]
  cases engine.tickets.find? (·.id = id) with
  | none => rfl
  | some ticket =>
    have free := p.engine_release { engine with tickets := engine.tickets.filter (·.id ≠ id) }
      ticket.request.key
    dsimp only [Option.map_some]
    rw [show (p.shift.ticketAt ticket).request = ticket.request from rfl,
      show (p.shift.ticketAt ticket).granted = ticket.granted from rfl,
      show (p.engine engine).gated = engine.gated from rfl]
    split
    · exact free
    · rfl

theorem engine_dispose (session : SessionId) :
    (p.engine engine).dispose (p.shift.session + session) = p.engine (engine.dispose session) := by
  have marked : (p.engine engine).sessions.modify (p.shift.session + session)
      (fun state => { state with disposed := true }) = _ :=
    modify_behind p.sessions engine.sessions p.shift.sessionState session
      (g := fun state => { state with disposed := true }) fun _ => rfl
  rw [Engine.dispose, marked]
  simp [Engine.dispose, Past.engine, Engine.record, Shift.engineCall]

theorem engine_grant (id : TicketId) :
    (p.engine engine).grant (p.shift.ticket + id) = p.engine (engine.grant id) := by
  unfold Engine.grant
  simp only [Past.engine, List.map_map, Function.comp_def, Shift.ticketAt, Nat.add_left_cancel_iff]
  congr 1
  refine List.map_congr_left fun ticket _ => ?_
  split <;> rfl

end Engine

/-! ## Handles -/

section Handles
variable (table : Handles Release)

theorem table_add (label : String) (release : Release) :
    (p.table table).add label (p.shift.release release) =
      (table.add label release).map p.table (p.shift.handle + ·) := by
  simp [Past.table, Handles.add, Shift.handleAt, Past.shift]

theorem table_pending? (id : HandleId) : (p.table table).pending? (p.shift.handle + id) =
    (table.pending? id).map (Prod.map (fun label => label) p.shift.release) := by
  have same : (p.table table).get? (p.shift.handle + id) = _ :=
    getElem?_behind p.handles table.all p.shift.handleAt id
  rw [Handles.pending?, same, Handles.pending?, Handles.get?]
  cases table.all[id]? with
  | none => rfl
  | some handle => cases release : handle.release <;> simp [Shift.handleAt, release]

theorem table_retire (id : HandleId) :
    (p.table table).retire (p.shift.handle + id) = p.table (table.retire id) :=
  congrArg Handles.mk (modify_behind p.handles table.all p.shift.handleAt id fun _ => rfl)

/-- What is disposed one after another. -/
theorem disposeEach {σ τ : Type} {f : σ → τ} {dispose : σ → HandleId → σ × Bool}
    {dispose' : τ → HandleId → τ × Bool}
    (same : ∀ state id, dispose' (f state) (p.shift.handle + id) =
      (dispose state id).map f fun ran => ran) (state : σ) (ids : List HandleId) :
    EngineSync.disposeEach dispose' (f state) (p.shift.handles ids) =
      (EngineSync.disposeEach dispose state ids).map f fun released => released := by
  induction ids generalizing state with
  | nil => rfl
  | cons id ids ih =>
    rcases disposed : dispose state id with ⟨after, ran⟩
    have first := same state id
    rw [disposed] at first
    simp only [Shift.handles, List.map_cons, EngineSync.disposeEach, first, disposed, Prod.map_apply]
    rw [show List.map (p.shift.handle + ·) ids = p.shift.handles ids from rfl, ih]
    rfl

end Handles

/-! ## Listeners -/

section Bus
variable (bus : EventBus Listener)

theorem bus_subscribe (fits : p.shift.seats ≤ bus.nextId) (kind : EventKind) (listener : Listener) :
    (p.bus bus).subscribe kind (p.shift.listener listener) =
      (bus.subscribe kind listener).map p.bus p.shift.number := by
  simp [Past.bus, EventBus.subscribe, Shift.subscription, p.shift.number_succ _ fits]

theorem bus_unsubscribe (id : SubscriptionId) :
    (p.bus bus).unsubscribe (p.shift.number id) = p.bus (bus.unsubscribe id) := by
  simp [Past.bus, EventBus.unsubscribe, List.filter_map, Function.comp_def, Shift.subscription,
    p.shift.number_injective.eq_iff]

theorem bus_subscribers (kind : EventKind) :
    (p.bus bus).subscribers kind = (bus.subscribers kind).map p.shift.subscription :=
  List.filter_map

end Bus

/-! ## The ledger -/

theorem ledger_register (ledger : Ledger) (binding : ProviderBinding) :
    (p.ledgerAfter ledger).register binding = p.ledgerAfter (ledger.register binding) := by
  simp [Past.ledgerAfter, Ledger.register]

theorem ledger_unregister (ledger : Ledger) (kind : ProviderKind) :
    (p.ledgerAfter ledger).unregister kind = p.ledgerAfter (ledger.unregister kind) := by
  simp [Past.ledgerAfter, Ledger.unregister]

end Past
end EngineSync
