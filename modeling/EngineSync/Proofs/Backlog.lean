import EngineSync.Proofs.Forefront
import EngineSync.Proofs.Queues

/-!
# Documents on their way to a session

A publication that is not delivered may still have a document to bring to the session of an
activation: it has not called its listener, or the listener is at work on it.  `Call.forwardings`
are these documents, and taken together, in the order in which the calls were started, they are what
is still to come.  As long as nobody overtakes on the way to the lanes, what the session was asked
to do with a document and what it is still to be asked never change when put together
(`Sync.Mirrors`).
-/
namespace EngineSync

/-- What a listener does about an event of a document. -/
def Event.forwarding? : Event → Option Forwarding
  | .opened doc | .changed doc => some (.update doc)
  | .closed doc => some (.close doc)
  | .configuration _ => none

theorem Event.document_of_forwarding {event : Event} {forwarding : Forwarding}
    (h : event.forwarding? = some forwarding) :
    event.kind ≠ .configurationChanged ∧ forwarding.stage = .arriving := by
  cases event with
  | configuration change => cases h
  | opened doc | changed doc | closed doc =>
    cases h
    exact ⟨EventKind.noConfusion, rfl⟩

namespace Forwarding

/-- What the engine is still to be asked. -/
def due (filter : DocumentFilter) (forwarding : Forwarding) : List Request :=
  match forwarding.stage with
  | .arriving => if filter.tracks forwarding.doc then [forwarding.request] else []
  | .queued .. => [forwarding.request]
  | .calling .. => []

/-- A forwarding stands before another one: it has taken its place first, or the other has none. -/
def Precedes (first second : Forwarding) : Prop :=
  ∀ q ∈ second.place?, ∃ p ∈ first.place?, p.turn < q.turn

variable {forwarding : Forwarding} {filter : DocumentFilter}

theorem mem_due {request : Request} (h : request ∈ forwarding.due filter) :
    request = forwarding.request := by
  unfold due at h
  split at h
  · split at h
    · exact List.mem_singleton.mp h
    · cases h
  · exact List.mem_singleton.mp h
  · cases h

theorem place?_none_iff : forwarding.place? = none ↔ forwarding.stage = .arriving := by
  unfold place?
  cases forwarding.stage <;> simp

theorem place?_queued {lane : LaneId} {turn : TurnId} (h : forwarding.stage = .queued lane turn) :
    forwarding.place? = some ⟨forwarding.doc.uri, lane, turn⟩ := by
  simp [place?, h]

theorem place?_uri {p : Place} (h : forwarding.place? = some p) : p.uri = forwarding.doc.uri := by
  unfold place? at h
  split at h
  · cases h
  all_goals
    cases h
    rfl

theorem precedes_arriving {first second : Forwarding} (arriving : second.stage = .arriving) :
    first.Precedes second := by
  intro q mem
  rw [place?_none_iff.mpr arriving] at mem
  cases mem

end Forwarding

namespace Sync

/-- What the session was asked to do with each document, followed by what it is still to be asked by
those in the queue, is what was to be asked in the past; and those in the queue have taken their
places in its order. -/
structure Mirrors (past : List Forwarding) (sync : Sync) (queue : List Forwarding) : Prop where
  order : queue.Pairwise Forwarding.Precedes
  asked : ∀ uri, sync.engine.asked sync.session uri ++
      (queue.flatMap (·.due sync.filter)).filter (·.uri? = some uri) =
    (past.flatMap (·.due sync.filter)).filter (·.uri? = some uri)

variable {past queue before behind : List Forwarding} {sync after : Sync} {forwarding : Forwarding}
  {moves : List LaneMove} {others : List Place} {progress : Progress Forwarding ForwardingResult}

/-- Whoever has nothing to ask any more makes no difference. -/
theorem Mirrors.leave (h : Mirrors past sync (before ++ forwarding :: behind))
    (none : forwarding.due sync.filter = []) (session : after.session = sync.session)
    (filter : after.filter = sync.filter)
    (calls : after.engine.callsOf sync.session = sync.engine.callsOf sync.session) :
    Mirrors past after (before ++ behind) := by
  refine ⟨h.order.sublist ((List.sublist_cons_self forwarding behind).append_left before), ?_⟩
  intro uri
  have asked := h.asked uri
  rw [List.flatMap_append, List.flatMap_cons, none, List.nil_append, ← List.flatMap_append] at asked
  rw [session, filter, Engine.asked_of_callsOf calls]
  exact asked

/-- Whoever comes stands behind, and what it is to ask is still to come. -/
theorem Mirrors.append (h : Mirrors past sync queue) {more : List Forwarding}
    (arriving : ∀ forwarding ∈ more, forwarding.stage = .arriving) :
    Mirrors (past ++ more) sync (queue ++ more) := by
  refine ⟨List.pairwise_append.mpr ⟨h.order, ?_, fun first _ second mem => ?_⟩, fun uri => ?_⟩
  · exact List.pairwise_of_forall_mem_list fun first _ second mem =>
      Forwarding.precedes_arriving (arriving second mem)
  · exact Forwarding.precedes_arriving (arriving second mem)
  · simp only [List.flatMap_append, List.filter_append]
    rw [← List.append_assoc, h.asked uri]

/-- A forwarding changes its stage, and its place may come or stay. -/
theorem Mirrors.order_set {forwarding' : Forwarding}
    (h : (before ++ forwarding :: behind).Pairwise Forwarding.Precedes)
    (earlier : ∀ other ∈ before, other.Precedes forwarding → other.Precedes forwarding')
    (later : ∀ other ∈ behind, forwarding.Precedes other → forwarding'.Precedes other) :
    (before ++ forwarding' :: behind).Pairwise Forwarding.Precedes := by
  obtain ⟨first, second, across⟩ := List.pairwise_append.mp h
  obtain ⟨own, second⟩ := List.pairwise_cons.mp second
  refine List.pairwise_append.mpr ⟨first, List.pairwise_cons.mpr ⟨?_, second⟩, ?_⟩
  · exact fun other mem => later other mem (own other mem)
  · intro other mem next there
    rcases List.mem_cons.mp there with rfl | behind
    · exact earlier other mem (across other mem forwarding List.mem_cons_self)
    · exact across other mem next (List.mem_cons_of_mem _ behind)

/-- Whoever takes a place takes the last one. -/
theorem Mirrors.reach (h : Mirrors past sync (before ++ forwarding :: behind))
    (sound : sync.lanes.Sound others)
    (stand : ∀ other ∈ before, ∀ p ∈ other.place?, p ∈ others)
    (turn : ∀ other ∈ before, other.stage ≠ .arriving) (arriving : forwarding.stage = .arriving)
    (tracked : sync.filter.tracks forwarding.doc = true) (lanes : Lanes) (lane : LaneId) :
    Mirrors past { sync with lanes } (before ++
      { forwarding with stage := .queued lane sync.lanes.nextTurn } :: behind) := by
  refine ⟨Mirrors.order_set h.order (fun other mem _ => ?_) (fun other mem stood => ?_), ?_⟩
  · intro q same
    cases same
    cases place : other.place? with
    | none => exact absurd (Forwarding.place?_none_iff.mp place) (turn other mem)
    | some p => exact ⟨p, rfl, sound.turn_lt p (stand other mem p place)⟩
  · -- nobody behind has a place, because this one had none
    intro q own
    obtain ⟨p, none, -⟩ := stood q own
    rw [Forwarding.place?_none_iff.mpr arriving] at none
    cases none
  · intro uri
    have same : ({ forwarding with stage := .queued lane sync.lanes.nextTurn } : Forwarding).due
        sync.filter = forwarding.due sync.filter := by
      simp only [Forwarding.due, arriving, tracked, if_true]
      rfl
    have asked := h.asked uri
    simp only [List.flatMap_append, List.flatMap_cons] at asked ⊢
    rw [same]
    exact asked

/-- Whoever holds its lane is asked for next: nobody earlier has anything to ask about its
document. -/
theorem Mirrors.issue (h : Mirrors past sync (before ++ forwarding :: behind)) {lane : LaneId}
    {turn : TurnId} (queued : forwarding.stage = .queued lane turn)
    (sound : sync.lanes.Sound (⟨forwarding.doc.uri, lane, turn⟩ :: others))
    (stand : ∀ other ∈ before, ∀ p ∈ other.place?, p ∈ others)
    (holds : sync.lanes.holds lane turn = true) (journal : Journal) (ticket : TicketId) :
    Mirrors past
      { sync with engine := (sync.engine.issue sync.session forwarding.request).1, journal }
      (before ++ { forwarding with stage := .calling lane turn ticket } :: behind) := by
  have own := Forwarding.place?_queued queued
  have across := (List.pairwise_append.mp h.order).2.2
  refine ⟨Mirrors.order_set h.order (fun other _ stood => ?_) (fun other _ stood => ?_), ?_⟩
  · intro q same
    cases same
    exact stood _ own
  · intro q there
    obtain ⟨p, same, lt⟩ := stood q there
    rw [own] at same
    cases same
    exact ⟨_, rfl, lt⟩
  · intro uri
    have asked := h.asked uri
    have due : forwarding.due sync.filter = [forwarding.request] := by
      simp [Forwarding.due, queued]
    have cleared : ({ forwarding with stage := .calling lane turn ticket } : Forwarding).due
        sync.filter = [] := rfl
    simp only [List.flatMap_append, List.flatMap_cons, due, List.filter_append] at asked
    simp only [List.flatMap_append, List.flatMap_cons, cleared, List.filter_append, List.nil_append]
    rw [Engine.asked_issue, ← asked, List.append_assoc]
    refine congrArg _ ?_
    by_cases here : forwarding.doc.uri = uri
    · have none : (before.flatMap (·.due sync.filter)).filter (·.uri? = some uri) = [] := by
        refine List.filter_eq_nil_iff.mpr fun request mem same => ?_
        obtain ⟨other, there, due⟩ := List.mem_flatMap.mp mem
        rw [Forwarding.mem_due due, Forwarding.request_uri?] at same
        obtain ⟨p, place, lt⟩ := across other there forwarding List.mem_cons_self _ own
        have about : p.uri = forwarding.doc.uri :=
          (Forwarding.place?_uri place).trans ((Option.some.inj (of_decide_eq_true same)).trans here.symm)
        have later := sound.holds_iff.mp holds p (stand other there p place) about
        exact absurd lt (Nat.not_lt_of_lt later)
      rw [none]
      rfl
    · have none : [forwarding.request].filter (·.uri? = some uri) = [] := by
        simp [Forwarding.request_uri?, here]
      rw [none]
      rfl

/-- **A step keeps what was asked and what is still to be asked in their order**, provided that
whoever takes a place has nobody before it without one. -/
theorem Mirrors.hop (h : Mirrors past sync (before ++ forwarding :: behind))
    (sound : sync.lanes.Sound (placesOf [forwarding] ++ others))
    (stand : ∀ other ∈ before, ∀ p ∈ other.place?, p ∈ others)
    (turn : forwarding.stage = .arriving → ∀ other ∈ before, other.stage ≠ .arriving)
    (up : sync.engine.isDisposed sync.session = false)
    (hop : Hop sync forwarding moves after progress) :
    Mirrors past after (before ++ progress.rest ++ behind) := by
  cases hop with
  | skip arriving untracked =>
    have none : forwarding.due sync.filter = [] := by
      simp [Forwarding.due, arriving, untracked]
    rw [Progress.rest_finished, List.append_nil]
    split
    · exact h.leave none rfl rfl rfl
    · exact h.leave none rfl rfl rfl
  | @reach lanes lane turn' arriving tracked entered =>
    rw [placesOf_none (Forwarding.place?_none_iff.mpr arriving)] at sound
    have last : turn' = sync.lanes.nextTurn := by
      simpa [entered] using Lanes.enter_turn sync.lanes forwarding.doc.uri
    rw [last, Progress.rest_pending, List.append_assoc]
    exact h.reach sound stand (turn arriving) arriving tracked lanes lane
  | refuse queued holds disposed =>
    rw [up] at disposed
    cases disposed
  | @issue lane turn' queued holds open' =>
    rw [placesOf_some (Forwarding.place?_queued queued)] at sound
    rw [Progress.rest_pending, List.append_assoc]
    exact h.issue queued sound stand holds _ _
  | @collect lane turn' ticket engine answer calling collected =>
    obtain ⟨calls, -, -⟩ := @Engine.collect?_keeps _ _ sync.session _ _ collected
    rw [Progress.rest_finished, List.append_nil]
    exact h.leave (by simp [Forwarding.due, calling]) rfl rfl calls

/-- Whoever made a step stands in a lane, or is through. -/
theorem Hop.placed (hop : Hop sync forwarding moves after progress) :
    ∀ next ∈ progress.rest, next.stage ≠ .arriving := by
  intro next mem
  cases hop with
  | skip | refuse | collect => cases mem
  | reach | issue =>
    rw [List.mem_singleton.mp mem]
    exact ForwardingStage.noConfusion

/-- A step does not dispose the session. -/
theorem Hop.isDisposed (hop : Hop sync forwarding moves after progress) :
    after.session = sync.session ∧
      after.engine.isDisposed sync.session = sync.engine.isDisposed sync.session := by
  cases hop with
  | skip => split <;> exact ⟨rfl, rfl⟩
  | reach | refuse => exact ⟨rfl, rfl⟩
  | issue => exact ⟨rfl, Engine.isDisposed_issue _⟩
  | collect calling collected =>
    exact ⟨rfl, (@Engine.collect?_keeps _ _ sync.session _ _ collected).2.2⟩

theorem Mirrors.poll (h : Mirrors past sync (before ++ forwarding :: behind))
    (sound : sync.lanes.Sound (placesOf [forwarding] ++ others))
    (stand : ∀ other ∈ before, ∀ p ∈ other.place?, p ∈ others)
    (turn : forwarding.stage = .arriving → ∀ other ∈ before, other.stage ≠ .arriving)
    (up : sync.engine.isDisposed sync.session = false) :
    Mirrors past (sync.poll forwarding).1
        (before ++ (sync.poll forwarding).2.rest ++ behind) ∧
      ∀ next ∈ (sync.poll forwarding).2.rest, next.stage = .arriving →
        forwarding.stage = .arriving := by
  have kept := (sync.poll_hops forwarding).carries
    (fun after rest => after.lanes.Sound (placesOf rest ++ others) ∧
      after.engine.isDisposed after.session = false ∧
      (∀ next ∈ rest, next.stage = .arriving → forwarding.stage = .arriving) ∧
      Mirrors past after (before ++ rest ++ behind))
    (fun {between next moves after progress} kept hop => ?_)
    ⟨sound, up, fun next mem => List.mem_singleton.mp mem ▸ id, by simpa using h⟩
  · exact ⟨kept.2.2.2, kept.2.2.1⟩
  · obtain ⟨lanes, up, same, mirrors⟩ := kept
    obtain ⟨session, disposed⟩ := hop.isDisposed
    refine ⟨hop.lanes lanes, by rw [session, disposed, up],
      fun next mem arriving => absurd arriving (hop.placed next mem), ?_⟩
    refine Mirrors.hop (by simpa using mirrors) lanes stand (fun arriving => ?_) up hop
    exact turn (same next List.mem_cons_self arriving)

end Sync

/-! ## What calls bring -/

/-- The documents that a listener at work on an event brings to the session of an activation. -/
def ListenerCall.forwardings (id : ActivationId) (event : Event) : ListenerCall → List Forwarding
  | .activation id' .arriving => if id' = id then event.forwarding?.toList else []
  | .activation id' (.forwarding forwarding) => if id' = id then [forwarding] else []
  | _ => []

/-- The documents that a publication brings to the session of an activation: those that its listener
is at work on, and those that it has not called the listener for. -/
def Call.forwardings (id : ActivationId) : Call → List Forwarding
  | .publish (.arriving event) => event.forwarding?.toList
  | .publish (.delivering ⟨event, current, waiting⟩) =>
    current.toList.flatMap (·.forwardings id event) ++
      if id ∈ audience waiting then event.forwarding?.toList else []
  | _ => []

namespace World
variable {world world' : World} {call : Call} {calls : List Call} {id id' : ActivationId}
  {notes : List WorldNote} {progress : Progress Call CallResult} {event : Event}
  {listener : ListenerCall} {waiting : List (Subscription Listener)}

theorem forwardings_other {stage : ListenerStage} (ne : id' ≠ id) (event : Event) :
    (ListenerCall.activation id' stage).forwardings id event = [] := by
  cases stage <;> simp [ListenerCall.forwardings, ne]

theorem forwardings_taking (id id' : ActivationId) (event : Event) :
    (ListenerCall.activation id' (.taking event)).forwardings id event =
      (ListenerCall.activation id' .arriving).forwardings id event := by
  cases event <;> simp [ListenerStage.taking, ListenerCall.forwardings, Event.forwarding?]

/-- A listener that is at work is the last one to bring a document. -/
theorem Forefront.last
    (h : Forefront id world (.publish (.delivering ⟨event, some listener, waiting⟩) :: calls)) :
    (if id ∈ audience waiting then event.forwarding?.toList else []) = [] := by
  split
  · next later =>
    cases document : event.forwarding? with
    | none => rfl
    | some forwarding =>
      have passed := h.heads _ List.mem_cons_self (Event.document_of_forwarding document).1 later
      cases passed.1
  · rfl

theorem Forefront.forwardings_listens
    (h : Forefront id world (.publish (.delivering ⟨event, some listener, waiting⟩) :: calls))
    (released : (world.activation id).barrier ≠ .abandoned)
    (apart : ∀ forwarding, listener ≠ .activation id (.forwarding forwarding))
    {outcome : Progress ListenerCall (Except EngineFailure Unit)}
    (hop : ListenerHop event world listener notes world' outcome) :
    (delivered event waiting outcome).rest.flatMap (Call.forwardings id) =
      (Call.publish (.delivering ⟨event, some listener, waiting⟩)).forwardings id := by
  have last := h.last
  have goes : (delivered event waiting outcome).rest.flatMap (Call.forwardings id) =
      outcome.rest.flatMap (·.forwardings id event) := by
    rcases outcome with listener' | failure | ⟨⟩ <;> simp [delivered, Call.forwardings, last]
  have own : (Call.publish (.delivering ⟨event, some listener, waiting⟩)).forwardings id =
      listener.forwardings id event := by
    simp [Call.forwardings, last]
  rw [goes, own]
  cases hop with
  | @pass id' abandoned =>
    have ne : id' ≠ id := fun same => released (same ▸ abandoned)
    exact (forwardings_other ne event).symm
  | @take id' open' => simpa using forwardings_taking id id' event
  | forward id' forwarding =>
    have ne : id' ≠ id := fun same => apart forwarding (same ▸ rfl)
    rw [forwardings_other ne]
    cases polled : (world.pollForwarding id' forwarding).2 with
    | finished result => rfl
    | pending listener =>
      obtain ⟨stage, rfl, -⟩ := Sound.pollForwarding_pending polled
      simp [forwardings_other ne]
  | route id' route =>
    simp only [pollRouting, Progress.rest_map, List.flatMap_map]
    simp [ListenerCall.forwardings]
  | answered found => rfl

/-- **A step brings the same documents as before** to the session of an activation in front, unless
its listener is at work on one. -/
theorem Forefront.forwardings_hop (h : Forefront id world (call :: calls))
    (sound : Sound world (call :: calls)) {base : List ProviderKind} (square : world.Square base)
    (released : (world.activation id).barrier ≠ .abandoned)
    (apart : ∀ event forwarding waiting, call ≠
      .publish (.delivering ⟨event, some (.activation id (.forwarding forwarding)), waiting⟩))
    (hop : Hop world call notes world' progress) :
    progress.rest.flatMap (Call.forwardings id) = call.forwardings id := by
  cases hop with
  | refused | began | rejected | subscribed | replay | ready | failed | finish => rfl
  | publish event =>
    have called := square.audience h.there h.holds event.kind
    simp [Call.forwardings, called]
  | call event next waiting =>
    have once := sound.orderly.ids _ List.mem_cons_self
    unfold startListener
    cases listener : next.listener with
    | outside number =>
      have same : audience (next :: waiting) = audience waiting := by
        simp [audience, Listener.activation?, listener]
      simp [Call.forwardings, ListenerCall.start, ListenerCall.forwardings, same]
    | activation id' =>
      have same : audience (next :: waiting) = id' :: audience waiting := by
        simp [audience, Listener.activation?, listener]
      rw [Call.ids, same] at once
      by_cases here : id' = id
      · subst here
        have alone : id' ∉ audience waiting := (List.nodup_cons.mp once).1
        simp [Call.forwardings, ListenerCall.start, ListenerCall.forwardings, same, alone]
      · simp [Call.forwardings, ListenerCall.start, ListenerCall.forwardings, same, here,
          Ne.symm here]
  | @listen event listener waiting _ _ outcome hop =>
    exact h.forwardings_listens released
      (fun forwarding same => apart event forwarding waiting (by rw [same])) hop
  | sync id' call =>
    simp only [World.poll, Progress.rest_map, List.flatMap_map]
    simp [Call.forwardings]

end World
end EngineSync
