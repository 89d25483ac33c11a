import EngineSync.Proofs.Chances

/-!
# Documents do not interfere

A step that concerns a document moves what is seen of it, whatever else goes on, and any other step
leaves it where it is (`Shared.Calm.look_step`).  So nothing changes for the document when the calls
of everybody else are taken out of the run.
-/
namespace EngineSync

namespace Shared
variable {base : Sync} {shared : Shared} {before after : List SharedCall} {call : SharedCall}
  {number : Nat} {forwarding : Forwarding} {lane : LaneId} {turn : TurnId} {place : Place}
  {profile : Profile} {ticket : TicketId}

/-! ## Answers, and calls that are given up -/

/-- The engine answers a request. -/
def granted (shared : Shared) (ticket : TicketId) : Shared :=
  { shared with sync.engine := shared.sync.engine.grant ticket }

theorem Calm.granted (h : shared.Calm base none) (ticket : TicketId) :
    (shared.granted ticket).Calm base (some ticket) :=
  ⟨h.session, h.filter, h.gated, h.defects, h.there, h.lanes, h.engine.grant ticket⟩

/-- The engine's answer to a call of some document. -/
theorem Calm.answer_forward (h : shared.Calm base none)
    (split : shared.calls = before ++ .forward number forwarding :: after)
    (held : forwarding.ticket? = some ticket) :
    let later := (shared.granted ticket).settle before ⟨.document forwarding.doc.uri, number⟩ after
      ((shared.granted ticket).sync.pollShared (.forward number forwarding))
    later.Calm base none ∧ ∀ uri, later.look uri =
      if forwarding.doc.uri = uri then
        (shared.look uri).answer base (before.filterMap (SharedCall.seen? uri shared.places))
          (after.filterMap (SharedCall.seen? uri shared.places))
          (forwarding.seen shared.places number)
      else shared.look uri := by
  cases stage : forwarding.stage with
  | arriving | queued =>
    rw [Forwarding.ticket?, stage] at held
    cases held
  | calling lane turn ticket' =>
    have same : ticket' = ticket := by
      rw [Forwarding.ticket?, stage] at held
      exact Option.some.inj held
    subst same
    have seen : (forwarding.seen shared.places number).stage =
        .calling (ahead shared.places forwarding.doc.uri turn) := by simp [Forwarding.seen, stage]
    simp only [Sight.answer, seen]
    exact (h.granted ticket').settle_calling split stage (.inr rfl)

/-- Whoever is given up leaves the lane, and the engine loses its request. -/
theorem cancel_eq_of_calm {sync : Sync} {session : SessionId}
    (h : sync.engine.Calm session none (.forward number forwarding :: (before ++ after)))
    (own : forwarding.place? = some place) : ∃ tickets,
      sync.cancel forwarding = { sync with
        engine := { sync.engine with tickets }
        lanes := (sync.lanes.leave place.lane place.turn).unreference place.lane } ∧
      ({ sync.engine with tickets } : Engine).Calm session none (before ++ after) := by
  cases stage : forwarding.stage with
  | arriving => simp [Forwarding.place?, stage] at own
  | queued lane turn =>
    simp only [Forwarding.place?, stage, Option.some.injEq] at own
    subst own
    refine ⟨sync.engine.tickets, by simp [Sync.cancel, stage], (Engine.Calm.cons_iff ?_).mp h⟩
    simp [SharedCall.ticket?, Forwarding.ticket?, stage]
  | calling lane turn ticket =>
    simp only [Forwarding.place?, stage, Option.some.injEq] at own
    subst own
    have held : (SharedCall.forward number forwarding).ticket? = some ticket := by
      simp [SharedCall.ticket?, Forwarding.ticket?, stage]
    obtain ⟨lost, calm⟩ := h.cancel held
    refine ⟨sync.engine.tickets.filter (·.id ≠ ticket), ?_, ?_⟩
    · simp only [Sync.cancel, stage, lost]
    · rw [lost] at calm
      exact calm

/-- A call of some document is given up. -/
theorem Calm.cancel_forward (h : shared.Calm base none)
    (split : shared.calls = before ++ .forward number forwarding :: after) :
    let later : Shared :=
      { shared with sync := shared.sync.cancel forwarding, calls := before ++ after }
    later.Calm base none ∧ ∀ uri, later.look uri =
      if forwarding.doc.uri = uri then
        (shared.look uri).cancel (before.filterMap (SharedCall.seen? uri shared.places))
          (after.filterMap (SharedCall.seen? uri shared.places))
          (forwarding.seen shared.places number)
      else shared.look uri := by
  intro later
  have engine := h.engine_front split
  cases at_place : forwarding.place? with
  | none =>
    have stage : forwarding.stage = .arriving := by
      cases stage : forwarding.stage <;> simp [Forwarding.place?, stage] at at_place ⊢
    have places := places_none split at_place
    have same : later = { shared with calls := before ++ after } := by
      show Shared.mk _ _ _ _ = _
      rw [Sync.cancel, stage]
    have seen : (forwarding.seen shared.places number).stage = .arriving := by
      simp [Forwarding.seen, stage]
    rw [same]
    refine ⟨⟨h.session, h.filter, h.gated, h.defects, h.there, ?_, ?_⟩, fun uri => ?_⟩
    · have lanes := h.lanes
      rw [places] at lanes
      exact lanes
    · refine (Engine.Calm.cons_iff ?_).mp engine
      simp [SharedCall.ticket?, Forwarding.ticket?, stage]
    · have calls := calls_look split uri shared.places
      simp only [Sight.cancel, seen]
      rw [← List.filterMap_append]
      split
      · simp only [look, Shared.places, ← places]
      · rename_i other
        rw [if_neg other, List.append_nil, ← List.filterMap_append] at calls
        simp only [look, Shared.places, ← places, Sight.mk.injEq, and_true]
        exact calls.symm
  | some place =>
    obtain ⟨tickets, cancelled, calm⟩ := cancel_eq_of_calm engine at_place
    have own := Forwarding.uri_of_place? at_place
    have perm := places_perm split at_place
    have others := fun uri => others_look perm uri
    have same : later = { shared with
        sync := { shared.sync with
          engine := { shared.sync.engine with tickets }
          lanes := (shared.sync.lanes.leave place.lane place.turn).unreference place.lane }
        calls := before ++ after } := by
      show Shared.mk _ _ _ _ = _
      rw [cancelled]
    rw [same]
    refine ⟨⟨h.session, h.filter, h.gated, h.defects, h.there, ?_, calm⟩, fun uri => ?_⟩
    · exact (h.lanes.perm perm).quit
    · have calls := calls_look split uri shared.places
      have seen : (shared.look uri).cancel (before.filterMap (SharedCall.seen? uri shared.places))
          (after.filterMap (SharedCall.seen? uri shared.places))
          (forwarding.seen shared.places number) = { shared.look uri with
            calls := (before.filterMap (SharedCall.seen? uri shared.places) ++
              after.filterMap (SharedCall.seen? uri shared.places)).map
                (·.moveUp (ahead shared.places forwarding.doc.uri place.turn)) } := by
        unfold Sight.cancel Forwarding.seen
        cases stage : forwarding.stage <;> simp [Forwarding.place?, stage] at at_place ⊢ <;>
          rw [← at_place]
      have moved := others uri
      rw [own] at moved
      split
      · rename_i here
        rw [if_pos here] at moved
        rw [seen, here]
        simp only [look, Shared.places, Sight.mk.injEq, moved, true_and, and_true]
        exact ⟨rfl, rfl, rfl⟩
      · rename_i other
        rw [if_neg other] at moved calls
        rw [List.append_nil] at calls
        simp only [look, Shared.places, Sight.mk.injEq, moved, true_and, and_true]
        exact ⟨calls.symm, rfl, rfl, rfl⟩

/-- A profile is given up. -/
theorem Calm.cancel_configure (h : shared.Calm base none) {held : Option TicketId}
    (split : shared.calls = before ++ .configure number profile held :: after) :
    let later : Shared := { shared with
      sync := shared.sync.cancelShared (.configure number profile held)
      calls := before ++ after }
    later.Calm base none ∧ ∀ uri, later.look uri = shared.look uri := by
  intro later
  have engine := h.engine_front split
  have places := places_configure held split
  have lanes := h.lanes
  rw [← places] at lanes
  have cancelled : ∃ tickets, shared.sync.cancelShared (.configure number profile held) =
        { shared.sync with engine := { shared.sync.engine with tickets } } ∧
      ({ shared.sync.engine with tickets } : Engine).Calm base.session none (before ++ after) := by
    cases held with
    | none => exact ⟨shared.sync.engine.tickets, rfl, (Engine.Calm.cons_iff rfl).mp engine⟩
    | some ticket =>
      obtain ⟨lost, calm⟩ := engine.cancel rfl
      rw [lost] at calm
      exact ⟨_, by rw [Sync.cancelShared, lost], calm⟩
  obtain ⟨tickets, cancelled, calm⟩ := cancelled
  have same : later = { shared with
      sync := { shared.sync with engine := { shared.sync.engine with tickets } }
      calls := before ++ after } := by
    show Shared.mk _ _ _ _ = _
    rw [cancelled]
  rw [same]
  refine ⟨⟨h.session, h.filter, h.gated, h.defects, h.there, lanes, calm⟩, fun uri => ?_⟩
  simp only [look, Shared.places, places, Sight.mk.injEq, true_and, and_true]
  exact ⟨seen_configure held split uri _, rfl, rfl⟩

/-! ## One step -/

/-- A call that begins is seen when one looks at its document. -/
theorem Calm.begin (h : shared.Calm base none) (call : SharedCall) (placeless : call.place? = none)
    (unasked : call.ticket? = none) : (shared.begin call).Calm base none ∧
      ∀ uri, (shared.begin call).look uri = { shared.look uri with
        calls := (shared.look uri).calls ++ (call.seen? uri shared.places).toList } := by
  have places : (shared.begin call).places = shared.places := by
    simp [Shared.places, Shared.begin, placeless]
  refine ⟨⟨h.session, h.filter, h.gated, h.defects, h.there, ?_, ?_⟩, fun uri => ?_⟩
  · rw [places]
    exact h.lanes
  · refine Engine.Calm.perm ?_ List.perm_append_comm
    exact (Engine.Calm.cons_iff unasked).mpr h.engine
  · have calls : (shared.begin call).calls.filterMap
        (SharedCall.seen? uri (shared.begin call).places) =
          shared.calls.filterMap (SharedCall.seen? uri shared.places) ++
            (call.seen? uri shared.places).toList := by
      rw [places]
      show (shared.calls ++ [call]).filterMap _ = _
      rw [List.filterMap_append]
      cases seen : call.seen? uri shared.places <;> simp [seen]
    simp only [look, Sight.mk.injEq]
    exact ⟨calls, rfl, rfl, rfl, rfl, rfl, rfl⟩

/-- Who is looked for among the calls of a document is found among those that are seen. -/
theorem split?_look (uri : Uri) (number : Nat) :
    split? (·.caller = ⟨.document uri, number⟩) (shared.look uri).calls =
      (split? (·.caller = ⟨.document uri, number⟩) shared.calls).bind
        fun (before, found, after) => (found.seen? uri shared.places).map fun seen =>
          (before.filterMap (SharedCall.seen? uri shared.places), seen,
            after.filterMap (SharedCall.seen? uri shared.places)) := by
  refine split?_filterMap (fun call => ?_) shared.calls
  cases call with
  | configure => simp [SharedCall.caller, SharedCall.seen?]
  | forward number' forwarding =>
    by_cases same : forwarding.doc.uri = uri
    · simp [SharedCall.caller, SharedCall.seen?, SeenCall.caller, Forwarding.seen, same]
    · simp [SharedCall.caller, SharedCall.seen?, same]

/-- What a step on one call does: it is as for the call that is found, and nothing if there is
none. -/
theorem look_step_call {caller : Caller} {uri : Uri}
    {act : List SharedCall → SharedCall → List SharedCall → Shared}
    {seen : Sight → List SeenCall → SeenCall → List SeenCall → Sight}
    (forward : ∀ {before number forwarding after},
      shared.calls = before ++ .forward number forwarding :: after →
      caller = ⟨.document forwarding.doc.uri, number⟩ →
        (act before (.forward number forwarding) after).look uri =
          if forwarding.doc.uri = uri then
            seen (shared.look uri) (before.filterMap (SharedCall.seen? uri shared.places))
              (forwarding.seen shared.places number)
              (after.filterMap (SharedCall.seen? uri shared.places))
          else shared.look uri)
    (configure : ∀ {before number profile held after},
      shared.calls = before ++ .configure number profile held :: after →
      caller = ⟨.configuration, number⟩ →
        (act before (.configure number profile held) after).look uri = shared.look uri) :
    look uri (match split? (·.caller = caller) shared.calls with
      | none => shared
      | some (before, call, after) => act before call after) =
    if caller.subject = .document uri then
      match split? (·.caller = caller) (shared.look uri).calls with
      | none => shared.look uri
      | some (before, call, after) => seen (shared.look uri) before call after
    else shared.look uri := by
  obtain ⟨subject, number⟩ := caller
  have looked := @split?_look shared uri number
  cases found : split? (·.caller = ⟨subject, number⟩) shared.calls with
  | none =>
    by_cases about : subject = .document uri
    · subst about
      rw [if_pos rfl, looked, found]
      rfl
    · rw [if_neg about]
  | some outcome =>
    obtain ⟨before, call, after⟩ := outcome
    obtain ⟨split, named⟩ := split?_eq_some found
    have named : call.caller = ⟨subject, number⟩ := by simpa using named
    cases call with
    | configure number' profile held =>
      have names := congrArg Caller.subject named
      cases names
      exact configure split named.symm
    | forward number' forwarding =>
      refine (forward split named.symm).trans ?_
      cases named
      by_cases here : forwarding.doc.uri = uri
      · subst here
        rw [if_pos rfl, if_pos rfl, looked, found]
        simp [SharedCall.seen?]
      · rw [if_neg here, if_neg fun same => here (Subject.document.inj same)]

theorem Calm.step (h : shared.Calm base none) (step : SharedStep) :
    (shared.step step).Calm base none := by
  cases step with
  | opened number doc | changed number doc | closed number doc | configure number profile =>
    exact (h.begin _ rfl rfl).1
  | go caller =>
    simp only [Shared.step]
    cases found : split? (·.caller = caller) shared.calls with
    | none => exact h
    | some outcome =>
      obtain ⟨before, call, after⟩ := outcome
      obtain ⟨split, named⟩ := split?_eq_some found
      obtain rfl : call.caller = caller := by simpa using named
      cases call with
      | forward number forwarding => exact (h.settle_forward split).1
      | configure number profile held => exact (h.settle_configure split).1
  | answer caller =>
    simp only [Shared.step]
    cases found : split? (·.caller = caller) shared.calls with
    | none => exact h
    | some outcome =>
      obtain ⟨before, call, after⟩ := outcome
      obtain ⟨split, named⟩ := split?_eq_some found
      obtain rfl : call.caller = caller := by simpa using named
      cases held : call.ticket? with
      | none => simpa only [held] using h
      | some ticket =>
        simp only [held]
        cases call with
        | forward number forwarding => exact (h.answer_forward split held).1
        | configure number profile ticket' =>
          cases held
          exact ((h.granted ticket).settle_configured split (.inr rfl)).1
  | cancel caller =>
    simp only [Shared.step]
    cases found : split? (·.caller = caller) shared.calls with
    | none => exact h
    | some outcome =>
      obtain ⟨before, call, after⟩ := outcome
      obtain ⟨split, -⟩ := split?_eq_some found
      cases call with
      | forward number forwarding => exact (h.cancel_forward split).1
      | configure number profile held => exact (h.cancel_configure split).1
  | refuse refusals =>
    exact ⟨h.session, h.filter, h.gated, h.defects, h.there, h.lanes,
      h.engine.permits, h.engine.tickets, h.engine.ids, h.engine.lt⟩
  | dispose =>
    simp only [Shared.step, Session.dispose]
    split
    · exact ⟨h.session, h.filter, h.gated, h.defects, h.there, h.lanes, h.engine⟩
    · refine ⟨h.session, h.filter, h.gated, h.defects, ?_, h.lanes,
        h.engine.permits, h.engine.tickets, h.engine.ids, h.engine.lt⟩
      simpa [Sync.log, Engine.dispose, Engine.record] using h.there

/-- Where the session is when the engine answers the call of a caller: the call goes on, unless it
waits for no answer. -/
def answered (shared : Shared) (caller : Caller) (before : List SharedCall) (call : SharedCall)
    (after : List SharedCall) : Shared :=
  match call.ticket? with
  | none => shared
  | some ticket => shared.settle before caller after
      ({ shared.sync with engine := shared.sync.engine.grant ticket }.pollShared call)

/-- **What a step shows of a document**: one that concerns it moves what is seen, whatever else is
there, and any other step leaves it. -/
theorem Calm.look_step (h : shared.Calm base none) (step : SharedStep) (uri : Uri) :
    (shared.step step).look uri =
      if step.concerns uri then (shared.look uri).step base step else shared.look uri := by
  cases step with
  | opened number doc | changed number doc | closed number doc =>
    refine ((h.begin _ rfl rfl).2 uri).trans ?_
    by_cases here : doc.uri = uri
    · simp [SharedStep.concerns, Sight.step, SharedCall.seen?, Forwarding.update, Forwarding.close,
        Forwarding.seen, here]
    · simp [SharedStep.concerns, SharedCall.seen?, Forwarding.update, Forwarding.close, here]
  | configure number profile =>
    refine ((h.begin _ rfl rfl).2 uri).trans ?_
    simp [SharedStep.concerns, SharedCall.seen?]
  | go caller =>
    have stepped := @look_step_call shared caller uri
      (fun before call after => shared.settle before caller after (shared.sync.pollShared call))
      (fun sight before call after => sight.go base before after call)
      (fun split named => named ▸ (h.settle_forward split).2 uri)
      (fun split named => named ▸ (h.settle_configure split).2 uri)
    simp only [SharedStep.concerns, decide_eq_true_eq]
    exact stepped
  | answer caller =>
    have stepped := @look_step_call shared caller uri
      (shared.answered caller)
      (fun sight before call after => sight.answer base before after call)
      (fun {before number forwarding after} split named => ?_)
      (fun {before number profile held after} split named => ?_)
    · simp only [SharedStep.concerns, decide_eq_true_eq]
      exact stepped
    · cases held : forwarding.ticket? with
      | none =>
        have idle : (shared.look uri).answer base
            (before.filterMap (SharedCall.seen? uri shared.places))
            (after.filterMap (SharedCall.seen? uri shared.places))
            (forwarding.seen shared.places number) = shared.look uri := by
          unfold Sight.answer Forwarding.seen
          cases stage : forwarding.stage <;> simp [Forwarding.ticket?, stage] at held ⊢
        simp only [answered, SharedCall.ticket?, held, idle, ite_self]
      | some ticket =>
        simp only [answered, SharedCall.ticket?, held]
        exact named ▸ (h.answer_forward split held).2 uri
    · cases held with
      | none => rfl
      | some ticket =>
        exact named ▸ ((h.granted ticket).settle_configured split (.inr rfl)).2 uri
  | cancel caller =>
    have stepped := @look_step_call shared caller uri
      (fun before call after =>
        { shared with sync := shared.sync.cancelShared call, calls := before ++ after })
      (fun sight before call after => sight.cancel before after call)
      (fun split _ => (h.cancel_forward split).2 uri)
      (fun split _ => (h.cancel_configure split).2 uri)
    simp only [SharedStep.concerns, decide_eq_true_eq]
    exact stepped
  | refuse refusals =>
    simp only [SharedStep.concerns, if_true]
    rfl
  | dispose =>
    have there : shared.sync.session < shared.sync.engine.sessions.length := h.session ▸ h.there
    simp only [SharedStep.concerns, if_true, Shared.step, Session.dispose]
    cases disposed : shared.sync.engine.isDisposed shared.sync.session with
    | true =>
      simp only [if_true, Sight.step, look, Sight.mk.injEq, and_true]
      exact ⟨rfl, rfl, disposed, rfl, rfl⟩
    | false =>
      simp only [Bool.false_eq_true, if_false, Sight.step, look, Sight.mk.injEq, and_true]
      refine ⟨rfl, rfl, ?_, rfl, ?_⟩
      · simp [Sync.log, Engine.isDisposed, Engine.dispose, Engine.record, there]
      · simp [Sync.log, Engine.callsAbout, Engine.dispose, Engine.record, EngineCall.asking?]

/-! ## Every run -/

/-- What a run shows of a document is a run of what concerns it. -/
theorem Calm.look_run (h : shared.Calm base none) (steps : List SharedStep) (uri : Uri) :
    (shared.run steps).look uri =
      (steps.filter (·.concerns uri)).foldl (·.step base) (shared.look uri) := by
  induction steps generalizing shared with
  | nil => rfl
  | cons step rest ih =>
    have later := ih (h.step step)
    rw [h.look_step] at later
    by_cases concerns : step.concerns uri = true
    · rw [if_pos concerns] at later
      rw [List.filter_cons_of_pos concerns]
      exact later
    · rw [if_neg concerns] at later
      rw [List.filter_cons_of_neg concerns]
      exact later

theorem Calm.start {sync : Sync} (fresh : sync.lanes = .empty) (quiet : sync.engine.tickets = [])
    (permits : sync.engine.permits = []) (there : sync.session < sync.engine.sessions.length) :
    (start sync).Calm sync none where
  session := rfl
  filter := rfl
  gated := rfl
  defects := rfl
  there := there
  lanes := by
    show sync.lanes.Sound []
    rw [fresh]
    exact Lanes.sound_empty
  engine := by
    refine ⟨permits, ?_, ?_, ?_⟩ <;> simp [Shared.start, quiet]

/-- **Documents do not interfere.**  Take any run and any document, and take all calls of other
documents and of the configuration out of the run, with their answers.  Then nothing changes for the
document, after any of the steps: the calls that the engine has recorded of it, the order in which
they complete, who has got which result, and whether it has a lane. -/
theorem documents_apart (sync : Sync) (fresh : sync.lanes = .empty)
    (quiet : sync.engine.tickets = []) (permits : sync.engine.permits = [])
    (there : sync.session < sync.engine.sessions.length) (steps : List SharedStep) (uri : Uri)
    (number : Nat) :
    let all := (start sync).run (steps.take number)
    let alone := (start sync).run ((steps.take number).filter (·.concerns uri))
    all.sync.engine.callsAbout uri = alone.sync.engine.callsAbout uri ∧
      all.completed.filter (·.1.subject = .document uri) =
        alone.completed.filter (·.1.subject = .document uri) ∧
      all.results.filter (·.1.subject = .document uri) =
        alone.results.filter (·.1.subject = .document uri) ∧
      (all.sync.lanes.laneOf? uri).isSome = (alone.sync.lanes.laneOf? uri).isSome := by
  intro all alone
  have calm := Calm.start fresh quiet permits there
  have same : all.look uri = alone.look uri := by
    rw [calm.look_run, calm.look_run, List.filter_filter]
    simp only [Bool.and_self]
  exact ⟨congrArg Sight.recorded same, congrArg Sight.completed same, congrArg Sight.results same,
    congrArg Sight.lane same⟩

/-- While `y` and the configuration are under way and `y` is given up, `x` is opened and closed; its
close waits in the lane. -/
theorem documents_apart_of_two_documents :
    let doc (name : String) : Document := ⟨⟨"file:///" ++ name ++ ".qs"⟩, "qsharp", 1, "", false⟩
    let engine : Engine := { Engine.initial ⟨false, false, false⟩ ⟨false, false, false, []⟩
      ["file:///x.qs@1", "file:///y.qs@1", "configure@base"] with sessions := [⟨false, none⟩] }
    let sync : Sync := ⟨0, ⟨"qsharp"⟩, .empty, engine, []⟩
    let x (number : Nat) : Caller := ⟨.document (doc "x").uri, number⟩
    let y : Caller := ⟨.document (doc "y").uri, 0⟩
    let steps : List SharedStep :=
      [.opened 0 (doc "y"), .go y, .opened 0 (doc "x"), .configure 0 .base, .go (x 0),
        .go ⟨.configuration, 0⟩, .closed 1 (doc "x"), .go (x 1), .cancel y,
        .answer ⟨.configuration, 0⟩, .answer (x 0), .go (x 1)]
    let alone (number : Nat) :=
      (start sync).run ((steps.take number).filter (·.concerns (doc "x").uri))
    steps.filter (·.concerns (doc "x").uri) =
        [.opened 0 (doc "x"), .go (x 0), .closed 1 (doc "x"), .go (x 1), .answer (x 0), .go (x 1)] ∧
      (alone 12).sync.engine.callsAbout (doc "x").uri =
        [.request 0 (.update (doc "x").uri 1 ""), .request 0 (.close (doc "x").uri)] ∧
      (alone 12).results.filter (·.1.subject = .document (doc "x").uri) =
        [(x 0, .forwarded (.ok true)), (x 1, .forwarded (.ok true))] ∧
      ((alone 11).sync.lanes.laneOf? (doc "x").uri).isSome = true ∧
      ((alone 12).sync.lanes.laneOf? (doc "x").uri).isSome = false := by
  intro doc engine sync x y steps alone
  have twelfth := documents_apart sync rfl rfl rfl (by decide) steps (doc "x").uri 12
  have eleventh := documents_apart sync rfl rfl rfl (by decide) steps (doc "x").uri 11
  have calls : ((start sync).run (steps.take 12)).sync.engine.callsAbout (doc "x").uri =
      [.request 0 (.update (doc "x").uri 1 ""), .request 0 (.close (doc "x").uri)] := by
    decide +kernel
  have results : ((start sync).run (steps.take 12)).results.filter
      (·.1.subject = .document (doc "x").uri) =
        [(x 0, .forwarded (.ok true)), (x 1, .forwarded (.ok true))] := by
    decide +kernel
  have busy : (((start sync).run (steps.take 11)).sync.lanes.laneOf? (doc "x").uri).isSome =
      true := by
    decide +kernel
  have retired : (((start sync).run (steps.take 12)).sync.lanes.laneOf? (doc "x").uri).isSome =
      false := by
    decide +kernel
  have filtered : steps.filter (·.concerns (doc "x").uri) =
        [.opened 0 (doc "x"), .go (x 0), .closed 1 (doc "x"), .go (x 1), .answer (x 0),
          .go (x 1)] := by
    decide +kernel
  refine ⟨filtered, ?_⟩
  clear_value doc x y sync steps
  exact ⟨twelfth.1.symm.trans calls, twelfth.2.2.1.symm.trans results,
    eleventh.2.2.2.symm.trans busy, twelfth.2.2.2.symm.trans retired⟩

end Shared
end EngineSync
