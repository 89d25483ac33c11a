import EngineSync.Proofs.Sight

/-!
# The chances of calls

A chance of a call of some document moves what is seen of this document as the document's own
machine does (`Shared.Calm.settle_forward`), and leaves what is seen of any other one.  A chance of
a profile leaves what is seen of every document (`Shared.Calm.settle_configure`).
-/
namespace EngineSync

namespace Shared
variable {base : Sync} {shared : Shared} {before after : List SharedCall} {call : SharedCall}
  {number : Nat} {forwarding : Forwarding} {lane : LaneId} {turn : TurnId} {place : Place}
  {profile : Profile} {ticket : TicketId}

/-- A chance that leaves everything as it is. -/
theorem settle_idle (split : shared.calls = before ++ call :: after) (caller : Caller) :
    shared.settle before caller after (shared.sync, .pending call) = shared := by
  obtain ⟨sync, calls, completed, results⟩ := shared
  cases split
  simp [settle, Progress.result]

/-- A chance is the same from wherever the engine has completed the same. -/
theorem settle_of_completed {sync : Sync} {calls : List SharedCall}
    (same : sync.engine.completed = shared.sync.engine.completed) (caller : Caller)
    (outcome : Sync × Progress SharedCall SharedResult) :
    ({ shared with sync, calls } : Shared).settle before caller after outcome =
      shared.settle before caller after outcome := by
  simp only [settle, same]

/-- What was seen of the calls and of the stage makes no difference to a chance. -/
theorem queued_anew (sight : Sight) (calls seenBefore seenAfter : List SeenCall) (call : SeenCall)
    (stage : SeenStage) (ahead : Nat) :
    Sight.queued base { sight with calls } seenBefore seenAfter { call with stage } ahead =
      sight.queued base seenBefore seenAfter call ahead := by
  unfold Sight.queued
  by_cases first : ahead = 0
  · rw [if_pos first, if_pos first]
    by_cases gone : sight.disposed = true
    · rw [if_pos gone, if_pos gone]
      rfl
    · rw [if_neg gone, if_neg gone]
      show Sight.called _ _ _ _ _ _ (!base.engine.gated.contains call.request.key) =
        Sight.called _ _ _ _ _ _ (!base.engine.gated.contains call.request.key)
      cases base.engine.gated.contains call.request.key <;> rfl
  · rw [if_neg first, if_neg first]

theorem seen_request (forwarding : Forwarding) (places : List Place) (number : Nat) :
    (forwarding.seen places number).request = forwarding.request := rfl

theorem Calm.answer (h : shared.Calm base answered) (request : Request) :
    shared.sync.engine.answer request =
      { base.engine with refusals := shared.sync.engine.refusals }.answer request := by
  unfold Engine.answer
  rw [h.defects]

theorem pollShared_forward (sync : Sync) (number : Nat) (forwarding : Forwarding) :
    sync.pollShared (.forward number forwarding) = ((sync.poll forwarding).1,
      (sync.poll forwarding).2.map (SharedCall.forward number) SharedResult.forwarded) := rfl

/-- A chance of a call that the engine has. -/
theorem Calm.settle_calling {answered : Option TicketId} {ticket : TicketId}
    (h : shared.Calm base answered)
    (split : shared.calls = before ++ .forward number forwarding :: after)
    (calling : forwarding.stage = .calling lane turn ticket)
    (own : answered = none ∨ answered = some ticket) :
    let later := shared.settle before ⟨.document forwarding.doc.uri, number⟩ after
      (shared.sync.pollShared (.forward number forwarding))
    later.Calm base none ∧ ∀ uri, later.look uri =
      if forwarding.doc.uri = uri then
        (shared.look uri).called base (before.filterMap (SharedCall.seen? uri shared.places))
          (after.filterMap (SharedCall.seen? uri shared.places))
          (forwarding.seen shared.places number) (ahead shared.places forwarding.doc.uri turn)
          answered.isSome
      else shared.look uri := by
  intro later
  have first : (SharedCall.forward number forwarding).ticket? = some ticket := by
    simp [SharedCall.ticket?, Forwarding.ticket?, calling]
  have engine := h.engine_front split
  have stage : { forwarding with stage := .calling lane turn ticket } = forwarding := by
    rw [← calling]
  rcases own with rfl | rfl
  · have polled : shared.sync.pollShared (.forward number forwarding) =
        (shared.sync, .pending (.forward number forwarding)) := by
      rw [pollShared_forward]
      simp only [Sync.poll, calling, Sync.pollCalling, engine.collect?_none first, stage]
      rfl
    have same : later = shared := by
      show shared.settle _ _ _ _ = shared
      rw [polled, settle_idle split]
    rw [same]
    refine ⟨h, fun uri => ?_⟩
    split
    · rename_i here
      have calls := calls_look split uri shared.places
      rw [if_pos here] at calls
      have stays : (forwarding.seen shared.places number).stage =
          .calling (ahead shared.places forwarding.doc.uri turn) := by
        simp [Forwarding.seen, calling]
      simp only [Option.isSome_none, Sight.called, Bool.false_eq_true, if_false, ← stays]
      simp only [look, calls, List.append_assoc, List.cons_append, List.nil_append]
    · rfl
  · have collected := engine.collect?_own first
    have place : forwarding.place? = some ⟨forwarding.doc.uri, lane, turn⟩ := by
      simp [Forwarding.place?, calling]
    have polled : shared.sync.pollShared (.forward number forwarding) =
        (Sync.depart { shared.sync with engine := { shared.sync.engine with
            tickets := shared.sync.engine.tickets.filter (·.id ≠ ticket)
            completed := shared.sync.engine.completed ++ [forwarding.request.key] } }
            forwarding lane turn,
          .finished (.forwarded ((shared.sync.engine.answer forwarding.request).map
            fun _ => true))) := by
      rw [pollShared_forward]
      simp only [Sync.poll, calling, Sync.pollCalling, collected]
      rfl
    have settled : later = ⟨Sync.depart { shared.sync with engine := { shared.sync.engine with
            tickets := shared.sync.engine.tickets.filter (·.id ≠ ticket)
            completed := shared.sync.engine.completed ++ [forwarding.request.key] } }
            forwarding lane turn, before ++ after,
        shared.completed ++ [forwarding.request.key].map
          ((⟨.document forwarding.doc.uri, number⟩ : Caller), ·),
        shared.results ++ [(⟨.document forwarding.doc.uri, number⟩, .forwarded
          ((shared.sync.engine.answer forwarding.request).map fun _ => true))]⟩ := by
      show shared.settle _ _ _ _ = _
      rw [polled]
      simp [settle, Progress.result, Sync.depart]
    have perm := places_perm split place
    rw [settled]
    refine ⟨⟨h.session, h.filter, h.gated, h.defects, h.there, ?_, ?_⟩, fun uri => ?_⟩
    · exact Sync.depart_sound (h.lanes.perm perm)
    · exact engine.collected first _
    · refine (look_depart h.lanes split place rfl rfl rfl rfl rfl [forwarding.request.key] _
        uri).trans ?_
      rw [h.answer]
      rfl

/-- A call that holds the lane asks the engine. -/
def issued (shared : Shared) (before : List SharedCall) (number : Nat) (forwarding : Forwarding)
    (lane : LaneId) (turn : TurnId) (after : List SharedCall) : Shared :=
  { shared with
    sync := { shared.sync.log [forwarding.entry, Session.requestEntry forwarding.request] with
      engine := (shared.sync.engine.issue shared.sync.session forwarding.request).1 }
    calls := before ++ .forward number { forwarding with
      stage := .calling lane turn shared.sync.engine.nextTicket } :: after }

theorem settle_issued (h : shared.Calm base none)
    (queued : forwarding.stage = .queued lane turn)
    (holds : shared.sync.lanes.holds lane turn = true)
    (live : shared.sync.engine.isDisposed shared.sync.session = false) (caller : Caller) :
    shared.settle before caller after (shared.sync.pollShared (.forward number forwarding)) =
      (shared.issued before number forwarding lane turn after).settle before caller after
        ((shared.issued before number forwarding lane turn after).sync.pollShared
          (.forward number { forwarding with
            stage := .calling lane turn shared.sync.engine.nextTicket })) := by
  have issue := Engine.issue_calm h.engine.permits shared.sync.session forwarding.request
  have polled := Sync.poll_issued queued holds live
  have next : (shared.sync.engine.issue shared.sync.session forwarding.request).2 =
      shared.sync.engine.nextTicket := by rw [issue]
  rw [next] at polled
  rw [pollShared_forward, polled]
  exact (settle_of_completed (by rw [issue]) _ _).symm

theorem places_issued (split : shared.calls = before ++ .forward number forwarding :: after)
    (place : forwarding.place? = some ⟨forwarding.doc.uri, lane, turn⟩) :
    (shared.issued before number forwarding lane turn after).places = shared.places := by
  simp only [places, issued, split, List.filterMap_append, List.filterMap_cons,
    SharedCall.place?, place]
  rfl

theorem Calm.issued (h : shared.Calm base none)
    (split : shared.calls = before ++ .forward number forwarding :: after)
    (queued : forwarding.stage = .queued lane turn) :
    (shared.issued before number forwarding lane turn after).Calm base
      (if shared.sync.engine.gated.contains forwarding.request.key then none
        else some shared.sync.engine.nextTicket) := by
  have issue := Engine.issue_calm h.engine.permits shared.sync.session forwarding.request
  have engine := h.engine_front split
  have asks := @Engine.Calm.issue _ _ _ (.forward number { forwarding with
      stage := .calling lane turn shared.sync.engine.nextTicket }) _ engine
    (by simp [SharedCall.ticket?, Forwarding.ticket?, queued]) rfl rfl
  refine ⟨h.session, h.filter, ?_, ?_, ?_, ?_, ?_⟩
  · simp only [Shared.issued, issue, h.gated]
  · simp only [Shared.issued, issue, h.defects]
  · simp only [Shared.issued, issue, h.there]
  · rw [places_issued split (by simp [Forwarding.place?, queued])]
    exact h.lanes
  · refine Engine.Calm.perm ?_ List.perm_middle.symm
    rw [← h.session] at asks ⊢
    exact asks

theorem Calm.look_issued (h : shared.Calm base none)
    (split : shared.calls = before ++ .forward number forwarding :: after)
    (place : forwarding.place? = some ⟨forwarding.doc.uri, lane, turn⟩) (uri : Uri) :
    (shared.issued before number forwarding lane turn after).look uri =
      if forwarding.doc.uri = uri then
        { shared.look uri with
          recorded := (shared.look uri).recorded ++ [.request base.session forwarding.request]
          calls := ((shared.issued before number forwarding lane turn after).look uri).calls }
      else shared.look uri := by
  have issue := Engine.issue_calm h.engine.permits shared.sync.session forwarding.request
  have engine : (shared.issued before number forwarding lane turn after).sync.engine = _ :=
    congrArg Prod.fst issue
  have asking : (EngineCall.request shared.sync.session forwarding.request).asking?.bind (·.2.uri?) =
      some forwarding.doc.uri := forwarding.request_uri?
  have disposed : (shared.issued before number forwarding lane turn after).sync.engine.isDisposed
      shared.sync.session = shared.sync.engine.isDisposed shared.sync.session := by
    rw [engine]
    rfl
  have refusals : (shared.issued before number forwarding lane turn after).sync.engine.refusals =
      shared.sync.engine.refusals := by rw [engine]
  have recorded : (shared.issued before number forwarding lane turn after).sync.engine.callsAbout
      uri = shared.sync.engine.callsAbout uri ++
        if forwarding.doc.uri = uri then [.request shared.sync.session forwarding.request]
        else [] := by
    rw [engine, Engine.callsAbout, List.filter_append]
    congr 1
    by_cases here : forwarding.doc.uri = uri <;> simp [asking, here]
  rw [← h.session]
  split
  · rename_i here
    rw [if_pos here] at recorded
    simp only [look, Sight.mk.injEq, true_and]
    exact ⟨rfl, disposed, refusals, recorded, rfl, rfl⟩
  · rename_i other
    rw [if_neg other, List.append_nil] at recorded
    have calls := calls_look split uri shared.places
    have calls' := @calls_look (shared.issued before number forwarding lane turn after) before after
      number _ rfl uri shared.places
    rw [if_neg other] at calls calls'
    simp only [look, Sight.mk.injEq, places_issued split place]
    exact ⟨calls'.trans calls.symm, rfl, disposed, refusals, recorded, rfl, rfl⟩

/-- A chance of a call that stands in the lane. -/
theorem Calm.settle_queued (h : shared.Calm base none)
    (split : shared.calls = before ++ .forward number forwarding :: after)
    (queued : forwarding.stage = .queued lane turn) :
    let later := shared.settle before ⟨.document forwarding.doc.uri, number⟩ after
      (shared.sync.pollShared (.forward number forwarding))
    later.Calm base none ∧ ∀ uri, later.look uri =
      if forwarding.doc.uri = uri then
        (shared.look uri).queued base (before.filterMap (SharedCall.seen? uri shared.places))
          (after.filterMap (SharedCall.seen? uri shared.places))
          (forwarding.seen shared.places number) (ahead shared.places forwarding.doc.uri turn)
      else shared.look uri := by
  intro later
  have place : forwarding.place? = some ⟨forwarding.doc.uri, lane, turn⟩ := by
    simp [Forwarding.place?, queued]
  have perm := places_perm split place
  have first := (h.lanes.perm perm).holds_iff_ahead
  rw [← ahead_perm perm] at first
  simp only at first
  cases holds : shared.sync.lanes.holds lane turn with
  | false =>
    have polled : shared.sync.pollShared (.forward number forwarding) =
        (shared.sync, .pending (.forward number forwarding)) := by
      rw [pollShared_forward, Sync.poll_waiting queued holds]
      rfl
    have same : later = shared := by
      show shared.settle _ _ _ _ = shared
      rw [polled, settle_idle split]
    rw [holds] at first
    rw [same]
    refine ⟨h, fun uri => ?_⟩
    split
    · rename_i here
      have calls := calls_look split uri shared.places
      rw [if_pos here] at calls
      have stays : (forwarding.seen shared.places number).stage =
          .queued (ahead shared.places forwarding.doc.uri turn) := by
        simp [Forwarding.seen, queued]
      rw [Sight.queued, if_neg (fun none => Bool.false_ne_true (first.mpr none)), ← stays]
      simp only [look, calls, List.append_assoc, List.cons_append, List.nil_append]
    · rfl
  | true =>
    have none := first.mp holds
    cases disposed : shared.sync.engine.isDisposed shared.sync.session with
    | true =>
      have polled := Sync.poll_refused queued holds disposed
      have settled : later = ⟨(shared.sync.log [forwarding.entry,
            Session.requestEntry forwarding.request]).depart forwarding lane turn, before ++ after,
          shared.completed ++ ([] : List String).map
            ((⟨.document forwarding.doc.uri, number⟩ : Caller), ·),
          shared.results ++ [(⟨.document forwarding.doc.uri, number⟩,
            .forwarded (.error .disposed))]⟩ := by
        show shared.settle _ _ _ _ = _
        rw [pollShared_forward, polled]
        simp [settle, Progress.map, Progress.result, Sync.depart, Sync.log]
      have engine := h.engine_front split
      rw [settled]
      refine ⟨⟨h.session, h.filter, h.gated, h.defects, h.there, ?_, ?_⟩, fun uri => ?_⟩
      · exact Sync.depart_sound (h.lanes.perm perm)
      · refine (Engine.Calm.cons_iff ?_).mp engine
        simp [SharedCall.ticket?, Forwarding.ticket?, queued]
      · refine (look_depart h.lanes split place rfl rfl rfl rfl rfl [] _ uri).trans ?_
        have gone : (shared.look uri).disposed = true := disposed
        rw [Sight.queued, if_pos none, if_pos gone]
        simp only [List.map_nil, List.append_nil]
    | false =>
      -- the engine has the call now; what remains is the chance of a call that it has
      have same : later = _ := settle_issued h queued holds disposed _
      obtain ⟨calm, looks⟩ := (h.issued split queued).settle_calling rfl rfl
        (by split <;> simp)
      rw [same]
      refine ⟨calm, fun uri => (looks uri).trans ?_⟩
      split
      · rename_i here
        have live : ¬(shared.look uri).disposed = true := fun gone =>
          Bool.false_ne_true (disposed.symm.trans gone)
        have answered (held : Bool) (ticket : TicketId) :
            Option.isSome (if held then Option.none else some ticket) = !held := by
          cases held <;> rfl
        rw [Sight.queued, if_pos none, if_neg live,
          h.look_issued split place, if_pos here, places_issued split place, answered, h.gated,
          seen_request]
        -- what was seen of the calls makes no difference, since they are put together anew
        cases base.engine.gated.contains forwarding.request.key <;> rfl
      · rename_i other
        rw [h.look_issued split place, if_neg other]

/-- A call takes the last place in the lane of its document. -/
def entered (shared : Shared) (before : List SharedCall) (number : Nat) (forwarding : Forwarding)
    (after : List SharedCall) : Shared :=
  { shared with
    sync := { shared.sync with lanes := (shared.sync.lanes.enter forwarding.doc.uri).1 }
    calls := before ++ .forward number { forwarding with
      stage := .queued (shared.sync.lanes.enter forwarding.doc.uri).2.1
        shared.sync.lanes.nextTurn } :: after }

theorem settle_entered (arriving : forwarding.stage = .arriving)
    (tracked : shared.sync.filter.tracks forwarding.doc = true) (caller : Caller) :
    shared.settle before caller after (shared.sync.pollShared (.forward number forwarding)) =
      (shared.entered before number forwarding after).settle before caller after
        ((shared.entered before number forwarding after).sync.pollShared
          (.forward number { forwarding with
            stage := .queued (shared.sync.lanes.enter forwarding.doc.uri).2.1
              shared.sync.lanes.nextTurn })) := by
  have turn := Lanes.enter_turn shared.sync.lanes forwarding.doc.uri
  have polled := @Sync.poll_tracked shared.sync forwarding _
    (shared.sync.lanes.enter forwarding.doc.uri).2.2 arriving tracked _ rfl
  rw [turn] at polled
  rw [pollShared_forward, polled]
  rfl

theorem places_entered (split : shared.calls = before ++ .forward number forwarding :: after)
    (arriving : forwarding.stage = .arriving) :
    (shared.entered before number forwarding after).places.Perm
      (⟨forwarding.doc.uri, (shared.sync.lanes.enter forwarding.doc.uri).2.1,
        shared.sync.lanes.nextTurn⟩ :: shared.places) := by
  rw [places_none split (by simp [SharedCall.place?, Forwarding.place?, arriving])]
  exact places_perm rfl rfl

theorem Calm.entered (h : shared.Calm base none)
    (split : shared.calls = before ++ .forward number forwarding :: after)
    (arriving : forwarding.stage = .arriving) :
    (shared.entered before number forwarding after).Calm base none := by
  refine ⟨h.session, h.filter, h.gated, h.defects, h.there, ?_, ?_⟩
  · exact (h.lanes.enter forwarding.doc.uri).perm (places_entered split arriving).symm
  · have others : shared.sync.engine.Calm base.session none (before ++ after) := by
      refine (Engine.Calm.cons_iff ?_).mp (h.engine_front split)
      simp [SharedCall.ticket?, Forwarding.ticket?, arriving]
    refine Engine.Calm.perm ?_ List.perm_middle.symm
    exact (Engine.Calm.cons_iff rfl).mpr others

/-- Whoever was there does not see the difference. -/
theorem Calm.seen?_entered (h : shared.Calm base none)
    (split : shared.calls = before ++ .forward number forwarding :: after)
    (arriving : forwarding.stage = .arriving) (uri : Uri) (mem : call ∈ shared.calls) :
    call.seen? uri (shared.entered before number forwarding after).places =
      call.seen? uri shared.places := by
  rw [call.seen?_perm (places_entered split arriving)]
  refine call.seen?_cons fun own at_place _ both => ?_
  have older := h.lanes.turn_lt own (List.mem_filterMap.mpr ⟨call, mem, at_place⟩)
  exact Nat.lt_asymm older both.2

theorem Calm.look_entered (h : shared.Calm base none)
    (split : shared.calls = before ++ .forward number forwarding :: after)
    (arriving : forwarding.stage = .arriving) (uri : Uri) :
    (shared.entered before number forwarding after).look uri =
      if forwarding.doc.uri = uri then
        { shared.look uri with
          lane := true
          calls := ((shared.entered before number forwarding after).look uri).calls }
      else shared.look uri := by
  have lane := Lanes.isSome_enter shared.sync.lanes forwarding.doc.uri uri
  split
  · rename_i here
    simp only [here, decide_true, Bool.true_or] at lane
    simp only [look, Sight.mk.injEq, true_and]
    subst here
    exact ⟨lane, rfl, rfl, rfl, rfl, rfl⟩
  · rename_i other
    simp only [other, decide_false, Bool.false_or] at lane
    have calls := calls_look split uri shared.places
    have calls' := @calls_look (shared.entered before number forwarding after) before after
      number _ rfl uri (shared.entered before number forwarding after).places
    rw [if_neg other] at calls calls'
    have same (some : List SharedCall) (sub : ∀ call ∈ some, call ∈ shared.calls) :
        some.filterMap (SharedCall.seen? uri (shared.entered before number forwarding after).places) =
          some.filterMap (SharedCall.seen? uri shared.places) :=
      List.filterMap_congr fun call mem => h.seen?_entered split arriving uri (sub call mem)
    rw [same before fun call mem => by simp [split, mem],
      same after fun call mem => by simp [split, mem]] at calls'
    simp only [look, Sight.mk.injEq]
    exact ⟨calls'.trans calls.symm, lane, rfl, rfl, rfl, rfl, rfl⟩

/-- A chance of a call that has not run yet. -/
theorem Calm.settle_arriving (h : shared.Calm base none)
    (split : shared.calls = before ++ .forward number forwarding :: after)
    (arriving : forwarding.stage = .arriving) :
    let later := shared.settle before ⟨.document forwarding.doc.uri, number⟩ after
      (shared.sync.pollShared (.forward number forwarding))
    later.Calm base none ∧ ∀ uri, later.look uri =
      if forwarding.doc.uri = uri then
        (shared.look uri).arrived base (before.filterMap (SharedCall.seen? uri shared.places))
          (after.filterMap (SharedCall.seen? uri shared.places))
          (forwarding.seen shared.places number)
      else shared.look uri := by
  intro later
  cases tracked : shared.sync.filter.tracks forwarding.doc with
  | true =>
    have same : later = _ := settle_entered arriving tracked _
    obtain ⟨calm, looks⟩ := (h.entered split arriving).settle_queued rfl rfl
    rw [same]
    refine ⟨calm, fun uri => (looks uri).trans ?_⟩
    have others (some : List SharedCall) (sub : ∀ call ∈ some, call ∈ shared.calls) :
        some.filterMap (SharedCall.seen? uri (shared.entered before number forwarding after).places) =
          some.filterMap (SharedCall.seen? uri shared.places) :=
      List.filterMap_congr fun call mem => h.seen?_entered split arriving uri (sub call mem)
    have seen := others before fun call mem => by simp [split, mem]
    have seen' := others after fun call mem => by simp [split, mem]
    split
    · rename_i here
      have track : base.filter.tracks forwarding.doc = true := by rw [← h.filter, tracked]
      have last : ahead (shared.entered before number forwarding after).places forwarding.doc.uri
          shared.sync.lanes.nextTurn =
            (before.filterMap (SharedCall.seen? uri shared.places) ++
              after.filterMap (SharedCall.seen? uri shared.places)).countP (·.stands) := by
        rw [← List.filterMap_append, countP_stands, ← here, ahead_perm (places_entered split arriving),
          ahead_cons, if_neg (fun both => Nat.lt_irrefl _ both.2), Nat.add_zero,
          ← places_none split (by simp [SharedCall.place?, Forwarding.place?, arriving])]
        refine List.countP_congr fun place mem => ?_
        simp [h.lanes.turn_lt place mem]
      have track : base.filter.tracks (forwarding.seen shared.places number).doc = true := track
      rw [seen, seen', h.look_entered split arriving, if_pos here, last, Sight.arrived,
        if_pos track]
      exact queued_anew { shared.look uri with lane := true } _ _ _
        (forwarding.seen shared.places number) _ _
    · rename_i other
      rw [h.look_entered split arriving, if_neg other]
  | false =>
    have track : ¬base.filter.tracks (forwarding.seen shared.places number).doc = true := by
      rw [← h.filter]
      exact fun tracks => Bool.false_ne_true (tracked.symm.trans tracks)
    have settled : ∃ journal, later = ⟨{ shared.sync with journal }, before ++ after,
        shared.completed, shared.results ++
          [(⟨.document forwarding.doc.uri, number⟩, .forwarded (.ok false))]⟩ := by
      show ∃ journal, shared.settle _ _ _ _ = _
      rw [pollShared_forward]
      simp only [Sync.poll, arriving, Sync.pollArriving, tracked, Bool.false_eq_true, if_false]
      cases forwarding.closes with
      | true => exact ⟨shared.sync.journal, by simp [settle, Progress.map, Progress.result]⟩
      | false =>
        exact ⟨(shared.sync.log [.skipped forwarding.doc.uri forwarding.doc.language]).journal,
          by simp [settle, Progress.map, Progress.result, Sync.log]⟩
    obtain ⟨journal, settled⟩ := settled
    have placeless : (SharedCall.forward number forwarding).place? = none := by
      simp [SharedCall.place?, Forwarding.place?, arriving]
    have places := places_none split placeless
    rw [settled]
    refine ⟨⟨h.session, h.filter, h.gated, h.defects, h.there, ?_, ?_⟩, fun uri => ?_⟩
    · have lanes := h.lanes
      rw [places] at lanes
      exact lanes
    · refine (Engine.Calm.cons_iff ?_).mp (h.engine_front split)
      simp [SharedCall.ticket?, Forwarding.ticket?, arriving]
    · have calls := calls_look split uri shared.places
      split
      · rename_i here
        rw [Sight.arrived, if_neg track]
        rw [← List.filterMap_append]
        simp only [look, Shared.places, ← places, List.filter_append, Sight.mk.injEq, true_and]
        simp [here, SeenCall.caller, Forwarding.seen]
      · rename_i other
        rw [if_neg other, List.append_nil, ← List.filterMap_append] at calls
        have nothing : ¬Subject.document forwarding.doc.uri = .document uri :=
          fun same => other (Subject.document.inj same)
        simp only [look, Shared.places, ← places, List.filter_append, Sight.mk.injEq, true_and]
        exact ⟨calls.symm, by simp [nothing]⟩

/-- **A chance of a call of some document.** -/
theorem Calm.settle_forward (h : shared.Calm base none)
    (split : shared.calls = before ++ .forward number forwarding :: after) :
    let later := shared.settle before ⟨.document forwarding.doc.uri, number⟩ after
      (shared.sync.pollShared (.forward number forwarding))
    later.Calm base none ∧ ∀ uri, later.look uri =
      if forwarding.doc.uri = uri then
        (shared.look uri).go base (before.filterMap (SharedCall.seen? uri shared.places))
          (after.filterMap (SharedCall.seen? uri shared.places))
          (forwarding.seen shared.places number)
      else shared.look uri := by
  cases stage : forwarding.stage with
  | arriving =>
    have seen : (forwarding.seen shared.places number).stage = .arriving := by
      simp [Forwarding.seen, stage]
    simp only [Sight.go, seen]
    exact h.settle_arriving split stage
  | queued lane turn =>
    have seen : (forwarding.seen shared.places number).stage =
        .queued (ahead shared.places forwarding.doc.uri turn) := by simp [Forwarding.seen, stage]
    simp only [Sight.go, seen]
    exact h.settle_queued split stage
  | calling lane turn ticket =>
    have seen : (forwarding.seen shared.places number).stage =
        .calling (ahead shared.places forwarding.doc.uri turn) := by simp [Forwarding.seen, stage]
    simp only [Sight.go, seen]
    exact h.settle_calling split stage (.inl rfl)

/-! ## Profiles -/

/-- What the engine is asked about profiles is not seen of a document. -/
theorem look_configure {sync : Sync} {completed : List (Caller × String)}
    {results : List (Caller × SharedResult)} {rest : List SharedCall}
    (places : (before ++ rest ++ after).filterMap SharedCall.place? =
      shared.calls.filterMap SharedCall.place?)
    (seen : ∀ uri, (before ++ rest ++ after).filterMap (SharedCall.seen? uri shared.places) =
      shared.calls.filterMap (SharedCall.seen? uri shared.places))
    (lanes : sync.lanes = shared.sync.lanes)
    (disposed : sync.engine.isDisposed sync.session =
      shared.sync.engine.isDisposed shared.sync.session)
    (refusals : sync.engine.refusals = shared.sync.engine.refusals)
    (recorded : ∀ uri, sync.engine.callsAbout uri = shared.sync.engine.callsAbout uri)
    (nobody : ∀ entry ∈ completed, entry.1.subject = .configuration)
    (nothing : ∀ entry ∈ results, entry.1.subject = .configuration) (uri : Uri) :
    look uri ⟨sync, before ++ rest ++ after, shared.completed ++ completed,
      shared.results ++ results⟩ = shared.look uri := by
  have other {α : Type} (list : List (Caller × α))
      (about : ∀ entry ∈ list, entry.1.subject = .configuration) :
      list.filter (·.1.subject = .document uri) = [] :=
    List.filter_eq_nil_iff.mpr fun entry mem => by simp [about entry mem]
  simp only [look, Shared.places, places, lanes, disposed, refusals, recorded, List.filter_append,
    other completed nobody, other results nothing, List.append_nil, Sight.mk.injEq, and_true]
  exact seen uri

theorem places_configure (held : Option TicketId)
    (split : shared.calls = before ++ .configure number profile held :: after) :
    (before ++ after).filterMap SharedCall.place? = shared.places :=
  (places_none split rfl).symm

theorem seen_configure (held : Option TicketId)
    (split : shared.calls = before ++ .configure number profile held :: after) (uri : Uri)
    (places : List Place) : (before ++ after).filterMap (SharedCall.seen? uri places) =
      shared.calls.filterMap (SharedCall.seen? uri places) := by
  rw [split, List.filterMap_append, List.filterMap_append, List.filterMap_cons_none rfl]

/-- A chance of a profile that the engine has. -/
theorem Calm.settle_configured {answered : Option TicketId} (h : shared.Calm base answered)
    (split : shared.calls = before ++ .configure number profile (some ticket) :: after)
    (own : answered = none ∨ answered = some ticket) :
    let later := shared.settle before ⟨.configuration, number⟩ after
      (shared.sync.pollShared (.configure number profile (some ticket)))
    later.Calm base none ∧ ∀ uri, later.look uri = shared.look uri := by
  intro later
  have engine := h.engine_front split
  rcases own with rfl | rfl
  · have none := engine.collect?_none rfl
    have same : later = shared := by
      show shared.settle _ _ _ _ = shared
      simp only [Sync.pollShared, Sync.pollConfigured, none]
      exact settle_idle split _
    rw [same]
    exact ⟨h, fun _ => rfl⟩
  · have collected := engine.collect?_own rfl
    have places := places_configure (some ticket) split
    have settled : later = ⟨{ shared.sync with engine := { shared.sync.engine with
          tickets := shared.sync.engine.tickets.filter (·.id ≠ ticket)
          completed := shared.sync.engine.completed ++ [(Request.configure profile).key] } },
        before ++ [] ++ after,
        shared.completed ++ [(⟨.configuration, number⟩, (Request.configure profile).key)],
        shared.results ++ [(⟨.configuration, number⟩,
          .configured (shared.sync.engine.answer (.configure profile)))]⟩ := by
      show shared.settle _ _ _ _ = _
      simp only [Sync.pollShared, Sync.pollConfigured, collected]
      simp [settle, Progress.result, SharedCall.request]
    rw [settled]
    refine ⟨⟨h.session, h.filter, h.gated, h.defects, h.there, ?_, ?_⟩, fun uri => ?_⟩
    · have lanes := h.lanes
      rw [← places, ← List.append_nil before] at lanes
      exact lanes
    · rw [List.append_nil]
      exact engine.collected rfl _
    · refine look_configure ?_ (fun uri => ?_) rfl rfl rfl (fun _ => rfl) (by simp) (by simp) uri
      · rw [List.append_nil]
        exact places
      · rw [List.append_nil]
        exact seen_configure _ split uri _

/-- A profile goes to the engine. -/
def configuring (shared : Shared) (before : List SharedCall) (number : Nat) (profile : Profile)
    (after : List SharedCall) : Shared :=
  { shared with
    sync := { shared.sync.log [Session.requestEntry (.configure profile)] with
      engine := (shared.sync.engine.issue shared.sync.session (.configure profile)).1 }
    calls := before ++ .configure number profile (some shared.sync.engine.nextTicket) :: after }

theorem Calm.configuring (h : shared.Calm base none)
    (split : shared.calls = before ++ .configure number profile none :: after) :
    (shared.configuring before number profile after).Calm base
        (if shared.sync.engine.gated.contains (Request.configure profile).key then none
          else some shared.sync.engine.nextTicket) ∧
      ∀ uri, (shared.configuring before number profile after).look uri = shared.look uri := by
  have issue := Engine.issue_calm h.engine.permits shared.sync.session (.configure profile)
  have issued : (shared.configuring before number profile after).sync.engine = _ :=
    congrArg Prod.fst issue
  have engine := h.engine_front split
  have asks := @Engine.Calm.issue _ _ _ (.configure number profile
    (some shared.sync.engine.nextTicket)) _ engine rfl rfl rfl
  have places : (shared.configuring before number profile after).places = shared.places := by
    rw [← places_configure none split]
    exact places_none rfl rfl
  refine ⟨⟨h.session, h.filter, ?_, ?_, ?_, ?_, ?_⟩, fun uri => ?_⟩
  · rw [issued, ← h.gated]
  · rw [issued, ← h.defects]
  · rw [issued]
    exact h.there
  · rw [places]
    exact h.lanes
  · refine Engine.Calm.perm ?_ List.perm_middle.symm
    rw [← h.session] at asks ⊢
    exact asks
  · have calls := seen_configure none split uri shared.places
    have calls' := @seen_configure (shared.configuring before number profile after) before after
      number profile _ rfl uri shared.places
    simp only [look, Sight.mk.injEq, places]
    refine ⟨calls'.symm.trans calls, rfl, ?_, ?_, ?_, rfl, rfl⟩
    · rw [issued]
      rfl
    · rw [issued]
    · rw [issued]
      simp [Engine.callsAbout, EngineCall.asking?, Request.uri?]

/-- **A chance of a profile.** -/
theorem Calm.settle_configure (h : shared.Calm base none) {held : Option TicketId}
    (split : shared.calls = before ++ .configure number profile held :: after) :
    let later := shared.settle before ⟨.configuration, number⟩ after
      (shared.sync.pollShared (.configure number profile held))
    later.Calm base none ∧ ∀ uri, later.look uri = shared.look uri := by
  intro later
  cases held with
  | some ticket => exact h.settle_configured split (.inl rfl)
  | none =>
    cases disposed : shared.sync.engine.isDisposed shared.sync.session with
    | true =>
      have places := places_configure none split
      have settled : later = ⟨shared.sync.log [Session.requestEntry (.configure profile)],
          before ++ [] ++ after, shared.completed ++ [],
          shared.results ++ [(⟨.configuration, number⟩, .configured (.error .disposed))]⟩ := by
        show shared.settle _ _ _ _ = _
        simp only [Sync.pollShared, Session.request, disposed, if_true]
        simp [settle, Progress.result, Sync.log]
      have engine := h.engine_front split
      rw [settled]
      refine ⟨⟨h.session, h.filter, h.gated, h.defects, h.there, ?_, ?_⟩, fun uri => ?_⟩
      · have lanes := h.lanes
        rw [← places, ← List.append_nil before] at lanes
        exact lanes
      · rw [List.append_nil]
        exact (Engine.Calm.cons_iff rfl).mp engine
      · refine look_configure ?_ (fun uri => ?_) rfl rfl rfl (fun _ => rfl) (by simp) (by simp) uri
        · rw [List.append_nil]
          exact places
        · rw [List.append_nil]
          exact seen_configure _ split uri _
    | false =>
      have issue := Engine.issue_calm h.engine.permits shared.sync.session (.configure profile)
      have settled : later = (shared.configuring before number profile after).settle before
          ⟨.configuration, number⟩ after
          ((shared.configuring before number profile after).sync.pollShared
            (.configure number profile (some shared.sync.engine.nextTicket))) := by
        have next : (shared.sync.engine.issue shared.sync.session (.configure profile)).2 =
            shared.sync.engine.nextTicket := by rw [issue]
        have polled : shared.sync.pollShared (.configure number profile none) =
            (shared.configuring before number profile after).sync.pollShared
              (.configure number profile (some shared.sync.engine.nextTicket)) := by
          rw [← next]
          simp only [Sync.pollShared, Session.request, disposed, Bool.false_eq_true, if_false]
          rfl
        show shared.settle _ _ _ _ = _
        rw [polled]
        exact (settle_of_completed (by rw [issue]) _ _).symm
      obtain ⟨calm, looks⟩ := h.configuring split
      obtain ⟨calm', looks'⟩ := calm.settle_configured rfl (by split <;> simp)
      rw [settled]
      exact ⟨calm', fun uri => (looks' uri).trans (looks uri)⟩

end Shared
end EngineSync
