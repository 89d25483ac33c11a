import EngineSync.Proofs.Asking
import EngineSync.Proofs.Takings
import EngineSync.Proofs.Tracking

/-!
# How requests come to an end

Between two states of the engine a request comes to its end if it is over in the later one and was
not in the earlier (`Engine.Concludes`).  In a chance of a document no request does but its own, and
the document is taken just if that is answered with success (`Sync.Deals`).  Listeners are at work on
the documents of their events only, and the engine has what these have asked for (`World.Regular`).
-/
namespace EngineSync

/-! ## Requests that come to an end -/

namespace Engine
variable {engine engine' base : Engine} {number : TicketId} {session : SessionId}
  {request : Request} {profile profile' : Profile} {tickets tickets' : List TicketId}

/-- Between two states of the engine a request to a session has come to its end. -/
def Concludes (engine engine' : Engine) (session : SessionId) (request : Request) : Prop :=
  ∃ number, engine'.Over number ∧ ¬engine.Over number ∧
    engine'.made[number]? = some (session, request)

/-- Nothing has come to an end of what was not over. -/
theorem not_concludes (same : ∀ number, engine'.Over number → engine.Over number) :
    ¬engine.Concludes engine' session request :=
  fun ⟨number, ended, under, _⟩ => under (same number ended)

/-- What comes to its end does so before some moment or after it. -/
theorem concludes_iff (first : engine.Served profile base tickets)
    (later : engine'.Served profile' engine tickets') :
    base.Concludes engine' session request ↔
      base.Concludes engine session request ∨ engine.Concludes engine' session request := by
  constructor
  · rintro ⟨number, ended, under, made⟩
    by_cases between : engine.Over number
    · -- what is over was made, so it is the same request later
      refine .inl ⟨number, between, under, ?_⟩
      have kept := later.getElem? (List.getElem?_eq_getElem between.1)
      rw [List.getElem?_eq_getElem between.1, ← kept]
      exact made
    · exact .inr ⟨number, ended, between, made⟩
  · rintro (⟨number, ended, under, made⟩ | ⟨number, ended, under, made⟩)
    · exact ⟨number, later.ended ended, under, later.getElem? made⟩
    · exact ⟨number, ended, fun old => under (first.ended old), made⟩

/-- A request that is made is not over. -/
theorem Counted.over_issue (counted : engine.Counted) :
    (engine.issue session request).1.Over number ↔ engine.Over number := by
  have next := counted.next
  simp only [Over, made_issue, underway_issue, List.length_append, List.length_singleton,
    List.mem_append, List.mem_singleton, not_or]
  refine ⟨fun ⟨lt, gone, ne⟩ => ⟨?_, gone⟩, fun ⟨lt, gone⟩ => ⟨Nat.lt_succ_of_lt lt, gone, ?_⟩⟩
  · exact Nat.lt_of_le_of_ne (Nat.le_of_lt_succ lt) (next ▸ ne)
  · exact Nat.ne_of_lt (next ▸ lt)

/-- Just the request that is answered comes to its end. -/
theorem Counted.over_collect? (counted : engine.Counted) {answer : Except EngineFailure Unit}
    {ticket : TicketId} (collected : engine.collect? ticket = some (engine', answer)) :
    engine'.Over number ↔ engine.Over number ∨ number = ticket := by
  have lt := counted.lt_made (mem_underway_of_collect? collected)
  rw [Over, made_collect? collected, underway_without (claims_collect? collected), List.mem_filter]
  by_cases same : number = ticket
  · subst same
    simp [lt]
  · simp [Over, same]

/-- The answer is that to the request that was made under the number. -/
theorem Counted.answer_collect? (counted : engine.Counted) {answer : Except EngineFailure Unit}
    {ticket : TicketId} (collected : engine.collect? ticket = some (engine', answer))
    (made : engine.made[ticket]? = some (session, request)) : answer = engine.answer request := by
  obtain ⟨entry, mem, rfl, -, answered, -⟩ := collect?_eq collected
  have place := counted.places _ (List.mem_map_of_mem mem)
  have same : (entry.session, entry.request) = (session, request) :=
    Option.some.inj (place.symm.trans made)
  rw [answered, (Prod.mk.inj same).2]

end Engine

/-! ## A document on its way -/

/-- A document on its way, as it set out. -/
def Forwarding.anew (forwarding : Forwarding) : Forwarding :=
  { forwarding with stage := .arriving }

/-- Who is on the way to close a document has set out for a closed event. -/
theorem Forwarding.closes_of_event {forwarding : Forwarding} {event : Event}
    (brings : event.forwarding? = some forwarding.anew) (closes : forwarding.closes = true) :
    event = .closed forwarding.doc := by
  have told : forwarding.anew.closes = true := closes
  have doc : forwarding.anew.doc = forwarding.doc := rfl
  cases event with
  | closed other =>
    rw [← doc, ← Option.some.inj brings]
    rfl
  | opened | changed =>
    rw [← Option.some.inj brings] at told
    cases told
  | configuration => cases brings

namespace Sync
variable {sync after : Sync} {forwarding : Forwarding} {moves : List LaneMove}
  {progress : Progress Forwarding ForwardingResult}

/-- A document stands in a lane only if it is tracked. -/
def Admits (sync : Sync) (forwarding : Forwarding) : Prop :=
  forwarding.stage ≠ .arriving → sync.filter.tracks forwarding.doc = true

theorem Admits.hop (h : sync.Admits forwarding) (hop : Hop sync forwarding moves after progress) :
    after.filter = sync.filter ∧
      (∀ next ∈ progress.rest, next.anew = forwarding.anew ∧ sync.Admits next) ∧
      ∀ taken, progress = .finished (.ok taken) → taken = sync.filter.tracks forwarding.doc := by
  cases hop with
  | skip arriving untracked =>
    refine ⟨by split <;> rfl, nofun, ?_⟩
    rintro taken ⟨⟩
    exact untracked.symm
  | reach arriving tracked entered =>
    refine ⟨rfl, fun next mem => ?_, nofun⟩
    rw [List.mem_singleton.mp mem]
    exact ⟨rfl, fun _ => tracked⟩
  | refuse queued holds disposed => exact ⟨rfl, nofun, nofun⟩
  | issue queued holds up =>
    refine ⟨rfl, fun next mem => ?_, nofun⟩
    rw [List.mem_singleton.mp mem]
    exact ⟨rfl, fun _ => h (by rw [queued]; nofun)⟩
  | @collect lane turn ticket engine answer calling collected =>
    refine ⟨rfl, nofun, fun taken finished => ?_⟩
    rw [h (by rw [calling]; nofun)]
    cases answer with
    | error failure => cases finished
    | ok => exact (Except.ok.inj (Progress.finished.inj finished)).symm

/-- A chance of a document leaves it what it is, and one that was taken is tracked. -/
theorem Admits.poll (h : sync.Admits forwarding) :
    (∀ next ∈ (sync.poll forwarding).2.rest, next.anew = forwarding.anew ∧ sync.Admits next) ∧
      ∀ taken, (sync.poll forwarding).2 = .finished (.ok taken) →
        taken = sync.filter.tracks forwarding.doc := by
  have ends := @Chain.ends _ _ _ _ _
    (fun between next => between.filter = sync.filter ∧ next.anew = forwarding.anew ∧
      sync.Admits next)
    (fun result => ∀ taken, result = .ok taken → taken = sync.filter.tracks forwarding.doc)
    (fun {between next _ _ _} ⟨filter, same, admits⟩ hop => by
      have doc : next.anew.doc = forwarding.anew.doc := congrArg Forwarding.doc same
      have admits' : between.Admits next := fun placed => by rw [filter]; exact admits placed
      obtain ⟨filter', later, taken⟩ := admits'.hop hop
      refine ⟨fun last mem => ⟨filter'.trans filter, (later last mem).1.trans same, ?_⟩, ?_⟩
      · exact fun placed => filter ▸ (later last mem).2 placed
      · rintro result finished value rfl
        rw [taken value finished, filter]
        exact congrArg sync.filter.tracks doc)
    _ _ _ _ _ (sync.poll_hops forwarding) ⟨rfl, rfl, h⟩
  exact ⟨fun next mem => (ends.1 next mem).2, fun taken finished => ends.2 _ finished taken rfl⟩

/-- All that a document asks of its session is its own request. -/
def Asks (sync : Sync) (request : Request) (after : Sync) : Prop :=
  after.session = sync.session ∧ ∀ uri, ∃ issued, after.engine.asked sync.session uri =
    sync.engine.asked sync.session uri ++ issued ∧ ∀ asked ∈ issued, asked = request

theorem Asks.of_same (session : after.session = sync.session)
    (calls : after.engine.calls = sync.engine.calls) (request : Request) :
    sync.Asks request after := by
  refine ⟨session, fun uri => ⟨[], ?_, nofun⟩⟩
  rw [List.append_nil]
  exact Engine.asked_of_callsOf (by rw [Engine.callsOf, calls, Engine.callsOf]) uri

theorem asks_hop (hop : Hop sync forwarding moves after progress) :
    sync.Asks forwarding.request after ∧
      ∀ next ∈ progress.rest, next.request = forwarding.request := by
  cases hop with
  | skip arriving untracked =>
    exact ⟨.of_same (by split <;> rfl) (by split <;> rfl) _, nofun⟩
  | reach arriving tracked entered =>
    refine ⟨.of_same rfl rfl _, fun next mem => ?_⟩
    rw [List.mem_singleton.mp mem]
    rfl
  | refuse queued holds disposed => exact ⟨.of_same rfl rfl _, nofun⟩
  | issue queued holds up =>
    refine ⟨⟨rfl, fun uri => ⟨_, Engine.asked_issue sync.engine sync.session _ uri, ?_⟩⟩,
      fun next mem => ?_⟩
    · exact fun asked mem => List.mem_singleton.mp (List.mem_of_mem_filter mem)
    · rw [List.mem_singleton.mp mem]
      rfl
  | collect calling collected =>
    obtain ⟨_, -, -, -, -, rfl⟩ := Engine.collect?_eq collected
    exact ⟨.of_same rfl rfl _, nofun⟩

theorem asks_poll (sync : Sync) (forwarding : Forwarding) :
    sync.Asks forwarding.request (sync.poll forwarding).1 := by
  refine ((sync.poll_hops forwarding).carries
    (fun between rest => sync.Asks forwarding.request between ∧
      ∀ next ∈ rest, next.request = forwarding.request)
    (fun {between next _ later _} ⟨⟨session, asked⟩, same⟩ hop => ?_)
    ⟨.of_same rfl rfl _, fun next mem => by rw [List.mem_singleton.mp mem]⟩).1
  obtain ⟨⟨session', asked'⟩, same'⟩ := asks_hop hop
  have own := same next List.mem_cons_self
  refine ⟨⟨session'.trans session, fun uri => ?_⟩, fun last mem => (same' last mem).trans own⟩
  obtain ⟨issued, first, all⟩ := asked uri
  obtain ⟨issued', second, all'⟩ := asked' uri
  rw [session, first, List.append_assoc] at second
  refine ⟨issued ++ issued', second, fun request mem => ?_⟩
  exact (List.mem_append.mp mem).elim (all request) fun new => (all' request new).trans own


/-! ### Which request a chance of a document ends -/

/-- What a chance of a document makes of the requests: none comes to its end but its own, and it is
taken just if that has, with success. -/
structure Deals (sync : Sync) (forwarding : Forwarding) (engine : Engine)
    (progress : Progress Forwarding ForwardingResult) : Prop where
  own : ∀ number, engine.Over number → ¬sync.engine.Over number →
    engine.made[number]? = some (sync.session, forwarding.request)
  taken : progress = .finished (.ok true) ↔
    sync.engine.Concludes engine sync.session forwarding.request ∧
      sync.engine.answer forwarding.request = .ok ()
  answers : ∀ request, engine.answer request = sync.engine.answer request

variable {engine : Engine} {lane : LaneId} {turn : TurnId} {ticket : TicketId}

theorem Deals.idle (same : ∀ number, engine.Over number → sync.engine.Over number)
    (answers : ∀ request, engine.answer request = sync.engine.answer request)
    (other : progress ≠ .finished (.ok true)) : Deals sync forwarding engine progress where
  own number now before := absurd (same number now) before
  taken := iff_of_false other fun ends => Engine.not_concludes same ends.1
  answers := answers

theorem deals_calling (calling : forwarding.stage = .calling lane turn ticket)
    (counted : sync.engine.Counted) (has : sync.Has (ticket, forwarding.request)) :
    Deals sync forwarding (sync.poll forwarding).1.engine (sync.poll forwarding).2 := by
  simp only [poll, calling, pollCalling]
  cases collected : sync.engine.collect? ticket with
  | none => exact .idle (fun _ ended => ended) (fun _ => rfl) (by simp)
  | some outcome =>
    obtain ⟨engine, answer⟩ := outcome
    have made : engine.made[ticket]? = some (sync.session, forwarding.request) :=
      Engine.made_collect? collected ▸ has
    have under : ¬sync.engine.Over ticket :=
      fun ended => ended.2 (Engine.mem_underway_of_collect? collected)
    have ended (number : TicketId) :
        engine.Over number ↔ sync.engine.Over number ∨ number = ticket :=
      counted.over_collect? collected
    have concludes : sync.engine.Concludes engine sync.session forwarding.request :=
      ⟨ticket, (ended ticket).mpr (.inr rfl), under, made⟩
    have answered := counted.answer_collect? collected has
    refine ⟨fun number now before => ?_, ?_, fun request => ?_⟩
    · rw [((ended number).mp now).resolve_left before]
      exact made
    · rw [← answered]
      cases answer with
      | error failure => exact iff_of_false (by simp [Except.map]) (by simp)
      | ok => exact iff_of_true rfl ⟨concludes, rfl⟩
    · obtain ⟨_, -, -, -, -, rfl⟩ := Engine.collect?_eq collected
      rfl

theorem deals_queued (queued : forwarding.stage = .queued lane turn)
    (counted : sync.engine.Counted) :
    Deals sync forwarding (sync.poll forwarding).1.engine (sync.poll forwarding).2 := by
  cases holds : sync.lanes.holds lane turn with
  | false =>
    rw [poll_waiting queued holds]
    exact .idle (fun _ ended => ended) (fun _ => rfl) (by simp)
  | true =>
    cases disposed : sync.engine.isDisposed sync.session with
    | true =>
      rw [poll_refused queued holds disposed]
      exact .idle (fun _ ended => ended) (fun _ => rfl) (by simp)
    | false =>
      -- the engine has the call now, which was not over before either
      rw [poll_issued queued holds disposed]
      obtain ⟨own, taken, answers⟩ := @deals_calling
        { sync.log [forwarding.entry, Session.requestEntry forwarding.request] with
          engine := (sync.engine.issue sync.session forwarding.request).1 }
        { forwarding with
          stage := .calling lane turn (sync.engine.issue sync.session forwarding.request).2 }
        lane turn _ rfl (counted.issue sync.session forwarding.request)
        (counted.made_number sync.session forwarding.request)
      refine ⟨fun number now before => own number now (before ∘ counted.over_issue.mp), ?_,
        fun request => (answers request).trans (Engine.issue_answer ..)⟩
      simp only [Engine.Concludes, counted.over_issue, Engine.issue_answer] at taken
      exact taken

/-- **A chance of a document** ends no request but its own, and the document is taken just if that
is answered with success. -/
theorem deals_poll (counted : sync.engine.Counted)
    (has : ∀ asked ∈ forwarding.asked?, sync.Has asked) :
    Deals sync forwarding (sync.poll forwarding).1.engine (sync.poll forwarding).2 := by
  cases stage : forwarding.stage with
  | calling lane turn ticket =>
    refine deals_calling stage counted (has _ ?_)
    simp [Forwarding.asked?, Forwarding.ticket?, stage]
  | queued lane turn => exact deals_queued stage counted
  | arriving =>
    cases tracked : sync.filter.tracks forwarding.doc with
    | false =>
      simp only [poll, stage, pollArriving, tracked, Bool.false_eq_true, if_false]
      cases forwarding.closes <;> exact .idle (fun _ ended => ended) (fun _ => rfl) (by simp)
    | true =>
      rcases entered : sync.lanes.enter forwarding.doc.uri with ⟨lanes, lane, turn⟩
      rw [poll_tracked stage tracked entered]
      obtain ⟨own, taken, answers⟩ := @deals_queued { sync with lanes }
        { forwarding with stage := .queued lane turn } lane turn rfl counted
      exact ⟨own, taken, answers⟩

end Sync

namespace World
variable {world world' : World} {call : Call} {calls : List Call} {id : ActivationId}
  {event : Event} {notes : List WorldNote} {progress : Progress Call CallResult}
  {forwarding : Forwarding} {profile : Profile} {tickets : List TicketId}
  {waiting : List (Subscription Listener)}

/-! ## Listeners and their documents -/

/-- A document is on its way for an event: it stands in a lane only if it is tracked, and the engine
has what was asked for. -/
structure Conveys (world : World) (id : ActivationId) (event : Event) (forwarding : Forwarding) :
    Prop where
  brings : event.forwarding? = some forwarding.anew
  admits : (world.sync id).Admits forwarding
  has : ∀ asked ∈ forwarding.asked?, (world.sync id).Has asked

/-- A listener at work on a document is at work on that of its event, and one that routes a change
has no document. -/
def Apt (world : World) : Call → Prop
  | .publish (.delivering ⟨event, some (.activation id (.forwarding forwarding)), _⟩) =>
    world.Conveys id event forwarding
  | .publish (.delivering ⟨event, some (.activation _ (.routing _)), _⟩) => event.forwarding? = none
  | _ => True

/-- A call that stays as it is stays apt. -/
theorem Apt.later (h : Apt world call)
    (served : world'.env.engine.Served profile world.env.engine tickets)
    (same : ∀ id ∈ call.ids, (world'.activation id).belongings = (world.activation id).belongings) :
    Apt world' call := by
  unfold Apt at h ⊢
  split
  · next id forwarding waiting =>
    have belongs := same id List.mem_cons_self
    have session : (world'.sync id).session = (world.sync id).session := congrArg (·.1) belongs
    have filter : (world'.sync id).filter = (world.sync id).filter := congrArg (·.2.1) belongs
    refine ⟨h.brings, fun placed => filter ▸ h.admits placed, fun asked mem => ?_⟩
    rw [Sync.Has, session]
    exact served.getElem? (h.has asked mem)
  · exact h
  · trivial

/-- What is known of every world that is reached. -/
structure Regular (world : World) (calls : List Call) : Prop where
  sound : Sound world calls
  attended : world.Attended calls
  apt : ∀ call ∈ calls, world.Apt call

namespace Regular

theorem served (h : Regular world (call :: calls)) :
    world.env.engine.Served world.profile world.env.engine
      (call.tickets ++ calls.flatMap Call.tickets) :=
  Engine.Serves.start h.attended

/-- A document that goes on is the one that it was. -/
theorem apt_forward (h : Regular world (.publish (.delivering
      ⟨event, some (.activation id (.forwarding forwarding)), waiting⟩) :: calls)) :
    ∀ next ∈ (delivered event waiting (world.pollForwarding id forwarding).2).rest,
      Apt (world.pollForwarding id forwarding).1 next := by
  intro next mem
  obtain ⟨brings, admits, has⟩ := h.apt _ List.mem_cons_self
  have goes := (world.sync id).poll_goes forwarding
  have polled := admits.poll.1
  have has' := Sync.poll_has h.served has
  have own := sync_pollForwarding (h.sound.lt_of_ids List.mem_cons_self) forwarding
  unfold pollForwarding at mem own ⊢
  revert mem goes polled has' own
  rcases (world.sync id).poll forwarding with ⟨sync, later | failure | taken⟩ <;>
    intro mem goes polled has' own
  · obtain ⟨same, placed⟩ := polled later List.mem_cons_self
    rw [List.mem_singleton.mp mem]
    refine ⟨brings.trans (congrArg some same.symm), fun stands => ?_, fun asked there => ?_⟩
    · rw [own, goes.filter]
      exact placed stands
    · rw [own]
      exact has' later List.mem_cons_self asked there
  · cases mem
  · simp only [concludeForwarding] at mem
    split at mem <;> rw [List.mem_singleton.mp mem] <;> trivial

theorem apt_hop (h : Regular world (call :: calls)) (hop : Hop world call notes world' progress) :
    ∀ next ∈ progress.rest, Apt world' next := by
  intro next mem
  have apt := h.apt call List.mem_cons_self
  cases hop with
  | refused | rejected | ready | failed | finish => cases mem
  | began | subscribed | replay | publish => rw [List.mem_singleton.mp mem]; trivial
  | call event next waiting =>
    rw [List.mem_singleton.mp mem]
    unfold startListener
    cases next.listener <;> trivial
  | @listen event listener waiting _ _ _ hop =>
    cases hop with
    | pass abandoned => rw [List.mem_singleton.mp mem]; trivial
    | take released =>
      rw [List.mem_singleton.mp mem]
      cases event with
      | opened doc | changed doc | closed doc => exact ⟨rfl, fun stands => absurd rfl stands, nofun⟩
      | configuration change => rfl
    | forward id forwarding => exact h.apt_forward next mem
    | route id call =>
      have none_brought : event.forwarding? = none := apt
      unfold pollRouting at mem
      revert mem
      rcases (world.activation id).router.poll world.env call with ⟨env, later | failure | taken⟩ <;>
        intro mem
      · rw [List.mem_singleton.mp mem]
        exact none_brought
      · cases mem
      · rw [List.mem_singleton.mp mem]
        trivial
    | @answered number answer found =>
      rcases answer with failure | ⟨⟩
      · cases mem
      · rw [List.mem_singleton.mp mem]
        trivial
  | sync id call =>
    rw [World.poll, Progress.rest_map] at mem
    obtain ⟨call', -, rfl⟩ := List.mem_map.mp mem
    trivial

theorem hop (h : Regular world (call :: calls)) (hop : Hop world call notes world' progress) :
    Regular world' (progress.rest ++ calls) := by
  refine ⟨h.sound.hop hop, h.attended.hop hop, fun next mem => ?_⟩
  rcases List.mem_append.mp mem with new | old
  · exact h.apt_hop hop next new
  · have there := List.mem_cons_of_mem call old
    refine (h.apt next there).later (served_hop h.served hop) fun id own => ?_
    exact lasting_belongings.hop h.sound (h.sound.orderly.ids_lt next there id own)
      (.inr fun _ _ => rfl) hop

/-- **Every world that is reached regular** its calls. -/
theorem tells : Tells fun world calls _ => Regular world calls where
  tidy h := h.sound.tidy
  perm hp h := ⟨h.sound.perm hp, Engine.Serves.perm h.attended (hp.flatMap_right _),
    fun call mem => h.apt call (hp.mem_iff.mpr mem)⟩
  accept {world calls _ request call} h accepted := by
    refine ⟨h.sound.accepts accepted, h.attended.accepts accepted,
      List.forall_mem_cons.mpr ⟨?_, h.apt⟩⟩
    cases request with
    | activate name | publish event => cases accepted; trivial
    | sync id request =>
      simp only [World.accept, Option.ite_none_right_eq_some, Option.some.injEq] at accepted
      rw [← accepted.2]
      trivial
  hop h step := h.hop step
  cancel {world call calls _} h := by
    refine ⟨h.sound.cancels, h.attended.cancels, fun next mem => ?_⟩
    refine (h.apt next (List.mem_cons_of_mem _ mem)).later (served_cancel h.served) fun id _ => ?_
    exact lasting_belongings.cancel world id (.inr fun _ _ => rfl)
  surround move h := by
    refine ⟨h.sound.surrounds move, h.attended.surrounds move, fun next mem => ?_⟩
    refine (h.apt next mem).later (served_surround (Engine.Serves.start h.attended) move)
      fun id _ => lasting_belongings.surround h.sound id move

theorem host (outset : Outset) (ledger : Ledger) : Regular (outset.host ledger).state [] :=
  ⟨sound_host outset ledger, attended_host outset ledger, nofun⟩

end Regular
end World
end EngineSync
