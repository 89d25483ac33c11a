import EngineSync.Proofs.Collections
import EngineSync.Proofs.Settling

/-!
# Diagnostics of documents that are closed

A listener that has told the engine of the end of a document drops its diagnostics, in the same
chance in which the engine's answer is taken up.  `World.closings` are the documents for which this
happens in a chance.  They are all that a chance changes in the diagnostics.  A document is one of
them just if it is that of a published closed event and its close comes to its end with success
(`World.Ends`); until it is dropped nothing else is asked of any session.
-/
namespace EngineSync
namespace World
variable {base world world' : World} {call : Call} {calls : List Call} {id : ActivationId}
  {event : Event} {notes : List WorldNote} {progress : Progress Call CallResult}
  {forwarding : Forwarding} {closed : List (CollectionId × Uri)} {doc : Document}

/-! ## What a chance drops -/

/-- The diagnostics that a listener drops in its chance. -/
def closingBy (world : World) (event : Event) : ListenerCall → List (CollectionId × Uri)
  | .activation id .arriving =>
    if (world.activation id).barrier = .open then event.forwarding?.elim [] (world.closing id)
    else []
  | .activation id (.forwarding forwarding) => world.closing id forwarding
  | .activation _ (.routing _) | .outside _ => []

/-- The diagnostics that listeners drop while an event is delivered. -/
def closingsFrom (world : World) (event : Event) :
    List (Subscription Listener) → List (CollectionId × Uri)
  | [] => []
  | next :: waiting =>
    let (world, call) := world.startListener next.listener
    world.closingBy event call ++
      match world.pollListener event call with
      | (world, .finished (.ok ())) => world.closingsFrom event waiting
      | _ => []

/-- The diagnostics that are dropped in the chance of a call, in order. -/
def closings (world : World) : Call → List (CollectionId × Uri)
  | .publish (.arriving event) =>
    let waiting := world.env.bus.subscribers event.kind
    (world.log [.publishEvent event.kind.name waiting.length]).closingsFrom event waiting
  | .publish (.delivering ⟨event, none, waiting⟩) => world.closingsFrom event waiting
  | .publish (.delivering ⟨event, some call, waiting⟩) =>
    world.closingBy event call ++
      match world.pollListener event call with
      | (world, .finished (.ok ())) => world.closingsFrom event waiting
      | _ => []
  | .activate _ _ | .sync _ _ => []

/-- One step of a call, with the diagnostics that it drops. -/
def ClosingHop (world : World) (call : Call) (closed : List (CollectionId × Uri)) (world' : World)
    (progress : Progress Call CallResult) : Prop :=
  closed = world.closingAt call ∧ ∃ notes, Hop world call notes world' progress

theorem listening_hops (world : World) (event : Event) (call : ListenerCall)
    (waiting : List (Subscription Listener)) :
    Chain ClosingHop world (.publish (.delivering ⟨event, some call, waiting⟩))
      (world.closingBy event call) (world.pollListener event call).1
      (delivered event waiting (world.pollListener event call).2) := by
  match call with
  | .activation id .arriving =>
    cases barrier : (world.activation id).barrier with
    | replaying =>
      simp only [closingBy, pollListener, barrier, reduceCtorEq, if_false]
      exact .rest _ _
    | abandoned =>
      simp only [closingBy, pollListener, barrier, reduceCtorEq, if_false]
      exact .single ⟨rfl, _, .listen (.pass barrier)⟩
    | «open» =>
      simp only [closingBy, pollListener, barrier, if_true]
      have take : ClosingHop world
          (.publish (.delivering ⟨event, some (.activation id .arriving), waiting⟩)) [] world
          (delivered event waiting (.pending (.activation id (.taking event)))) :=
        ⟨rfl, _, .listen (.take barrier)⟩
      refine Chain.step take ?_
      cases event with
      | opened doc | changed doc | closed doc => exact .single ⟨rfl, _, .listen (.forward ..)⟩
      | configuration change => exact .single ⟨rfl, _, .listen (.route ..)⟩
  | .activation id (.forwarding forwarding) => exact .single ⟨rfl, _, .listen (.forward ..)⟩
  | .activation id (.routing call) => exact .single ⟨rfl, _, .listen (.route ..)⟩
  | .outside number =>
    cases answer : world.outsideAnswers.lookup number with
    | none =>
      simp only [closingBy, pollListener, answer]
      exact .rest _ _
    | some answer' =>
      simp only [closingBy, pollListener, answer]
      exact .single ⟨rfl, _, .listen (.answered answer)⟩

theorem delivering_hops (world : World) (event : Event) (waiting : List (Subscription Listener)) :
    Chain ClosingHop world (.publish (.delivering ⟨event, none, waiting⟩))
      (world.closingsFrom event waiting) (world.deliver event waiting).1
      (world.deliver event waiting).2 := by
  induction waiting generalizing world with
  | nil =>
    have last : ClosingHop world (.publish (.delivering ⟨event, none, []⟩)) [] world
        (.finished .delivered) := ⟨rfl, _, .finish world event⟩
    exact .finish last
  | cons next waiting ih =>
    have first := Chain.step ⟨rfl, _, .call world event next waiting⟩
      (listening_hops (world.startListener next.listener).1 event _ waiting)
    rw [deliver, closingsFrom]
    rcases polled : (world.startListener next.listener).1.pollListener event
      (world.startListener next.listener).2 with ⟨after, call | failure | ⟨⟩⟩
    · simpa [polled, delivered, closingAt] using first
    · simpa [polled, delivered, closingAt] using first
    · rw [polled] at first
      simpa [polled, delivered, closingAt] using first.trans (ih after)

/-- A call that does not publish drops no diagnostics. -/
theorem quiet_hops (hops : Chain Hop world call notes world' progress) (quiet : call.event? = none) :
    Chain ClosingHop world call [] world' progress := by
  have nothing {world : World} {call : Call} (quiet : call.event? = none) :
      world.closingAt call = [] := by
    match call with
    | .activate _ _ | .sync _ _ => rfl
  induction hops with
  | rest => exact .rest _ _
  | finish hop => exact .finish ⟨(nothing quiet).symm, _, hop⟩
  | step hop _ ih =>
    refine Chain.step ⟨(nothing quiet).symm, _, hop⟩ (ih ?_)
    rw [event_hop hop _ List.mem_cons_self, quiet]

/-- **A chance is a row of steps**, which drop what it drops. -/
theorem closing_hops (tidy : world.env.Tidy) (call : Call) :
    Chain ClosingHop world call (world.closings call) (world.poll call).1 (world.poll call).2 := by
  match call with
  | .activate _ _ | .sync _ _ => exact quiet_hops (poll_hops tidy _) rfl
  | .publish (.arriving event) =>
    exact Chain.step ⟨rfl, _, .publish world event⟩ (delivering_hops _ event _)
  | .publish (.delivering ⟨event, none, waiting⟩) => exact delivering_hops world event waiting
  | .publish (.delivering ⟨event, some call, waiting⟩) =>
    have first := listening_hops world event call waiting
    simp only [closings, poll, pollPublish]
    rcases polled : world.pollListener event call with ⟨after, call' | failure | ⟨⟩⟩
    · simpa [polled, delivered] using first
    · simpa [polled, delivered] using first
    · rw [polled] at first
      simpa [polled, delivered] using first.trans (delivering_hops after event waiting)

/-- **A chance changes no diagnostics but those that it drops.** -/
theorem alters_poll (sound : Sound world (call :: calls)) :
    Alters (Clears (world.closings call)) world (world.poll call).1 := by
  have kept := (closing_hops sound.tidy call).keeps
    (fun after rest closed => Sound after (rest ++ calls) ∧ Alters (Clears closed) world after)
    (fun {after next shown later _ closed} ⟨sound, alters⟩ ⟨same, _, hop⟩ =>
      ⟨sound.hop hop, same ▸ alters.trans (.hop sound hop)⟩)
    (⟨sound, .still (.refl world)⟩ : Sound world ([call] ++ calls) ∧ Alters (Clears []) world world)
  exact kept.2

/-! ## What a publication drops -/

/-- A document that a listener drops is the closed one of its event, and is tracked. -/
theorem Conveys.closing (h : world.Conveys id event forwarding) {entry : CollectionId × Uri}
    (mem : entry ∈ world.closing id forwarding) :
    ∃ doc, event = .closed doc ∧ entry = ((world.activation id).collection, doc.uri) ∧
      (world.activation id).filter.tracks doc = true := by
  unfold World.closing at mem
  split at mem
  · next closes taken =>
    rw [List.mem_singleton.mp mem]
    exact ⟨_, forwarding.closes_of_event h.brings closes, rfl, (h.admits.poll.2 true taken).symm⟩
  · cases mem

/-- A document on its way for a closed event is to be closed. -/
theorem Conveys.closes (h : world.Conveys id (.closed doc) forwarding) :
    forwarding.doc = doc ∧ forwarding.closes = true := by
  have same : Forwarding.close doc = forwarding.anew := Option.some.inj h.brings
  exact ⟨(congrArg Forwarding.doc same).symm, (congrArg Forwarding.closes same).symm⟩

theorem Conveys.request (h : world.Conveys id (.closed doc) forwarding) :
    forwarding.request = .close doc.uri := by
  obtain ⟨rfl, closes⟩ := h.closes
  exact if_pos closes

theorem Conveys.mem_closing (h : world.Conveys id (.closed doc) forwarding) :
    ((world.activation id).collection, doc.uri) ∈ world.closing id forwarding ↔
      ((world.sync id).poll forwarding).2 = .finished (.ok true) := by
  obtain ⟨rfl, closes⟩ := h.closes
  rw [World.closing, closes]
  rcases ((world.sync id).poll forwarding).2 with next | failure | ⟨- | -⟩ <;> simp

theorem engine_pollForwarding (world : World) (id : ActivationId) (forwarding : Forwarding) :
    (world.pollForwarding id forwarding).1.env.engine =
      ((world.sync id).poll forwarding).1.engine := by
  unfold pollForwarding
  rcases (world.sync id).poll forwarding with ⟨sync, next | failure | taken⟩
  · rfl
  · rfl
  · simp only [concludeForwarding]
    split <;> rfl

/-- A step in the publication of a closed document is that of the document on its way, or drops
nothing and leaves the engine alone. -/
theorem Regular.closed_hop (h : Regular world (call :: calls)) (brings : call.event? = some (.closed doc))
    (hop : Hop world call notes world' progress) :
    (∃ id forwarding waiting, call = .publish (.delivering
        ⟨.closed doc, some (.activation id (.forwarding forwarding)), waiting⟩) ∧
      world' = (world.pollForwarding id forwarding).1) ∨
    world.closingAt call = [] ∧ world'.env.engine = world.env.engine := by
  cases hop with
  | publish | finish => exact .inr ⟨rfl, rfl⟩
  | call event next waiting =>
    refine .inr ⟨rfl, ?_⟩
    unfold startListener
    cases next.listener <;> rfl
  | @listen event listener waiting _ _ _ hop =>
    cases brings
    cases hop with
    | pass | take | answered => exact .inr ⟨rfl, rfl⟩
    | forward id forwarding => exact .inl ⟨id, forwarding, waiting, rfl, rfl⟩
    | route id route => exact nomatch (h.apt _ List.mem_cons_self : Event.forwarding? _ = none)
  | _ => cases brings

/-- **A step of the publication of a closed document** drops it for an activation just if its close
comes to its end there, with success. -/
theorem Regular.ends_hop (h : Regular world (call :: calls)) (brings : call.event? = some (.closed doc))
    (hop : Hop world call notes world' progress) :
    (∀ id < world.activations.length,
      (((world.activation id).collection, doc.uri) ∈ world.closingAt call ↔
        world.env.engine.Concludes world'.env.engine (world.activation id).session
            (.close doc.uri) ∧
          world.env.engine.answer (.close doc.uri) = .ok ())) ∧
      ∀ request, world'.env.engine.answer request = world.env.engine.answer request := by
  rcases h.closed_hop brings hop with ⟨id', forwarding, waiting, rfl, rfl⟩ | ⟨nothing, same⟩
  · have conveys : world.Conveys id' (.closed doc) forwarding := h.apt _ List.mem_cons_self
    have deals : (world.sync id').Deals forwarding _ _ :=
      Sync.deals_poll h.served.counted conveys.has
    rw [engine_pollForwarding]
    refine ⟨fun id lt => ?_, deals.answers⟩
    by_cases own : id = id'
    · subst own
      have taken := deals.taken
      rw [conveys.request] at taken
      exact conveys.mem_closing.trans taken
    · -- collections and sessions of activations are apart, and both are those of the listener
      have lt' := h.sound.lt_of_ids List.mem_cons_self
      refine iff_of_false (fun mem => ?_) fun ends => ?_
      · obtain ⟨_, -, same, -⟩ := conveys.closing mem
        exact h.sound.owned.collection_ne (Sound.core_eq lt') (Sound.core_eq lt) own
          (congrArg Prod.fst same)
      · obtain ⟨number, ended, under, made⟩ := ends.1
        have session := (deals.own number ended under).symm.trans made
        exact h.sound.owned.session_ne (Sound.core_eq lt') (Sound.core_eq lt) own
          (congrArg Prod.fst (Option.some.inj session)).symm
  · rw [nothing, same]
    refine ⟨fun id lt => iff_of_false List.not_mem_nil fun ends => ?_, fun _ => rfl⟩
    exact Engine.not_concludes (fun _ ended => ended) ends.1

/-- What a step of a publication that is on no document of an activation makes of these. -/
theorem Sound.unmoved_publication (sound : Sound world (call :: calls))
    (lt : id < world.activations.length) (brings : call.event? = some event)
    (apart : ∀ event forwarding waiting, call ≠
      .publish (.delivering ⟨event, some (.activation id (.forwarding forwarding)), waiting⟩))
    (hop : Hop world call notes world' progress) : Unmoved id world world' := by
  obtain ⟨stage, rfl⟩ : ∃ stage, call = .publish stage := by
    cases call with
    | publish stage => exact ⟨stage, rfl⟩
    | activate | sync => cases brings
  by_cases works : (Call.publish stage).worksFor? = some id
  · exact sound.unmoved_apart lt works nofun apart hop
  · exact (sound.leaves_hop lt works nofun nofun hop).unmoved

theorem length_publication (brings : call.event? = some event)
    (hop : Hop world call notes world' progress) (sound : Sound world (call :: calls)) :
    world'.activations.length = world.activations.length := by
  cases hop with
  | publish | finish => rfl
  | call event next waiting =>
    unfold startListener
    cases next.listener <;> rfl
  | listen hop =>
    cases hop with
    | pass | take | answered => rfl
    | forward id forwarding => exact (works_forwarding world id forwarding).calm.length
    | route id call => exact (works_routing sound.tidy id call).calm.length
  | _ => cases brings

/-- A publication on its way from a world: what it has dropped was closed by its event and is
tracked, and sessions were asked for nothing but what its event asks for. -/
structure Goes (base : World) (event : Event) (calls : List Call) (world : World)
    (rest : List Call) (closed : List (CollectionId × Uri)) : Prop where
  regular : Regular world (rest ++ calls)
  brings : ∀ next ∈ rest, next.event? = some event
  length : world.activations.length = base.activations.length
  belongs : ∀ id < base.activations.length,
    (world.activation id).belongings = (base.activation id).belongings
  proper : ∀ entry ∈ closed, ∃ id < base.activations.length, ∃ doc, event = .closed doc ∧
    entry = ((base.activation id).collection, doc.uri) ∧
      (base.activation id).filter.tracks doc = true
  asked : ∀ id < base.activations.length, ∀ uri, ∃ issued,
    world.asked id uri = base.asked id uri ++ issued ∧
      ∀ request ∈ issued, event.forwarding?.map Forwarding.request = some request

namespace Goes

theorem session (h : Goes base event calls world [call] closed) (lt : id < base.activations.length) :
    (world.activation id).session = (base.activation id).session :=
  congrArg (·.1) (h.belongs id lt)

theorem filter (h : Goes base event calls world [call] closed) (lt : id < base.activations.length) :
    (world.activation id).filter = (base.activation id).filter :=
  congrArg (·.2.1) (h.belongs id lt)

theorem collection (h : Goes base event calls world [call] closed)
    (lt : id < base.activations.length) :
    (world.activation id).collection = (base.activation id).collection :=
  congrArg (·.2.2.2) (h.belongs id lt)

theorem proper_hop (h : Goes base event calls world [call] closed) :
    ∀ entry ∈ world.closingAt call, ∃ id < base.activations.length, ∃ doc, event = .closed doc ∧
      entry = ((base.activation id).collection, doc.uri) ∧
        (base.activation id).filter.tracks doc = true := by
  intro entry mem
  unfold closingAt at mem
  split at mem
  · next event' id forwarding waiting =>
    have conveys : world.Conveys id event' forwarding := h.regular.apt _ List.mem_cons_self
    cases h.brings _ List.mem_cons_self
    have lt : id < world.activations.length := h.regular.sound.lt_of_ids List.mem_cons_self
    rw [h.length] at lt
    obtain ⟨doc, closes, same, tracked⟩ := conveys.closing mem
    exact ⟨id, lt, doc, closes, h.collection lt ▸ same, h.filter lt ▸ tracked⟩
  · cases mem

theorem asked_hop (h : Goes base event calls world [call] closed)
    (hop : Hop world call notes world' progress) (lt : id < world.activations.length) (uri : Uri) :
    ∃ issued, world'.asked id uri = world.asked id uri ++ issued ∧
      ∀ request ∈ issued, event.forwarding?.map Forwarding.request = some request := by
  by_cases own : ∃ event forwarding waiting, call =
      .publish (.delivering ⟨event, some (.activation id (.forwarding forwarding)), waiting⟩)
  · obtain ⟨event', forwarding, waiting, rfl⟩ := own
    cases h.brings _ List.mem_cons_self
    have conveys : world.Conveys id event forwarding := h.regular.apt _ List.mem_cons_self
    cases hop with
    | listen hop =>
      cases hop with
      | forward =>
        obtain ⟨-, asks⟩ := (world.sync id).asks_poll forwarding
        obtain ⟨issued, grown, all⟩ := asks uri
        have kept : ((world.pollForwarding id forwarding).1.activation id).session =
            (world.activation id).session :=
          lasting_session.works (works_forwarding world id forwarding) id
        refine ⟨issued, ?_, fun request mem => ?_⟩
        · rw [World.asked, engine_pollForwarding, kept]
          exact grown
        · rw [conveys.brings, all request mem]
          rfl
  · have unmoved := h.regular.sound.unmoved_publication lt (h.brings call List.mem_cons_self)
      (fun event forwarding waiting same => own ⟨event, forwarding, waiting, same⟩) hop
    exact ⟨[], by rw [unmoved.asked, List.append_nil], List.forall_mem_nil _⟩

theorem hop (h : Goes base event calls world [call] closed)
    (hop : Hop world call notes world' progress) :
    Goes base event calls world' progress.rest (closed ++ world.closingAt call) where
  regular := h.regular.hop hop
  brings next mem := (event_hop hop next mem).trans (h.brings call List.mem_cons_self)
  length :=
    (length_publication (h.brings call List.mem_cons_self) hop h.regular.sound).trans h.length
  belongs id lt :=
    (lasting_belongings.hop h.regular.sound (h.length ▸ lt) (.inr fun _ _ => rfl) hop).trans
      (h.belongs id lt)
  proper entry mem := (List.mem_append.mp mem).elim (h.proper entry) (h.proper_hop entry)
  asked id lt uri := by
    obtain ⟨issued, before, all⟩ := h.asked id lt uri
    obtain ⟨issued', now, all'⟩ := h.asked_hop hop (h.length ▸ lt) uri
    refine ⟨issued ++ issued', by rw [now, before, List.append_assoc], fun request mem => ?_⟩
    exact (List.mem_append.mp mem).elim (all request) (all' request)

theorem start (regular : Regular world (call :: calls)) (brings : call.event? = some event) :
    Goes world event calls world [call] [] where
  regular := regular
  brings _ mem := List.mem_singleton.mp mem ▸ brings
  length := rfl
  belongs _ _ := rfl
  proper := List.forall_mem_nil _
  asked _ _ _ := ⟨[], (List.append_nil _).symm, List.forall_mem_nil _⟩

end Goes

/-- A publication of a closed document on its way: it has dropped the document for those activations
at which its close has come to its end, with success. -/
structure Ends (base : World) (doc : Document) (calls : List Call) (world : World)
    (rest : List Call) (closed : List (CollectionId × Uri)) : Prop
    extends Goes base (.closed doc) calls world rest closed where
  served : world.env.engine.Served world.profile base.env.engine
    ((rest ++ calls).flatMap Call.tickets)
  dropped : ∀ id < base.activations.length,
    ((base.activation id).collection, doc.uri) ∈ closed ↔
      base.env.engine.Concludes world.env.engine (base.activation id).session (.close doc.uri) ∧
        base.env.engine.answer (.close doc.uri) = .ok ()
  answers : ∀ request, world.env.engine.answer request = base.env.engine.answer request

namespace Ends

theorem hop (h : Ends base doc calls world [call] closed)
    (hop : Hop world call notes world' progress) :
    Ends base doc calls world' progress.rest (closed ++ world.closingAt call) := by
  have goes := h.toGoes
  obtain ⟨ends, answers⟩ := goes.regular.ends_hop (goes.brings call List.mem_cons_self) hop
  refine ⟨goes.hop hop, ?_, fun id lt => ?_, fun request => (answers request).trans (h.answers request)⟩
  · rw [profile_hop goes.regular.sound hop, List.flatMap_append]
    exact served_hop h.served hop
  · have before := h.dropped id lt
    have now := ends id (goes.length ▸ lt)
    rw [goes.collection lt, goes.session lt, h.answers] at now
    rw [List.mem_append, before, now, ← or_and_right,
      ← Engine.concludes_iff h.served (served_hop goes.regular.served hop)]

theorem start (regular : Regular world (call :: calls)) (brings : call.event? = some (.closed doc)) :
    Ends world doc calls world [call] [] where
  toGoes := .start regular brings
  served := regular.served
  dropped _ _ := iff_of_false List.not_mem_nil fun ends =>
    Engine.not_concludes (fun _ ended => ended) ends.1
  answers _ := rfl

end Ends

/-- **A chance of a publication** drops only what its event closes, and asks for nothing else. -/
theorem goes_poll (regular : Regular world (call :: calls)) (brings : call.event? = some event) :
    Goes world event calls (world.poll call).1 (world.poll call).2.rest (world.closings call) :=
  (closing_hops regular.sound.tidy call).keeps
    (fun after rest closed => Goes world event calls after rest closed)
    (fun {_ _ _ _ _ _} goes ⟨same, _, hop⟩ => same ▸ goes.hop hop) (.start regular brings)

/-- **A chance of the publication of a closed document** drops it for those activations at which its
close comes to its end, with success. -/
theorem ends_poll (regular : Regular world (call :: calls)) (brings : call.event? = some (.closed doc)) :
    Ends world doc calls (world.poll call).1 (world.poll call).2.rest (world.closings call) :=
  (closing_hops regular.sound.tidy call).keeps
    (fun after rest closed => Ends world doc calls after rest closed)
    (fun {_ _ _ _ _ _} ends ⟨same, _, hop⟩ => same ▸ ends.hop hop) (.start regular brings)

/-! ## Actions -/

section
variable {work : Work World Call CallResult} {action : Action WorldRequest WorldMove}
  {number : CollectionId} {uri : Uri}

/-- The diagnostics that listeners drop in an action. -/
def dropped (work : Work World Call CallResult) (action : Action WorldRequest WorldMove) :
    List (CollectionId × Uri) :=
  (Machine.told closings work action).map (·.2)

theorem dropped_poll {before behind : List (Job Call)} {job : Job Call}
    (split : work.jobs = before ++ job :: behind) :
    dropped work (.poll before.length) = work.state.closings job.call := by
  rw [dropped, Machine.told_poll split, List.map_map]
  exact List.map_id' _

/-- An action that is no report makes of each collection in use what its listeners drop in it. -/
theorem clears_perform (sound : Sound work.state work.calls)
    (silent : ∀ move, action = .move move → move.isReport = false) :
    let after := World.machine.perform work action
    ∀ number < work.state.env.collections.length, Collects number after.state after.calls →
      Clears (dropped work action) number (work.state.env.collection number)
        (after.state.env.collection number) := by
  intro after number lt used
  have sound' : Sound after.state after.calls := Sound.tells.keeps.perform sound action
  suffices alters : Alters (Clears (dropped work action)) work.state after.state from
    alters.used sound' used lt
  cases action with
  | start request =>
    have same : after.state = work.state := by
      simp only [after, Machine.perform]
      cases World.machine.accept work.state request <;> rfl
    rw [same]
    exact .still (.refl work.state)
  | poll place =>
    cases at_place : work.jobs[place]? with
    | none =>
      have nothing : dropped work (.poll place) = [] := by simp [dropped, Machine.told, at_place]
      simp only [after, Machine.perform_poll_none at_place, nothing]
      exact .still (.refl work.state)
    | some job =>
      obtain ⟨before, behind, split, rfl⟩ := Machine.split_at_place at_place
      rw [dropped_poll split]
      simp only [after, Machine.state_poll split]
      exact alters_poll (Sound.tells.keeps.at_place sound split)
  | cancel place =>
    cases at_place : work.jobs[place]? with
    | none =>
      simp only [after, Machine.perform_cancel_none at_place]
      exact .still (.refl work.state)
    | some job =>
      obtain ⟨before, behind, split, rfl⟩ := Machine.split_at_place at_place
      simp only [after, Machine.perform_cancel split]
      exact .still (.cancel (Sound.tells.keeps.at_place sound split))
  | move way => exact .still (.surround sound (silent way rfl))

/-- A report changes the diagnostics of its document in the collection of the newest session, unless
it is stale. -/
theorem get_report (world : World) (lt : number < world.env.collections.length) (uri uri' : Uri)
    (version : Option Int) (diagnostics : List Diagnostic) :
    let after := world.surround (.report uri' version diagnostics)
    (after.env.collection number).get uri = (world.env.collection number).get uri ∨
      uri' = uri ∧ (after.env.collection number).get uri = diagnostics ∧
        world.env.engine.newestSink = some number ∧
        DiagnosticsCollection.isStale version ((world.env.collection number).version? uri) = false := by
  intro after
  cases newest : world.env.engine.newestSink with
  | none =>
    refine .inl ?_
    simp [after, World.surround, Environment.publishDiagnostics, newest]
  | some sink =>
    have collections : after.env.collections = world.env.collections.set sink
        ((world.env.collection sink).publish uri' version diagnostics).1 := by
      simp only [after, World.surround, Environment.publishDiagnostics, newest]
      rfl
    by_cases here : sink = number
    · subst here
      have published : after.env.collection sink =
          ((world.env.collection sink).publish uri' version diagnostics).1 := by
        rw [Environment.collection, collections, List.getElem?_set_self lt]
        rfl
      rw [published]
      by_cases stale : DiagnosticsCollection.isStale version
          ((world.env.collection sink).version? uri') = false
      · rw [DiagnosticsCollection.get_publish stale]
        by_cases about : uri' = uri
        · subst about
          exact .inr ⟨rfl, if_pos rfl, rfl, stale⟩
        · exact .inl (if_neg about)
      · rw [DiagnosticsCollection.publish_ignored stale]
        exact .inl rfl
    · refine .inl ?_
      rw [Environment.collection, collections, List.getElem?_set_ne here]
      rfl

/-- Diagnostics in use change by an action if listeners drop them or they are reported. -/
theorem get_perform (sound : Sound work.state work.calls)
    (lt : number < work.state.env.collections.length) :
    let after := World.machine.perform work action
    let before := (work.state.env.collection number).get uri
    let now := (after.state.env.collection number).get uri
    Collects number after.state after.calls →
      ((number, uri) ∈ dropped work action → now = []) ∧
      ((number, uri) ∉ dropped work action → now = before ∨
        ∃ version, action = .move (.report uri version now) ∧
          work.state.env.engine.newestSink = some number ∧
          DiagnosticsCollection.isStale version
            ((work.state.env.collection number).version? uri) = false) := by
  intro after before now used
  by_cases report : ∃ uri' version diagnostics, action = .move (.report uri' version diagnostics)
  · obtain ⟨uri', version, diagnostics, rfl⟩ := report
    refine ⟨nofun, fun _ => ?_⟩
    rcases get_report work.state lt uri uri' version diagnostics with
      same | ⟨rfl, reported, newest, fresh⟩
    · exact .inl same
    · refine .inr ⟨version, ?_, newest, fresh⟩
      have now_eq : now = diagnostics := reported
      rw [now_eq]
  · have silent : ∀ move, action = .move move → move.isReport = false := by
      rintro move rfl
      cases move with
      | report uri' version diagnostics => exact absurd ⟨uri', version, diagnostics, rfl⟩ report
      | _ => rfl
    have cleared := clears_perform sound silent number lt used
    have reached : now = if (number, uri) ∈ dropped work action then [] else before := by
      simp only [now, before]
      rw [cleared, DiagnosticsCollection.get_clearEach]
      simp only [mem_closedIn]
    exact ⟨fun mem => reached.trans (if_pos mem), fun out => .inl (reached.trans (if_neg out))⟩

/-- The engine closes a document for an activation in an action, for the publication of a closed
event that goes on: the session was asked for it, and the request comes to its end, with success. -/
def Closes (work : Work World Call CallResult) (action : Action WorldRequest WorldMove)
    (id : ActivationId) (doc : Document) : Prop :=
  let before := work.state.env.engine
  let after := (World.machine.perform work action).state.env.engine
  ∃ place job, action = .poll place ∧ work.jobs[place]? = some job ∧
    job.call.event? = some (.closed doc) ∧ id < work.state.activations.length ∧
    before.Concludes after (work.state.activation id).session (.close doc.uri) ∧
    before.answer (.close doc.uri) = .ok ()

theorem closings_quiet (quiet : call.event? = none) : world.closings call = [] := by
  match call with
  | .activate _ _ | .sync _ _ => rfl

/-- **What is dropped is what the engine closes.** -/
theorem mem_dropped (regular : Regular work.state work.calls) :
    (number, uri) ∈ dropped work action ↔ ∃ id doc, Closes work action id doc ∧
      (work.state.activation id).collection = number ∧ doc.uri = uri := by
  constructor
  · intro mem
    obtain ⟨place, rfl⟩ : ∃ place, action = .poll place := by
      cases action with
      | poll place => exact ⟨place, rfl⟩
      | start | cancel | move => cases mem
    cases at_place : work.jobs[place]? with
    | none => simp [dropped, Machine.told, at_place] at mem
    | some job =>
      obtain ⟨before, behind, split, rfl⟩ := Machine.split_at_place at_place
      rw [dropped_poll split] at mem
      have here := Regular.tells.keeps.at_place regular split
      cases brings : job.call.event? with
      | none => rw [closings_quiet brings] at mem; cases mem
      | some event =>
        obtain ⟨id, lt, doc, rfl, same, -⟩ := (goes_poll here brings).proper _ mem
        obtain ⟨rfl, rfl⟩ := Prod.mk.inj same
        have ended := ((ends_poll here brings).dropped id lt).mp mem
        have state := Machine.state_poll (m := World.machine) split
        exact ⟨id, doc, ⟨_, job, rfl, at_place, brings, lt, state ▸ ended⟩, rfl, rfl⟩
  · rintro ⟨id, doc, ⟨place, job, rfl, at_place, brings, lt, ended⟩, rfl, rfl⟩
    obtain ⟨before, behind, split, rfl⟩ := Machine.split_at_place at_place
    rw [Machine.state_poll split] at ended
    rw [dropped_poll split]
    exact ((ends_poll (Regular.tells.keeps.at_place regular split) brings).dropped id lt).mpr ended

/-- A document that the engine closes is tracked, and as long as its activation goes on, it has no
diagnostics then.  Nothing else was asked of any session, and whoever waited before still waits. -/
theorem Closes.done (closes : Closes work action id doc) (regular : Regular work.state work.calls) :
    let after := World.machine.perform work action
    (work.state.activation id).filter.tracks doc = true ∧
      ((after.state.activation id).owner.held ≠ [] →
        (after.state.env.collection (work.state.activation id).collection).get doc.uri = []) ∧
      (∀ id' < work.state.activations.length, ∀ uri, ∃ issued,
        after.state.asked id' uri = work.state.asked id' uri ++ issued ∧
          ∀ request ∈ issued, request = .close doc.uri) ∧
      ∀ place other, work.jobs[place]? = some other → action ≠ .poll place →
        other ∈ after.jobs := by
  intro after
  have mem := (mem_dropped regular).mpr ⟨id, doc, closes, rfl, rfl⟩
  obtain ⟨place, job, rfl, at_place, brings, lt, -⟩ := closes
  obtain ⟨before, behind, split, rfl⟩ := Machine.split_at_place at_place
  have here := Regular.tells.keeps.at_place regular split
  have goes := goes_poll here brings
  have state : after.state = (work.state.poll job.call).1 := Machine.state_poll split
  refine ⟨?_, fun holds => ?_, fun id' lt' uri => ?_, fun place other there ne => ?_⟩
  · obtain ⟨id', lt', doc', same, own, tracked⟩ := goes.proper _ (dropped_poll split ▸ mem)
    cases same
    -- a collection belongs to one activation only
    have one : id = id' := by
      by_contra ne
      exact regular.sound.owned.collection_ne (Sound.core_eq lt') (Sound.core_eq lt) ne
        (congrArg Prod.fst own)
    exact one ▸ tracked
  · have sound' : Sound after.state after.calls := (Regular.tells.keeps.perform regular _).sound
    have belongs := belongings_run regular.sound lt [.poll before.length]
    have used : Collects (work.state.activation id).collection after.state after.calls :=
      .inr ⟨id, belongs.1, congrArg (·.2.2.2) belongs.2, holds⟩
    have there := (regular.sound.within lt).collection
    exact (get_perform regular.sound there used).1 mem
  · rw [state]
    obtain ⟨issued, grown, all⟩ := goes.asked id' lt' uri
    exact ⟨issued, grown, fun request mem => (Option.some.inj (all request mem)).symm⟩
  · -- the call that had its chance stands between all others
    have apart : place ≠ before.length := fun same => ne (congrArg Action.poll same.symm)
    simp only [after, Machine.perform_poll split]
    rw [split] at there
    rcases Nat.lt_or_gt_of_ne apart with first | last
    · rw [List.getElem?_append_left first] at there
      exact List.mem_append_left _ (List.mem_append_left _ (List.mem_of_getElem? there))
    · rw [List.getElem?_append_right (Nat.le_of_lt last)] at there
      obtain ⟨distance, far⟩ := Nat.exists_eq_succ_of_ne_zero (Nat.sub_ne_zero_of_lt last)
      rw [far, List.getElem?_cons_succ] at there
      exact List.mem_append_right _ (List.mem_of_getElem? there)

end

end World

/-- **Diagnostics change only when they should.** Whatever was published, reported, answered, given
up and torn down before: when the engine closes a document in an action, for a published closed
event, the document is tracked, and as long as its activation goes on its diagnostics are dropped in
that very action.  Sessions are asked for nothing else in it, and all other calls still wait where
they did.  In no other action do the diagnostics of any document change, in a collection in use,
but when they are reported, with a version that is not behind. -/
theorem diagnostics_change (outset : Outset) (ledger : Ledger)
    (actions : List (Action WorldRequest WorldMove)) (action : Action WorldRequest WorldMove) :
    let work := World.machine.run (outset.host ledger) actions
    let after := World.machine.perform work action
    (∀ id doc, World.Closes work action id doc →
      (work.state.activation id).filter.tracks doc = true ∧
        ((after.state.activation id).owner.held ≠ [] →
          (after.state.env.collection (work.state.activation id).collection).get doc.uri = []) ∧
        (∀ id' < work.state.activations.length, ∀ uri, ∃ issued,
          after.state.asked id' uri = work.state.asked id' uri ++ issued ∧
            ∀ request ∈ issued, request = .close doc.uri) ∧
        ∀ place other, work.jobs[place]? = some other → action ≠ .poll place →
          other ∈ after.jobs) ∧
    ∀ number uri, number < work.state.env.collections.length →
      World.Collects number after.state after.calls →
        let collection := work.state.env.collection number
        let now := (after.state.env.collection number).get uri
        now = collection.get uri ∨
          (∃ id doc, World.Closes work action id doc ∧
            (work.state.activation id).collection = number ∧ doc.uri = uri) ∨
          ∃ version, action = .move (.report uri version now) ∧
            work.state.env.engine.newestSink = some number ∧
            DiagnosticsCollection.isStale version (collection.version? uri) = false := by
  intro work after
  have regular : work.state.Regular work.calls :=
    World.Regular.tells.keeps.run (World.Regular.host outset ledger) actions
  refine ⟨fun id doc closes => closes.done regular, fun number uri lt used => ?_⟩
  have kept := (@World.get_perform work action number uri regular.sound lt used).2
  by_cases mem : (number, uri) ∈ World.dropped work action
  · exact .inr (.inl ((World.mem_dropped regular).mp mem))
  · exact (kept mem).imp_right .inr

/-- A document with diagnostics is closed while it is about to be opened again: its diagnostics are
dropped before it is, and those of another document stay. -/
theorem diagnostics_change_of_reopening :
    let outset : Outset := ⟨⟨false, false, false⟩, ⟨false, false, false, []⟩, ["file:///a@close"],
      ⟨.directory [("engine.wasm", .file [0])]⟩, .memory ⟨.unrestricted, true⟩, [], "qsharp",
      "engine.wasm"⟩
    let uri : Uri := ⟨"file:///a"⟩
    let other : Uri := ⟨"file:///b"⟩
    let document (version : Int) : Document := ⟨uri, "qsharp", version, "a", false⟩
    let finding : Diagnostic := ⟨some 1, "finding", 0⟩
    let actions : List (Action WorldRequest WorldMove) := [.start (.activate "a"), .poll 0,
      .start (.publish (.opened (document 5))), .poll 0, .move (.report uri (some 5) [finding]),
      .move (.report other none [finding]), .start (.publish (.closed (document 5))), .poll 0,
      .start (.publish (.opened (document 6))), .poll 1, .move (.release "file:///a@close")]
    let work := World.machine.run (outset.host ⟨[], []⟩) actions
    let after := World.machine.perform work (.poll 0)
    let waiting : Job Call := ⟨3, .publish (.delivering ⟨.opened (document 6),
      some (.activation 0 (.forwarding ⟨document 6, false, .queued 0 2⟩)), []⟩)⟩
    (work.state.env.collection 0).get uri = [finding] ∧
      (after.state.env.collection 0).get uri = [] ∧
      (after.state.env.collection 0).get other = [finding] ∧ waiting ∈ after.jobs := by
  intro outset uri other document finding actions work after waiting
  let closing : Job Call := ⟨2, .publish (.delivering ⟨.closed (document 5),
    some (.activation 0 (.forwarding ⟨document 5, true, .calling 0 1 2⟩)), []⟩)⟩
  have first : work.jobs[0]? = some closing := by decide +kernel
  have closes : World.Closes work (.poll 0) 0 (document 5) :=
    ⟨0, closing, rfl, first, rfl, by decide +kernel,
      ⟨2, by decide +kernel, by decide +kernel, by decide +kernel⟩, by decide +kernel⟩
  obtain ⟨done, kept⟩ := diagnostics_change outset ⟨[], []⟩ actions (.poll 0)
  obtain ⟨-, gone, -, others⟩ := done 0 (document 5) closes
  have own : (work.state.activation 0).collection = 0 := by decide +kernel
  have used : World.Collects 0 after.state after.calls :=
    .inr ⟨0, by decide +kernel, by decide +kernel, by decide +kernel⟩
  refine ⟨by decide +kernel, ?_, ?_, others 1 waiting (by decide +kernel) nofun⟩
  · have dropped := gone (by decide +kernel)
    rw [own] at dropped
    simp only [after, work]
    exact dropped
  · simp only [after, work]
    rcases kept 0 other (by decide +kernel) used with
      same | ⟨id, doc, ⟨place, job, polled, there, brings, -⟩, -, about⟩ | ⟨_, reported, -⟩
    · exact same.trans (by decide +kernel)
    · -- the document that is closed is another
      cases Action.poll.inj polled
      rw [first] at there
      cases Option.some.inj there
      cases brings
      exact absurd about (by decide)
    · cases reported

end EngineSync
