import EngineSync.Proofs.Tracking

/-!
# Sessions mirror their documents

An activation that nobody stands in front of hears of every event of a document that is published
after it has subscribed, and its session is asked for each of them once, behind the open documents
and in the order in which the events were published, whatever the engine answers and whenever it
does.
-/
namespace EngineSync

/-- The event of a publication that did not get a chance yet. -/
def Call.unpublished? : Call → Option Event
  | .publish (.arriving event) => some event
  | _ => none

/-- Whether a call publishes an event. -/
def Call.isPublication : Call → Bool
  | .publish _ => true
  | _ => false

/-- A publication has still to reach the lanes of an activation. -/
def Call.Unheard (id : ActivationId) (call : Call) : Prop :=
  ∃ forwarding ∈ call.forwardings id, forwarding.stage = .arriving

instance (id : ActivationId) (call : Call) : Decidable (call.Unheard id) :=
  inferInstanceAs (Decidable (∃ forwarding ∈ call.forwardings id, forwarding.stage = .arriving))

namespace World

/-- The event whose publication an action starts. -/
def published? : Action WorldRequest WorldMove → Option Event
  | .start (.publish event) => some event
  | _ => none

/-- Calls get their chances in the order in which they were started, as far as it matters: none of
them is on the way to the lanes of an activation while an earlier one has still to reach them.
Publications are not given up, and the session is asked for documents in no other way. -/
def InTurn (id : ActivationId) (work : Work World Call CallResult) :
    Action WorldRequest WorldMove → Prop
  | .start (.sync id' _) => id' ≠ id
  | .start _ => True
  | .poll place => (work.state.activation id).barrier = .open →
    ∀ job ∈ work.jobs[place]?, job.call.Unheard id →
      ∀ earlier ∈ work.jobs.take place, ¬earlier.call.Unheard id
  | .cancel place => ∀ job ∈ work.jobs[place]?, job.call.isPublication = false
  | .move _ => True

instance (id : ActivationId) (work : Work World Call CallResult) :
    (action : Action WorldRequest WorldMove) → Decidable (InTurn id work action)
  | .start (.sync id' _) => inferInstanceAs (Decidable (id' ≠ id))
  | .start (.activate _) | .start (.publish _) | .move _ => isTrue trivial
  | .poll place => inferInstanceAs (Decidable ((work.state.activation id).barrier = .open →
    ∀ job ∈ work.jobs[place]?, job.call.Unheard id →
      ∀ earlier ∈ work.jobs.take place, ¬earlier.call.Unheard id))
  | .cancel place => inferInstanceAs (Decidable
    (∀ job ∈ work.jobs[place]?, job.call.isPublication = false))

/-- Every action of a run is in turn. -/
def TakesTurns (id : ActivationId) (work : Work World Call CallResult) :
    List (Action WorldRequest WorldMove) → Prop
  | [] => True
  | action :: rest =>
    InTurn id work action ∧ TakesTurns id (World.machine.perform work action) rest

instance decidableTakesTurns (id : ActivationId) : (work : Work World Call CallResult) →
    (actions : List (Action WorldRequest WorldMove)) → Decidable (TakesTurns id work actions)
  | _, [] => isTrue trivial
  | work, action :: rest =>
    have := decidableTakesTurns id (World.machine.perform work action) rest
    inferInstanceAs (Decidable (InTurn id work action ∧ _))

variable {world world' : World} {call : Call} {calls before behind rest : List Call}
  {history : List WorldNote} {id : ActivationId} {notes : List WorldNote}
  {progress : Progress Call CallResult} {base : List ProviderKind} {docs : List Document}
  {events : List Event} {work : Work World Call CallResult}

/-! ## Chances -/

/-- While a call gets its chance: the activation is in front, its session keeps track of the
documents, and the call is in turn; or the session was ended. -/
def Following (id : ActivationId) (docs : List Document) (events : List Event)
    (before behind : List Call) (world : World) (rest : List Call) : Prop :=
  Ended id world ∨ Forefront id world (rest ++ (before ++ behind)) ∧
    Tracks id docs events world (before ++ rest ++ behind) ∧ InOrder id world before rest

theorem Following.hop (h : Following id docs events before behind world [call])
    (known : Known base world (call :: (before ++ behind)) history)
    (noted : .subscribed id docs ∈ history) (hop : Hop world call notes world' progress) :
    Following id docs events before behind world' progress.rest := by
  have there := known.noted_lt id docs noted
  by_cases up : Ended id world
  · exact .inl (up.hop known.sound there hop)
  · obtain ⟨front, tracks, order⟩ := h.resolve_left up
    rcases front.hop known.sound hop with ended | front'
    · exact .inl ended
    · rw [List.append_assoc] at tracks
      have stepped := tracks.hop front known noted up order hop
      exact stepped.imp_right fun ⟨tracks', order'⟩ => ⟨front', tracks', order'⟩

/-- **A chance keeps track of the documents.** -/
theorem Following.poll (h : Following id docs events before behind world [call])
    (known : Known base world (call :: (before ++ behind)) history)
    (noted : .subscribed id docs ∈ history) :
    Following id docs events before behind (world.poll call).1 (world.poll call).2.rest := by
  refine ((poll_hops known.sound.tidy call).keeps
    (fun world rest history => Known base world (rest ++ (before ++ behind)) history ∧
      .subscribed id docs ∈ history ∧ Following id docs events before behind world rest)
    (fun kept hop => ?_) ⟨known, noted, h⟩).2.2
  obtain ⟨known, noted, follows⟩ := kept
  exact ⟨known.hop hop, List.mem_append_left _ noted, follows.hop known noted hop⟩

theorem Following.mirrors (h : Following id docs events before behind world rest) :
    Mirrors id docs events world (before ++ rest ++ behind) := by
  refine h.imp_right fun ⟨front, tracks, _⟩ => ⟨front.perm ?_, tracks⟩
  rw [List.append_assoc]
  exact List.perm_append_comm_assoc rest before behind

/-! ## Actions -/

theorem calls_split {jobs jobs' : List (Job Call)} {job : Job Call}
    (split : work.jobs = jobs ++ job :: jobs') :
    work.calls = jobs.map (·.call) ++ job.call :: jobs'.map (·.call) := by
  rw [Work.calls, split, List.map_append]
  rfl

theorem calls_poll {jobs jobs' : List (Job Call)} {job : Job Call}
    (split : work.jobs = jobs ++ job :: jobs') :
    (World.machine.perform work (.poll jobs.length)).calls =
      jobs.map (·.call) ++ (work.state.poll job.call).2.rest ++ jobs'.map (·.call) := by
  rw [Work.calls, Machine.perform_poll split]
  simp [World.machine, Function.comp_def]

/-- The publication of an event is still to come. -/
theorem Tracks.publish (h : Tracks id docs events world calls) {request : WorldRequest}
    (accepted : world.accept request = some call) :
    Tracks id docs (events ++ (published? (.start request)).toList) world (calls ++ [call]) := by
  have brings : call.forwardings id =
      (published? (.start request)).toList.filterMap Event.forwarding? := by
    cases request with
    | activate name =>
      cases accepted
      rfl
    | publish event =>
      cases accepted
      simp only [Call.forwardings, published?, Option.toList_some, List.filterMap_cons,
        List.filterMap_nil]
      cases event.forwarding? <;> rfl
    | sync id' request =>
      simp only [World.accept, Option.ite_none_right_eq_some, Option.some.injEq] at accepted
      rw [← accepted.2]
      rfl
  have more : backlog id (calls ++ [call]) = backlog id calls ++
      (published? (.start request)).toList.filterMap Event.forwarding? := by
    simp [backlog, brings]
  unfold Tracks
  rw [more, outlook, List.filterMap_append, ← List.append_assoc]
  rcases h with ⟨closed, waits⟩ | ⟨released, mirrors⟩
  · exact .inl ⟨closed, by rw [waits]⟩
  · exact .inr ⟨released, mirrors.append fun forwarding mem => by
      obtain ⟨event, -, brings⟩ := List.mem_filterMap.mp mem
      exact (Event.document_of_forwarding brings).2⟩

/-- A call that publishes nothing is given up. -/
theorem Mirrors.cancel (h : Mirrors id docs events world (before ++ call :: behind))
    (sound : Sound world (call :: (before ++ behind))) (there : id < world.activations.length)
    (other : call.isPublication = false) :
    Mirrors id docs events (world.cancel call) (before ++ behind) := by
  rcases h with ended | ⟨front, tracks⟩
  · exact .inl (ended.cancel sound)
  · have front := front.perm (List.perm_middle : (before ++ call :: behind).Perm _)
    have idle : call.worksFor? ≠ some id := by
      match call with
      | .activate _ _ => exact (Option.some_ne_none id).symm
      | .publish _ => cases other
      | .sync id' _ => exact fun same => front.heads _ List.mem_cons_self (Option.some.inj same)
    have nothing : call.forwardings id = [] := by
      match call with
      | .activate _ _ | .sync _ _ => rfl
      | .publish _ => cases other
    have same : backlog id (before ++ behind) = backlog id (before ++ call :: behind) := by
      simp [backlog, nothing]
    rcases front.cancel sound idle with ended | front'
    · exact .inl ended
    · exact (sound.passes_cancel there idle).imp_right fun unmoved =>
        ⟨front', tracks.unmoved unmoved same⟩

/-- Only a call to a session can be refused. -/
theorem published?_of_refused {request : WorldRequest} (refused : world.accept request = none) :
    published? (.start request) = none := by
  cases request with
  | activate name | publish event => cases refused
  | sync id' request => rfl

/-- **An action keeps track of the documents**, and of an event that is published. -/
theorem Mirrors.perform (h : Mirrors id docs events work.state work.calls)
    (known : Known base work.state work.calls history) (noted : .subscribed id docs ∈ history)
    {action : Action WorldRequest WorldMove} (turn : InTurn id work action) :
    Mirrors id docs (events ++ (published? action).toList)
      (World.machine.perform work action).state (World.machine.perform work action).calls := by
  have there := known.noted_lt id docs noted
  cases action with
  | start request =>
    cases accepted : World.machine.accept work.state request with
    | none =>
      rw [Machine.perform_start_none accepted, published?_of_refused accepted, Option.toList_none,
        List.append_nil]
      exact h
    | some call =>
      rw [Machine.perform_start accepted, Work.calls, List.map_append]
      rcases h with ended | ⟨front, tracks⟩
      · exact .inl ended
      refine .inr ⟨front.accept ?_ accepted, tracks.publish accepted⟩
      rintro asked rfl
      exact turn rfl
  | poll place =>
    have nothing : events ++ (published? (.poll place)).toList = events := List.append_nil events
    rw [nothing]
    cases at_place : work.jobs[place]? with
    | none =>
      rw [Machine.perform_poll_none at_place]
      exact h
    | some job =>
      obtain ⟨jobs, jobs', split, rfl⟩ := Machine.split_at_place at_place
      have here := (known_tells base).machine.perm (calls_split split ▸ List.perm_middle) known
      have follows : Following id docs events (jobs.map (·.call)) (jobs'.map (·.call)) work.state
          [job.call] := by
        rw [calls_split split] at h
        rcases h with ended | ⟨front, tracks⟩
        · exact .inl ended
        refine .inr ⟨front.perm List.perm_middle, ?_, ?_⟩
        · rwa [List.append_assoc]
        · rintro released ⟨waiting, waits, still⟩ forwarding mem arriving
          obtain ⟨call, there, brings⟩ := List.mem_flatMap.mp mem
          obtain ⟨earlier, before, rfl⟩ := List.mem_map.mp there
          refine turn released job at_place ⟨waiting, by simpa [backlog] using waits, still⟩ earlier
            ?_ ⟨forwarding, brings, arriving⟩
          rw [split, List.take_left]
          exact before
      rw [calls_poll split, Machine.state_poll split]
      exact (follows.poll here noted).mirrors
  | cancel place =>
    have nothing : events ++ (published? (.cancel place)).toList = events := List.append_nil events
    rw [nothing]
    cases at_place : work.jobs[place]? with
    | none =>
      rw [Machine.perform_cancel_none at_place]
      exact h
    | some job =>
      obtain ⟨jobs, jobs', split, rfl⟩ := Machine.split_at_place at_place
      have here := (known_tells base).machine.perm (calls_split split ▸ List.perm_middle) known
      have calls : (World.machine.perform work (.cancel jobs.length)).calls =
          jobs.map (·.call) ++ jobs'.map (·.call) := by
        rw [Work.calls, Machine.perform_cancel split, List.map_append]
      rw [calls_split split] at h
      rw [calls, Machine.perform_cancel split]
      exact h.cancel here.sound there (turn job at_place)
  | move move =>
    have nothing : events ++ (published? (.move move)).toList = events := List.append_nil events
    rw [nothing]
    rcases h with ended | ⟨front, tracks⟩
    · exact .inl (ended.surround known.sound move)
    · rcases front.surround known.sound move with ended | front'
      · exact .inl ended
      · refine (known.sound.passes_surround there move).imp_right fun unmoved => ?_
        exact ⟨front', tracks.unmoved unmoved rfl⟩

/-! ## The subscription -/

/-- Before an activation subscribes: it is the next to come, nobody listens to documents, and if a
call that activates gets its chance, the others bring the events that are not published yet. -/
structure Expecting (id : ActivationId) (docs : List Document) (events : List Event)
    (before behind : List Call) (world : World) (rest : List Call) : Prop where
  unborn : world.activations.length = id
  alone : ∀ kind ≠ .configurationChanged, world.env.bus.subscribers kind = []
  openDocuments : world.env.openDocuments = docs
  waits : ∀ name stage, .activate name stage ∈ rest →
    backlog id (before ++ behind) = events.filterMap Event.forwarding?

/-- A call that activates has done so from the start. -/
theorem activate_rest {name : String} {stage : ActivateStage}
    (hop : Hop world call notes world' progress) (mem : .activate name stage ∈ progress.rest) :
    ∃ stage, call = .activate name stage := by
  cases hop with
  | refused | rejected | ready | failed | finish => cases mem
  | began | subscribed | replay =>
    cases List.mem_singleton.mp mem
    exact ⟨_, rfl⟩
  | publish | call => cases List.mem_singleton.mp mem
  | @listen event listener waiting _ _ outcome hop =>
    rcases outcome with listener' | failure | ⟨⟩ <;> cases mem
    · next mem => cases mem
    · next mem => cases mem
  | sync id' call =>
    rw [World.poll, Progress.rest_map] at mem
    obtain ⟨call', -, same⟩ := List.mem_map.mp mem
    cases same

/-- The activation subscribes, and from then on its session keeps track of the documents. -/
theorem Expecting.hop (h : Expecting id docs events before behind world [call])
    (known : Known base world (call :: (before ++ behind)) history)
    (hop : Hop world call notes world' progress) :
    Expecting id docs events before behind world' progress.rest ∨
      .subscribed id docs ∈ history ++ notes ∧
        Following id docs events before behind world' progress.rest := by
  by_cases subscribes : ∃ id' docs', .subscribed id' docs' ∈ notes
  · obtain ⟨id', docs', noted⟩ := subscribes
    obtain ⟨rfl, rfl, name, collection, session, settings, ticket, env, rfl, collected, rfl, rfl⟩ :=
      subscribed_hop hop noted
    obtain ⟨rfl, alone, rfl, waits⟩ := h
    have collects : Environment.Edits .plain world.env env :=
      Environment.collectProfile?_edits collected
    have bus := Environment.Edits.bus collects (fun _ no => no) (by
      simp [Scope.plain, Scope.changing, Scope.IsProvider])
    have front : Forefront world.activations.length (World.welcome { world with env } collection
        session settings) (before ++ behind) :=
      Forefront.welcome (known.sound.collects collected).ended (by rw [bus]; exact alone)
    have closed : ((World.welcome { world with env } collection session settings).activation
        world.activations.length).barrier = .replaying := by
      rw [activation_welcome, if_pos rfl]
      rfl
    refine .inr ⟨List.mem_append_right _ noted, .inr ⟨⟨front.there, front.holds, front.leads, ?_⟩,
      .inl ⟨closed, ?_⟩, fun released => ?_⟩⟩
    · intro next mem
      rcases List.mem_cons.mp mem with rfl | other
      · trivial
      · exact front.heads next other
    · refine Eq.trans ?_ (waits name _ List.mem_cons_self)
      simp [backlog, Call.forwardings]
    · rw [closed] at released
      cases released
  · refine .inl ?_
    have retires := known.sound.retires_hop hop fun id' docs' mem => subscribes ⟨id', docs', mem⟩
    refine ⟨retires.length.trans h.unborn, fun kind document => ?_,
      retires.openDocuments.trans h.openDocuments, fun name stage mem => ?_⟩
    · have none := h.alone kind document
      exact List.sublist_nil.mp (none ▸ retires.bus.filter _)
    · obtain ⟨stage', rfl⟩ := activate_rest hop mem
      exact h.waits name stage' List.mem_cons_self

/-- Before an activation is there, calls bring to it the events that are not published. -/
theorem backlog_unborn (sound : Sound world calls) :
    backlog world.activations.length calls =
      (calls.filterMap Call.unpublished?).filterMap Event.forwarding? := by
  have each : ∀ call ∈ calls, call.forwardings world.activations.length =
      (call.unpublished?.bind Event.forwarding?).toList := by
    intro call mem
    have away : world.activations.length ∉ call.ids := fun own =>
      absurd (sound.orderly.ids_lt call mem _ own) (Nat.lt_irrefl _)
    match call with
    | .activate _ _ | .sync _ _ | .publish (.arriving event) => rfl
    | .publish (.delivering ⟨event, none, waiting⟩)
    | .publish (.delivering ⟨event, some (.outside _), waiting⟩) =>
      exact if_neg away
    | .publish (.delivering ⟨event, some (.activation id' stage), waiting⟩) =>
      have other : id' ≠ world.activations.length := fun same =>
        away (List.mem_cons.mpr (.inl same.symm))
      have later : world.activations.length ∉ audience waiting := fun own =>
        away (List.mem_cons_of_mem _ own)
      have none := @forwardings_other _ id' stage other event
      simp [Call.forwardings, Call.unpublished?, none, later]
  rw [List.filterMap_filterMap, backlog, List.flatMap_congr each]
  exact (List.filterMap_eq_flatMap_toList _ _).symm

/-- What a chance comes to in which an activation subscribes while nobody listens to documents. -/
theorem subscribed_poll (known : Known base work.state work.calls history) {place : Nat}
    (born : work.state.activations.length <
      (World.machine.perform work (.poll place)).state.activations.length)
    (alone : ∀ kind ≠ .configurationChanged, work.state.env.bus.subscribers kind = []) :
    let after := World.machine.perform work (.poll place)
    let id := work.state.activations.length
    .subscribed id work.state.env.openDocuments ∈
        history ++ (Machine.told World.notes work (.poll place : Action WorldRequest WorldMove)).map
          (·.2) ∧
      Mirrors id work.state.env.openDocuments (work.calls.filterMap Call.unpublished?) after.state
        after.calls := by
  intro after id
  cases at_place : work.jobs[place]? with
  | none =>
    rw [Machine.perform_poll_none at_place] at born
    exact absurd born (Nat.lt_irrefl _)
  | some job =>
    obtain ⟨jobs, jobs', split, rfl⟩ := Machine.split_at_place at_place
    have here := (known_tells base).machine.perm (calls_split split ▸ List.perm_middle) known
    have expecting : Expecting id work.state.env.openDocuments
        (work.calls.filterMap Call.unpublished?) (jobs.map (·.call)) (jobs'.map (·.call)) work.state
        [job.call] := by
      refine ⟨rfl, alone, rfl, fun name stage mem => ?_⟩
      have waits := backlog_unborn known.sound
      rw [← waits, calls_split split, backlog_split, ← List.mem_singleton.mp mem]
      simp [backlog, Call.forwardings, id]
    obtain ⟨-, outcome⟩ := (poll_hops known.sound.tidy job.call).keeps
      (fun world rest history => Known base world
          (rest ++ (jobs.map (·.call) ++ jobs'.map (·.call))) history ∧
        (Expecting id work.state.env.openDocuments (work.calls.filterMap Call.unpublished?)
            (jobs.map (·.call)) (jobs'.map (·.call)) world rest ∨
          .subscribed id work.state.env.openDocuments ∈ history ∧
            Following id work.state.env.openDocuments (work.calls.filterMap Call.unpublished?)
              (jobs.map (·.call)) (jobs'.map (·.call)) world rest))
      (by
        rintro world call notes after progress history ⟨known, expecting | ⟨noted, follows⟩⟩ hop
        · exact ⟨known.hop hop, expecting.hop known hop⟩
        · exact ⟨known.hop hop, .inr ⟨List.mem_append_left _ noted, follows.hop known noted hop⟩⟩)
      ⟨here, .inl expecting⟩
    rcases outcome with unborn | ⟨noted, follows⟩
    · rw [Machine.state_poll split] at born
      exact absurd born (Nat.not_lt_of_le (Nat.le_of_eq unborn.unborn))
    · refine ⟨?_, ?_⟩
      · rw [Machine.told_poll split, List.map_map]
        simpa [Function.comp_def] using noted
      · have calls : after.calls = jobs.map (·.call) ++ (work.state.poll job.call).2.rest ++
            jobs'.map (·.call) := calls_poll split
        rw [calls]
        have state : after.state = (work.state.poll job.call).1 := Machine.state_poll split
        rw [state]
        exact follows.mirrors

/-! ## Every run -/

/-- **A run keeps track of the documents**, and of the events that are published in it. -/
theorem Mirrors.run (h : Mirrors id docs events work.state work.calls)
    (known : Known base work.state work.calls history) (noted : .subscribed id docs ∈ history)
    {actions : List (Action WorldRequest WorldMove)} (turns : TakesTurns id work actions) :
    Mirrors id docs (events ++ actions.filterMap published?) (World.machine.run work actions).state
      (World.machine.run work actions).calls := by
  induction actions generalizing work history events with
  | nil =>
    rw [List.filterMap_nil, List.append_nil]
    exact h
  | cons action rest ih =>
    have after := (known_tells base).machine.run known [action]
    have later := ih (h.perform known noted turns.1) after (List.mem_append_left _ noted) turns.2
    have first : (action :: rest).filterMap published? =
        (published? action).toList ++ rest.filterMap published? := by
      cases action' : published? action <;> simp [action']
    rw [first, ← List.append_assoc]
    exact later

end World
end EngineSync
