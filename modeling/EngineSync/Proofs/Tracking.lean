import EngineSync.Proofs.Backlog
import EngineSync.Proofs.Failures

/-!
# Keeping track of documents

Three things have to come together for a session to be asked for every document once and in order:
the listeners are subscribed in the step in which the open documents are read, the events wait until
these have reached the session, and then they enter the lanes one after another.  The invariant puts
together what the session was asked to do with a document and what the calls under way are still to
bring, in the order in which the calls were started (`World.Tracks`); every step keeps it or ends
the session.
-/
namespace EngineSync

/-- The update of a document, as it is asked for. -/
def Document.update (doc : Document) : Request :=
  .update doc.uri doc.version doc.text

namespace World
variable {world world' : World} {call : Call} {calls before behind rest : List Call}
  {history : List WorldNote} {id id' : ActivationId} {notes : List WorldNote}
  {progress : Progress Call CallResult} {base : List ProviderKind} {docs : List Document}
  {events : List Event} {name : String} {settings : Settings} {replay : Replay}

/-! ## Every world that is reached -/

/-- What holds in every world that is reached, and what is noted of subscriptions. -/
structure Known (base : List ProviderKind) (world : World) (calls : List Call)
    (history : List WorldNote) : Prop where
  sound : Sound world calls
  told : ∀ call ∈ calls, Told world history call
  square : world.Square base
  laned : ∀ id, Laned id world calls
  noted_lt : ∀ id docs, .subscribed id docs ∈ history → id < world.activations.length
  noted_once : ∀ id docs docs', .subscribed id docs ∈ history → .subscribed id docs' ∈ history →
    docs' = docs

theorem Known.hop (h : Known base world (call :: calls) history)
    (hop : Hop world call notes world' progress) :
    Known base world' (progress.rest ++ calls) (history ++ notes) where
  sound := h.sound.hop hop
  told := Told.hop h.sound h.told hop
  square := h.square.hop h.sound hop
  laned id := (h.laned id).hop h.sound hop
  noted_lt id docs mem := by
    rcases List.mem_append.mp mem with old | new
    · exact Nat.lt_of_lt_of_le (h.noted_lt id docs old) (h.sound.length_hop hop)
    · obtain ⟨rfl, -, name, collection, session, settings, ticket, env, rfl, -, rfl, -⟩ :=
        subscribed_hop hop new
      show _ < (world.activations ++ [_]).length
      rw [List.length_append]
      exact Nat.lt_succ_self _
  noted_once id docs docs' mem mem' := by
    rcases List.mem_append.mp mem with old | new <;> rcases List.mem_append.mp mem' with old' | new'
    · exact h.noted_once id docs docs' old old'
    · exact absurd (h.noted_lt id docs old) (Nat.not_lt_of_le ((subscribed_hop hop new').1 ▸ Nat.le_refl _))
    · exact absurd (h.noted_lt id docs' old') (Nat.not_lt_of_le ((subscribed_hop hop new).1 ▸ Nat.le_refl _))
    · exact (subscribed_hop hop new').2.1.trans (subscribed_hop hop new).2.1.symm

theorem known_tells (base : List ProviderKind) : Tells (Known base) where
  tidy h := h.sound.tidy
  perm hp h := {
    sound := h.sound.perm hp
    told := fun call mem => h.told call (hp.mem_iff.mpr mem)
    square := h.square
    laned := fun id => (h.laned id).perm (hp.flatMap_right _)
    noted_lt := h.noted_lt
    noted_once := h.noted_once }
  accept h accepted := {
    sound := h.sound.accepts accepted
    told := (told_tells.accept ⟨h.sound, h.told⟩ accepted).2
    square := h.square
    laned := (@Tells.accept _ laned_tells _ _ [] _ _ ⟨h.sound, h.laned⟩ accepted).2
    noted_lt := h.noted_lt
    noted_once := h.noted_once }
  hop h step := h.hop step
  cancel {world call _ _} h := {
    sound := h.sound.cancels
    told := (told_tells.cancel ⟨h.sound, h.told⟩).2
    square := h.square.cancels h.sound
    laned := fun id => (h.laned id).cancel h.sound
    noted_lt := fun id docs mem => Sound.length_cancel world call ▸ h.noted_lt id docs mem
    noted_once := h.noted_once }
  surround move h := {
    sound := h.sound.surrounds move
    told := (told_tells.surround move ⟨h.sound, h.told⟩).2
    square := h.square.surrounds h.sound move
    laned := fun id => (h.laned id).surround move
    noted_lt := fun id docs mem => h.sound.length_surround move ▸ h.noted_lt id docs mem
    noted_once := h.noted_once }

theorem known_host (outset : Outset) (ledger : Ledger) :
    Known ledger.live (outset.host ledger).state [] [] where
  sound := sound_host outset ledger
  told := List.forall_mem_nil _
  square := (square_run outset ledger []).2
  laned _ := Lanes.sound_empty
  noted_lt := nofun
  noted_once := nofun

/-! ## What is still to come -/

/-- The documents that calls still bring to the session of an activation. -/
def backlog (id : ActivationId) (calls : List Call) : List Forwarding :=
  calls.flatMap (Call.forwardings id)

/-- What a session is to be asked for: the documents that were open, and the events since. -/
def outlook (docs : List Document) (events : List Event) : List Forwarding :=
  docs.map .update ++ events.filterMap Event.forwarding?

/-- As long as the barrier is closed, all events are still to come; once it is open, what the
session was asked and what is still to come make up the open documents and the events. -/
def Tracks (id : ActivationId) (docs : List Document) (events : List Event) (world : World)
    (calls : List Call) : Prop :=
  ((world.activation id).barrier = .replaying ∧
      backlog id calls = events.filterMap Event.forwarding?) ∨
    ((world.activation id).barrier = .open ∧
      Sync.Mirrors (outlook docs events) (world.sync id) (backlog id calls))

/-- An activation stands in front and its session keeps track of the documents, or the session was
ended. -/
def Mirrors (id : ActivationId) (docs : List Document) (events : List Event) (world : World)
    (calls : List Call) : Prop :=
  Ended id world ∨ Forefront id world calls ∧ Tracks id docs events world calls

/-- Nobody among the calls started before waits for the way to the lanes, if a call is about to take
it. -/
def InOrder (id : ActivationId) (world : World) (before rest : List Call) : Prop :=
  (world.activation id).barrier = .open →
    (∃ forwarding ∈ backlog id rest, forwarding.stage = .arriving) →
      ∀ forwarding ∈ backlog id before, forwarding.stage ≠ .arriving

theorem backlog_split (id : ActivationId) (before behind : List Call) (call : Call) :
    backlog id (before ++ call :: behind) =
      backlog id before ++ call.forwardings id ++ backlog id behind := by
  simp [backlog]

theorem backlog_around (id : ActivationId) (before rest behind : List Call) :
    backlog id (before ++ rest ++ behind) =
      backlog id before ++ backlog id rest ++ backlog id behind := by
  simp [backlog]

/-- What was not about an activation leaves what its session was asked, and what is still to
come. -/
theorem Unmoved.mirrors (unmoved : Unmoved id world world') {past queue : List Forwarding}
    (h : Sync.Mirrors past (world.sync id) queue) : Sync.Mirrors past (world'.sync id) queue := by
  refine ⟨h.order, fun uri => ?_⟩
  have asked := unmoved.asked uri
  unfold World.asked at asked
  rw [unmoved.activation] at asked
  have filter : (world'.sync id).filter = (world.sync id).filter :=
    congrArg Activation.filter unmoved.activation
  have session : (world'.sync id).session = (world.sync id).session :=
    congrArg Activation.session unmoved.activation
  rw [filter, session]
  exact (congrArg (· ++ _) asked).trans (h.asked uri)

/-- The same documents are still to come, and nothing was about the activation. -/
theorem Tracks.unmoved (h : Tracks id docs events world calls) (unmoved : Unmoved id world world')
    {calls' : List Call} (same : backlog id calls' = backlog id calls) :
    Tracks id docs events world' calls' := by
  unfold Tracks
  rw [unmoved.activation, same]
  exact h.imp_right fun ⟨released, mirrors⟩ => ⟨released, unmoved.mirrors mirrors⟩

/-! ## A listener at work on a document -/

theorem sync_pollForwarding (lt : id < world.activations.length) (forwarding : Forwarding) :
    (world.pollForwarding id forwarding).1.sync id = ((world.sync id).poll forwarding).1 := by
  have becomes : Sync.Becomes (world.activation id).work world.env (world.sync id)
      ((world.sync id).poll forwarding).1 :=
    Sync.becomes_poll forwarding (Activation.work_session _)
  have put := sync_putSync lt becomes.session becomes.filter
  unfold pollForwarding
  revert put
  rcases (world.sync id).poll forwarding with ⟨sync, forwarding' | failure | taken⟩ <;> intro put
  · exact put
  · exact put
  · simp only [concludeForwarding]
    split <;> exact put

theorem backlog_pollForwarding {event : Event} {waiting : List (Subscription Listener)}
    (last : (if id ∈ audience waiting then event.forwarding?.toList else []) = [])
    (forwarding : Forwarding) :
    backlog id (delivered event waiting (world.pollForwarding id forwarding).2).rest =
      ((world.sync id).poll forwarding).2.rest := by
  unfold pollForwarding
  rcases (world.sync id).poll forwarding with ⟨sync, forwarding' | failure | taken⟩
  · simp [delivered, backlog, Call.forwardings, ListenerCall.forwardings, last]
  · simp [delivered, concludeForwarding, backlog]
  · simp only [concludeForwarding]
    split <;> simp [delivered, backlog, Call.forwardings, last]

/-- Whoever has a place is past the barrier. -/
theorem waiting_placeless {event : Event} {forwarding : Forwarding} {p : Place}
    (place : forwarding.place? = some p) : forwarding ∉ event.forwarding?.toList := fun mem => by
  have arriving := (Event.document_of_forwarding (Option.mem_toList.mp mem)).2
  rw [Forwarding.place?_none_iff.mpr arriving] at place
  cases place

theorem listener_placed {event : Event} {listener : ListenerCall} {forwarding : Forwarding}
    {p : Place} (mem : forwarding ∈ listener.forwardings id event)
    (place : forwarding.place? = some p) :
    listener = .activation id (.forwarding forwarding) := by
  unfold ListenerCall.forwardings at mem
  split at mem
  · split at mem
    · exact absurd mem (waiting_placeless place)
    · cases mem
  · split at mem
    · next here =>
      rw [here, List.mem_singleton.mp mem]
    · cases mem
  · cases mem

/-- The places of what is still to come stand in the lanes. -/
theorem mem_places {forwarding : Forwarding} {p : Place} (mem : forwarding ∈ backlog id calls)
    (place : forwarding.place? = some p) : p ∈ calls.flatMap (Call.places id) := by
  obtain ⟨call, hc, brings⟩ := List.mem_flatMap.mp mem
  refine List.mem_flatMap.mpr ⟨call, hc, ?_⟩
  match call with
  | .activate _ _ | .sync _ _ => cases brings
  | .publish (.arriving event) => exact absurd brings (waiting_placeless place)
  | .publish (.delivering ⟨event, current, waiting⟩) =>
    rcases List.mem_append.mp brings with working | later
    · obtain ⟨listener, there, now⟩ := List.mem_flatMap.mp working
      cases Option.mem_toList.mp there
      rw [listener_placed now place]
      simp [Call.places, placesOf_some place]
    · split at later
      · exact absurd later (waiting_placeless place)
      · cases later

/-- What the engine knows is asked for in the order of the events, and nothing is lost on the
way. -/
theorem Tracks.forward {event : Event} {waiting : List (Subscription Listener)}
    {forwarding : Forwarding}
    (h : Tracks id docs events world (before ++
      .publish (.delivering ⟨event, some (.activation id (.forwarding forwarding)), waiting⟩) ::
        behind))
    (known : Known base world
      (.publish (.delivering ⟨event, some (.activation id (.forwarding forwarding)), waiting⟩) ::
        (before ++ behind)) history)
    (last : (if id ∈ audience waiting then event.forwarding?.toList else []) = [])
    (up : ¬Ended id world)
    (order : InOrder id world before
      [.publish (.delivering ⟨event, some (.activation id (.forwarding forwarding)), waiting⟩)]) :
    Tracks id docs events (world.pollForwarding id forwarding).1
        (before ++ (delivered event waiting (world.pollForwarding id forwarding).2).rest ++
          behind) ∧
      InOrder id (world.pollForwarding id forwarding).1 before
        (delivered event waiting (world.pollForwarding id forwarding).2).rest := by
  have lt : id < world.activations.length := known.sound.lt_of_ids List.mem_cons_self
  have open' : (world.activation id).barrier = .open :=
    known.sound.orderly.working id List.mem_cons_self
  have brings : (Call.publish (.delivering
      ⟨event, some (.activation id (.forwarding forwarding)), waiting⟩)).forwardings id =
        [forwarding] := by
    simp [Call.forwardings, ListenerCall.forwardings, last]
  have barrier := (works_forwarding world id forwarding).calm.barrier id
  have turn : forwarding.stage = .arriving →
      ∀ other ∈ backlog id before, other.stage ≠ .arriving := fun arriving =>
    order open' ⟨forwarding, by simp [backlog, brings], arriving⟩
  rcases h with ⟨closed, -⟩ | ⟨-, mirrors⟩
  · rw [open'] at closed
    cases closed
  · rw [backlog_split, brings, List.append_assoc, List.singleton_append] at mirrors
    have lanes := known.laned id
    have stand : ∀ other ∈ backlog id before, ∀ p ∈ other.place?,
        p ∈ (before ++ behind).flatMap (Call.places id) := fun other mem p place => by
      rw [List.flatMap_append]
      exact List.mem_append_left _ (mem_places mem place)
    have own : (Call.publish (.delivering
        ⟨event, some (.activation id (.forwarding forwarding)), waiting⟩)).places id =
          placesOf [forwarding] := if_pos rfl
    unfold Laned at lanes
    rw [List.flatMap_cons, own] at lanes
    obtain ⟨polled, still⟩ := mirrors.poll lanes stand turn (Bool.not_eq_true _ ▸ up)
    refine ⟨.inr ⟨barrier.trans open', ?_⟩, fun _ waits => ?_⟩
    · rw [sync_pollForwarding lt, backlog_around, backlog_pollForwarding last]
      exact polled
    · rw [backlog_pollForwarding last] at waits
      obtain ⟨other, mem, arriving⟩ := waits
      exact turn (still other mem arriving)

/-! ## The end of a replay -/

theorem due_updates (filter : DocumentFilter) (docs : List Document) :
    (docs.map Forwarding.update).flatMap (·.due filter) =
      (docs.filter filter.tracks).map Document.update := by
  induction docs with
  | nil => rfl
  | cons doc docs ih =>
    have first : (Forwarding.update doc).due filter =
        if filter.tracks doc then [doc.update] else [] := rfl
    rw [List.map_cons, List.flatMap_cons, ih, List.filter_cons, first]
    split <;> rfl

/-- What was asked of a session that has got the open documents and nothing else. -/
theorem asked_opening {engine : Engine} {session : SessionId} {docs : List Document}
    (calls : engine.callsOf session = opening session settings ++ docs.map (·.updateCall session))
    (uri : Uri) : engine.asked session uri =
      (docs.map Document.update).filter (·.uri? = some uri) := by
  have updates : (docs.map (·.updateCall session)).filterMap EngineCall.request? =
      docs.map Document.update := by
    rw [List.filterMap_map]
    exact List.filterMap_eq_map ▸ rfl
  rw [Engine.asked, calls, List.filterMap_append, updates]
  rfl

/-- The documents have arrived: the barrier is open, and what was asked are the open documents. -/
theorem Known.opened {sync : Sync} {count : Nat}
    (known : Known base world (.activate name (.replaying id settings replay) :: calls) history)
    (noted : .subscribed id docs ∈ history)
    (polled : (world.sync id).pollReplay replay = (sync, .finished (.ok count))) :
    let after := (world.putSync id sync).finishActivate name id settings replay.total
    Ended id after ∨ (after.activation id).barrier = .open ∧ ∀ uri, after.asked id uri =
      ((docs.map Forwarding.update).flatMap (·.due (after.activation id).filter)).filter
        (·.uri? = some uri) := by
  intro after
  have lt : id < world.activations.length := known.sound.lt_of_ids List.mem_cons_self
  have works := works_pollReplay polled
  have lt' := works.calm.length ▸ lt
  have worked := known.sound.works lt works
  have length := Sound.length_setBarrier (world.putSync id sync) id .open
  rcases (worked.readied replay.total).passes_drop (length ▸ lt') name with ended | unmoved
  · exact .inl (ended.of_eq rfl rfl)
  · refine .inr ⟨Sound.barrier_finishActivate lt' name settings, fun uri => ?_⟩
    have same : (after.activation id).belongings = (world.activation id).belongings :=
      (lasting_belongings.finishActivate _ name (.inr fun _ _ => rfl) settings).trans
        (lasting_belongings.works works id)
    simp only [Activation.belongings, Prod.mk.injEq] at same
    obtain ⟨docs', noted', calls⟩ :=
      (known.told _ List.mem_cons_self : Replaying world history id settings replay).sent polled
    rw [known.noted_once id docs docs' noted noted'] at calls
    have session : (((world.putSync id sync).readied id settings replay.total).activation id).session =
        (world.activation id).session :=
      (Lasting.setBarrier (world.putSync id sync) (.inr fun _ _ => rfl) .open).trans
        (lasting_session.works works id)
    rw [same.2.1, due_updates]
    refine (unmoved.asked uri).trans ?_
    rw [World.asked, session]
    exact asked_opening calls uri

/-- All events are still to come when the documents have arrived. -/
theorem Tracks.ready {sync : Sync} {count : Nat}
    (h : Tracks id docs events world
      (before ++ .activate name (.replaying id settings replay) :: behind))
    (known : Known base world (.activate name (.replaying id settings replay) ::
      (before ++ behind)) history) (noted : .subscribed id docs ∈ history)
    (polled : (world.sync id).pollReplay replay = (sync, .finished (.ok count))) :
    Ended id ((world.putSync id sync).finishActivate name id settings replay.total) ∨
      Tracks id docs events ((world.putSync id sync).finishActivate name id settings replay.total)
        (before ++ behind) := by
  have closed := (known.sound.orderly.replaying id List.mem_cons_self).1
  have waits : backlog id (before ++ behind) = events.filterMap Event.forwarding? := by
    rcases h with ⟨-, waits⟩ | ⟨released, -⟩
    · rw [backlog_split] at waits
      simpa [backlog, Call.forwardings] using waits
    · rw [closed] at released
      cases released
  rcases known.opened noted polled with ended | ⟨released, asked⟩
  · exact .inl ended
  refine .inr (.inr ⟨released, ?_, fun uri => ?_⟩)
  · rw [waits]
    refine List.pairwise_of_forall_mem_list fun first _ second mem => ?_
    obtain ⟨event, -, brings⟩ := List.mem_filterMap.mp mem
    exact Forwarding.precedes_arriving (Event.document_of_forwarding brings).2
  · rw [outlook, List.flatMap_append, List.filter_append, waits]
    exact congrArg (· ++ _) (asked uri)

/-! ## Steps -/

theorem Tracks.closed (h : Tracks id docs events world calls) :
    (world.activation id).barrier ≠ .abandoned := by
  rcases h with ⟨closed, -⟩ | ⟨released, -⟩
  · rw [closed]
    exact Barrier.noConfusion
  · rw [released]
    exact Barrier.noConfusion

/-- A step of the call that replays the documents. -/
theorem Tracks.replays (h : Tracks id docs events world
      (before ++ .activate name (.replaying id settings replay) :: behind))
    (known : Known base world (.activate name (.replaying id settings replay) ::
      (before ++ behind)) history) (noted : .subscribed id docs ∈ history)
    (hop : Hop world (.activate name (.replaying id settings replay)) notes world' progress) :
    Ended id world' ∨ Tracks id docs events world' (before ++ progress.rest ++ behind) ∧
      backlog id progress.rest = [] := by
  have lt : id < world.activations.length := known.sound.lt_of_ids List.mem_cons_self
  cases hop with
  | @replay name id settings replay sync replay' polled =>
    have closed := (known.sound.orderly.replaying id List.mem_cons_self).1
    have barrier := (works_pollReplay polled).calm.barrier id
    refine .inr ⟨.inl ⟨barrier.trans closed, ?_⟩, rfl⟩
    rcases h with ⟨-, waits⟩ | ⟨released, -⟩
    · rw [backlog_split] at waits
      rw [backlog_around]
      exact waits
    · rw [closed] at released
      cases released
  | ready polled =>
    refine (h.ready known noted polled).imp_right fun ready => ⟨?_, rfl⟩
    rwa [Progress.rest_finished, List.append_nil]
  | failed polled => exact .inl (.abandon (known.sound.works lt (works_pollReplay polled)))

/-- A step of a listener that does not work on a document is not about those of its activation. -/
theorem Sound.unmoved_apart (sound : Sound world (call :: calls)) (there : id < world.activations.length)
    (works : call.worksFor? = some id) (direct : ∀ asked, call ≠ .sync id asked)
    (apart : ∀ event forwarding waiting, call ≠
      .publish (.delivering ⟨event, some (.activation id (.forwarding forwarding)), waiting⟩))
    (hop : Hop world call notes world' progress) : Unmoved id world world' := by
  cases hop with
  | @listen event listener waiting _ _ _ hop =>
    cases hop with
    | pass | take | answered => exact .refl id world
    | forward id' forwarding =>
      cases Option.some.inj works
      exact absurd rfl (apart event forwarding waiting)
    | route id' route => exact sound.unmoved_routing there id' route
  | sync id' asked =>
    cases Option.some.inj works
    exact absurd rfl (direct asked)
  | _ => cases works

/-- Neither is a step of another call. -/
theorem Sound.passes_apart (sound : Sound world (call :: calls)) (there : id < world.activations.length)
    (direct : ∀ asked, call ≠ .sync id asked) (still : call.replaying? ≠ some id)
    (apart : ∀ event forwarding waiting, call ≠
      .publish (.delivering ⟨event, some (.activation id (.forwarding forwarding)), waiting⟩))
    (hop : Hop world call notes world' progress) : Passes id world world' := by
  by_cases works : call.worksFor? = some id
  · exact .inr (sound.unmoved_apart there works direct apart hop)
  · exact sound.passes_hop there works still hop

/-- **A step keeps track of the documents**, or it ends the session. -/
theorem Tracks.hop (h : Tracks id docs events world (before ++ call :: behind))
    (front : Forefront id world (call :: (before ++ behind)))
    (known : Known base world (call :: (before ++ behind)) history)
    (noted : .subscribed id docs ∈ history) (up : ¬Ended id world)
    (order : InOrder id world before [call]) (hop : Hop world call notes world' progress) :
    Ended id world' ∨ Tracks id docs events world' (before ++ progress.rest ++ behind) ∧
      InOrder id world' before progress.rest := by
  by_cases working : ∃ event forwarding waiting, call =
      .publish (.delivering ⟨event, some (.activation id (.forwarding forwarding)), waiting⟩)
  · obtain ⟨event, forwarding, waiting, rfl⟩ := working
    cases hop with
    | listen hop =>
      cases hop with
      | forward => exact .inr (h.forward known front.last up order)
  · by_cases still : call.replaying? = some id
    · obtain ⟨name, settings, replay, rfl⟩ := Call.of_replaying still
      refine (h.replays known noted hop).imp_right fun ⟨tracks, nothing⟩ => ⟨tracks, ?_⟩
      rintro - ⟨forwarding, mem, -⟩
      rw [nothing] at mem
      cases mem
    · have apart : ∀ event forwarding waiting, call ≠ .publish (.delivering
          ⟨event, some (.activation id (.forwarding forwarding)), waiting⟩) :=
        fun event forwarding waiting same => working ⟨event, forwarding, waiting, same⟩
      have same : backlog id progress.rest = call.forwardings id :=
        front.forwardings_hop known.sound known.square h.closed apart hop
      have direct : ∀ asked, call ≠ .sync id asked := by
        rintro asked rfl
        exact front.heads _ List.mem_cons_self rfl
      refine (known.sound.passes_apart front.there direct still apart hop).imp_right
        fun unmoved => ⟨?_, ?_⟩
      · refine h.unmoved unmoved ?_
        rw [backlog_around, backlog_split, same]
      · intro released waits
        rw [same] at waits
        rw [unmoved.activation] at released
        refine order released ?_
        simpa [backlog] using waits

end World
end EngineSync
