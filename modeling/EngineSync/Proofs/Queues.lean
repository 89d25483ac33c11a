import EngineSync.Proofs.Accounts
import EngineSync.Proofs.Barriers

/-!
# What stands in the lanes of an activation

The forwardings of an activation are spread over its replay, the publications that its listener is
at, and direct calls on its way to the session.  Its lanes hold the places of all of them and of
nobody else (`World.Laned`), whatever order the calls get their chances in.
-/
namespace EngineSync

/-! ## One way to a session -/

theorem placesOf_none {forwarding : Forwarding} (h : forwarding.place? = none) :
    placesOf [forwarding] = [] := by
  simp [placesOf, h]

theorem placesOf_some {forwarding : Forwarding} {place : Place}
    (h : forwarding.place? = some place) : placesOf [forwarding] = [place] := by
  simp [placesOf, h]

namespace Sync
variable {sync after : Sync} {forwarding : Forwarding} {moves : List LaneMove}
  {others : List Place}

/-- A step keeps the lanes as they should be; `others` stand there besides. -/
theorem Hop.lanes {progress : Progress Forwarding ForwardingResult}
    (hop : Hop sync forwarding moves after progress)
    (h : sync.lanes.Sound (placesOf [forwarding] ++ others)) :
    after.lanes.Sound (placesOf progress.rest ++ others) := by
  cases hop with
  | skip arriving untracked =>
    rw [placesOf_none (by simp [Forwarding.place?, arriving])] at h
    split <;> exact h
  | @reach lanes lane turn arriving tracked entered =>
    rw [placesOf_none (by simp [Forwarding.place?, arriving])] at h
    have entering := h.enter forwarding.doc.uri
    have last : turn = sync.lanes.nextTurn := by
      simpa [entered] using Lanes.enter_turn sync.lanes forwarding.doc.uri
    rw [entered, ← last] at entering
    exact entering
  | @refuse lane turn queued holds disposed =>
    have own : forwarding.place? = some ⟨forwarding.doc.uri, lane, turn⟩ := by
      simp [Forwarding.place?, queued]
    rw [placesOf_some own] at h
    exact depart_sound h
  | @issue lane turn queued holds open' =>
    have own : forwarding.place? = some ⟨forwarding.doc.uri, lane, turn⟩ := by
      simp [Forwarding.place?, queued]
    rw [placesOf_some own] at h
    exact h
  | @collect lane turn ticket engine answer calling collected =>
    have own : forwarding.place? = some ⟨forwarding.doc.uri, lane, turn⟩ := by
      simp [Forwarding.place?, calling]
    rw [placesOf_some own] at h
    exact depart_sound h

theorem poll_lanes (h : sync.lanes.Sound (placesOf [forwarding] ++ others)) :
    (sync.poll forwarding).1.lanes.Sound (placesOf (sync.poll forwarding).2.rest ++ others) :=
  (sync.poll_hops forwarding).carries
    (fun after rest => after.lanes.Sound (placesOf rest ++ others))
    (fun kept hop => hop.lanes kept) h

theorem pollReplay_lanes {replay : Replay}
    (h : sync.lanes.Sound (placesOf replay.current.toList ++ others)) :
    (sync.pollReplay replay).1.lanes.Sound
      (placesOf ((sync.pollReplay replay).2.rest.flatMap (·.current.toList)) ++ others) := by
  refine (sync.pollReplay_hops replay).carries
    (fun after rest => after.lanes.Sound (placesOf (rest.flatMap (·.current.toList)) ++ others))
    (fun {between replay moves after progress} kept hop => ?_) (by simpa using h)
  cases hop with
  | next doc rest forwarded total => exact kept
  | @go forwarding rest forwarded total moves after outcome hop =>
    have stepped := hop.lanes (by simpa using kept)
    rcases outcome with forwarding' | failure | taken
    · simpa [continued] using stepped
    · exact stepped
    · exact stepped
  | done forwarded total => exact kept

theorem pollCall_lanes {call : SyncCall}
    (h : sync.lanes.Sound (placesOf call.current?.toList ++ others)) :
    (sync.pollCall call).1.lanes.Sound
      (placesOf ((sync.pollCall call).2.rest.flatMap (·.current?.toList)) ++ others) := by
  cases call with
  | forward forwarding =>
    have polled := @poll_lanes sync forwarding others h
    simp only [pollCall, Progress.rest_map, List.flatMap_map]
    simpa [SyncCall.current?, List.flatMap_singleton] using polled
  | replay replay =>
    have polled := @pollReplay_lanes sync others replay h
    simp only [pollCall, Progress.rest_map, List.flatMap_map]
    exact polled

/-- Whoever is given up leaves the lane. -/
theorem cancel_lanes (h : sync.lanes.Sound (placesOf [forwarding] ++ others)) :
    (sync.cancel forwarding).lanes.Sound others := by
  unfold cancel
  cases stage : forwarding.stage with
  | arriving =>
    rw [placesOf_none (by simp [Forwarding.place?, stage])] at h
    exact h
  | queued lane turn | calling lane turn ticket =>
    have own : forwarding.place? = some ⟨forwarding.doc.uri, lane, turn⟩ := by
      simp [Forwarding.place?, stage]
    rw [placesOf_some own] at h
    exact h.quit

theorem cancelCall_lanes {call : SyncCall}
    (h : sync.lanes.Sound (placesOf call.current?.toList ++ others)) :
    (sync.cancelCall call).lanes.Sound others := by
  cases call with
  | forward forwarding => exact cancel_lanes h
  | replay replay =>
    obtain ⟨_ | forwarding, waiting, forwarded, total⟩ := replay
    · exact h
    · exact cancel_lanes h

end Sync

/-! ## Every activation -/

/-- The places of a call in the lanes of an activation. -/
def Call.places (id : ActivationId) : Call → List Place
  | .activate _ (.replaying id' _ replay) =>
    if id' = id then placesOf replay.current.toList else []
  | .publish (.delivering ⟨_, some (.activation id' (.forwarding forwarding)), _⟩) =>
    if id' = id then placesOf [forwarding] else []
  | .sync id' call => if id' = id then placesOf call.current?.toList else []
  | _ => []

theorem Call.places_of_idle {call : Call} {id : ActivationId} (idle : id ∉ call.ids) :
    call.places id = [] := by
  match call with
  | .activate _ .arriving | .activate _ (.configuring ..) | .publish (.arriving _)
  | .publish (.delivering ⟨_, none, _⟩) | .publish (.delivering ⟨_, some (.outside _), _⟩)
  | .publish (.delivering ⟨_, some (.activation _ .arriving), _⟩)
  | .publish (.delivering ⟨_, some (.activation _ (.routing _)), _⟩) => rfl
  | .activate _ (.replaying id' _ _) | .publish (.delivering ⟨_, some (.activation id' (.forwarding _)), _⟩)
  | .sync id' _ =>
    refine if_neg fun same => idle ?_
    rw [same]
    exact List.mem_cons_self

namespace World

/-- The lanes of an activation hold the places of its calls. -/
def Laned (id : ActivationId) (world : World) (calls : List Call) : Prop :=
  (world.activation id).lanes.Sound (calls.flatMap (Call.places id))

variable {world world' : World} {call : Call} {calls rest : List Call} {id id' : ActivationId}
  {notes : List WorldNote} {progress : Progress Call CallResult} {name : String}
  {settings : Settings} {replay : Replay} {total : Nat}

/-! ### What moves no lane -/

theorem lanes_setActivation (world : World) (id : ActivationId) {activation : Activation}
    (same : id = id' → activation.lanes = (world.activation id).lanes) :
    ((world.setActivation id' activation).activation id).lanes = (world.activation id).lanes :=
  @Lasting.setActivation _ Activation.lanes world id id' activation same

theorem lanes_teardown (world : World) (id id' : ActivationId) :
    ((world.teardown id').1.activation id).lanes = (world.activation id).lanes := by
  refine lanes_setActivation
    { world with env := (world.env.disposeAll (world.activation id').owner).1 } id fun here => ?_
  rw [here]
  rfl

theorem lanes_drop (world : World) (id : ActivationId) (name : String) :
    ((world.drop name).activation id).lanes = (world.activation id).lanes := by
  unfold World.drop
  cases world.live? name with
  | none => rfl
  | some id' => exact lanes_teardown world id id'

theorem lanes_deactivate (world : World) (id : ActivationId) (name : String) :
    ((world.deactivate name).activation id).lanes = (world.activation id).lanes := by
  unfold World.deactivate
  cases world.live? name with
  | none => rfl
  | some id' => exact lanes_teardown world id id'

theorem lanes_setBarrier (world : World) (id id' : ActivationId) (barrier : Barrier) :
    ((world.setBarrier id' barrier).activation id).lanes = (world.activation id).lanes :=
  lanes_setActivation world id fun here => by rw [here]

theorem lanes_abandon (world : World) (id id' : ActivationId) :
    ((world.abandon id').activation id).lanes = (world.activation id).lanes :=
  (lanes_teardown (world.setBarrier id' .abandoned) id id').trans (lanes_setBarrier world id id' _)

theorem lanes_finishActivate (world : World) (id id' : ActivationId) (name : String)
    (settings : Settings) :
    ((world.finishActivate name id' settings total).activation id).lanes = (world.activation id).lanes :=
  (lanes_drop (world.readied id' settings total) id name).trans (lanes_setBarrier world id id' .open)

theorem lanes_putSync (lt : id' < world.activations.length) (id : ActivationId) (sync : Sync) :
    ((world.putSync id' sync).activation id).lanes =
      if id' = id then sync.lanes else (world.activation id).lanes := by
  by_cases same : id' = id
  · subst same
    rw [if_pos rfl]
    exact congrArg Activation.lanes
      ((activation_setActivation _ id' id' _).trans (if_pos ⟨rfl, lt⟩))
  · rw [if_neg same]
    exact lanes_setActivation
      { world with env := { world.env with engine := sync.engine, journal := sync.journal } } id
      fun here => absurd here.symm same

theorem lanes_pollForwarding (world : World) (id id' : ActivationId) (forwarding : Forwarding) :
    ((world.pollForwarding id' forwarding).1.activation id).lanes =
      ((world.putSync id' ((world.sync id').poll forwarding).1).activation id).lanes := by
  unfold pollForwarding
  rcases (world.sync id').poll forwarding with ⟨sync, forwarding' | failure | taken⟩
  · rfl
  · rfl
  · simp only [concludeForwarding]
    split <;> rfl

theorem places_pollForwarding (world : World) (id id' : ActivationId) (event : Event)
    (waiting : List (Subscription Listener)) (forwarding : Forwarding) :
    (delivered event waiting (world.pollForwarding id' forwarding).2).rest.flatMap
        (Call.places id) =
      if id' = id then placesOf ((world.sync id').poll forwarding).2.rest else [] := by
  unfold pollForwarding
  rcases (world.sync id').poll forwarding with ⟨sync, forwarding' | failure | taken⟩
  · simp [delivered, Call.places]
  · simp [delivered, concludeForwarding, placesOf]
  · simp only [concludeForwarding]
    split <;> simp [delivered, Call.places, placesOf]

theorem places_pollRouting (world : World) (id id' : ActivationId) (event : Event)
    (waiting : List (Subscription Listener)) (call : RouteCall) :
    (delivered event waiting (world.pollRouting id' call).2).rest.flatMap (Call.places id) = [] := by
  unfold pollRouting
  rcases (world.activation id').router.poll world.env call with ⟨env, call' | failure | taken⟩ <;>
    rfl

/-! ### Steps -/

/-- A step that moves no lane and no place. -/
theorem Laned.same (h : Laned id world (call :: calls))
    (lanes : (world'.activation id).lanes = (world.activation id).lanes)
    (places : rest.flatMap (Call.places id) = call.places id) : Laned id world' (rest ++ calls) := by
  unfold Laned at h ⊢
  rw [lanes, List.flatMap_append, places]
  exact h

/-- A step on the way to a session, of the activation itself or of another one. -/
theorem Laned.putSync {sync : Sync} (h : Laned id world (call :: calls))
    (lt : id' < world.activations.length)
    (lanes : (world'.activation id).lanes = ((world.putSync id' sync).activation id).lanes)
    (own : id' = id → (world.sync id').lanes.Sound
        (call.places id ++ calls.flatMap (Call.places id)) →
      sync.lanes.Sound (rest.flatMap (Call.places id) ++ calls.flatMap (Call.places id)))
    (other : id' ≠ id → rest.flatMap (Call.places id) = call.places id) :
    Laned id world' (rest ++ calls) := by
  rw [lanes_putSync lt] at lanes
  by_cases same : id' = id
  · rw [if_pos same] at lanes
    unfold Laned
    rw [lanes, List.flatMap_append]
    refine own same ?_
    rw [same]
    exact h
  · rw [if_neg same] at lanes
    exact h.same lanes (other same)

theorem Laned.listens {event : Event} {listener : ListenerCall}
    {waiting : List (Subscription Listener)}
    {outcome : Progress ListenerCall (Except EngineFailure Unit)}
    (h : Laned id world (.publish (.delivering ⟨event, some listener, waiting⟩) :: calls))
    (sound : Sound world (.publish (.delivering ⟨event, some listener, waiting⟩) :: calls))
    (hop : ListenerHop event world listener notes world' outcome) :
    Laned id world' ((delivered event waiting outcome).rest ++ calls) := by
  cases hop with
  | pass abandoned => exact h.same rfl rfl
  | @take id' released =>
    refine h.same rfl ?_
    cases event <;> simp [delivered, ListenerStage.taking, Call.places, placesOf,
      Forwarding.place?, Forwarding.update, Forwarding.close]
  | @answered number answer found => rcases answer with failure | ⟨⟩ <;> exact h.same rfl rfl
  | forward id' forwarding =>
    have lt : id' < world.activations.length := sound.lt_of_ids List.mem_cons_self
    refine h.putSync lt (lanes_pollForwarding world id id' forwarding) (fun same sound => ?_)
      fun ne => ?_
    · rw [places_pollForwarding, if_pos same]
      refine Sync.poll_lanes ?_
      simpa [Call.places, same] using sound
    · rw [places_pollForwarding, if_neg ne]
      exact (if_neg ne).symm
  | route id' route => exact h.same rfl (places_pollRouting world id id' event waiting route)

/-- **A step keeps the lanes of every activation as they should be.** -/
theorem Laned.hop (h : Laned id world (call :: calls)) (sound : Sound world (call :: calls))
    (hop : Hop world call notes world' progress) :
    Laned id world' (progress.rest ++ calls) := by
  cases hop with
  | refused | began | rejected | publish | finish => exact h.same rfl rfl
  | @subscribed name collection session settings ticket env collected =>
    by_cases new : id = world.activations.length
    · -- a newcomer has empty lanes, and no call is in them
      have none : calls.flatMap (Call.places id) = [] :=
        List.flatMap_eq_nil_iff.mpr fun call hc => Call.places_of_idle fun mem =>
          Nat.ne_of_lt (sound.ended.orderly.ids_lt call hc id mem) new
      unfold Laned
      rw [activation_welcome, if_pos new, List.flatMap_append, none]
      have places : ([.activate name (.replaying world.activations.length settings
          (.start world.env.openDocuments))] : List Call).flatMap (Call.places id) ++ [] = [] := by
        simp [Call.places, Replay.start, placesOf]
      rw [Progress.rest_pending, places]
      exact Lanes.sound_empty
    · refine h.same ?_ ?_
      · rw [activation_welcome, if_neg new]
        rfl
      · simp [Call.places, Ne.symm new]
  | @replay name id' settings replay sync replay' polled =>
    have lt : id' < world.activations.length := sound.lt_of_ids List.mem_cons_self
    refine h.putSync lt rfl (fun same sound => ?_) fun ne => by simp [Call.places, ne]
    subst same
    have polls := Sync.pollReplay_lanes (by simpa [Call.places] using sound)
    simpa [polled, Call.places] using polls
  | @ready name id' settings replay sync count polled =>
    have lt : id' < world.activations.length := sound.lt_of_ids List.mem_cons_self
    refine h.putSync lt (lanes_finishActivate _ id id' name settings) (fun same sound => ?_)
      fun ne => by simp [Call.places, ne]
    subst same
    have polls := Sync.pollReplay_lanes (by simpa [Call.places] using sound)
    simpa [polled, placesOf] using polls
  | @failed name id' settings replay sync failure polled =>
    have lt : id' < world.activations.length := sound.lt_of_ids List.mem_cons_self
    refine h.putSync lt (lanes_abandon _ id id') (fun same sound => ?_)
      fun ne => by simp [Call.places, ne]
    subst same
    have polls := Sync.pollReplay_lanes (by simpa [Call.places] using sound)
    simpa [polled, placesOf] using polls
  | call event next waiting =>
    cases listener : next.listener with
    | activation id' =>
      refine h.same ?_ ?_ <;> simp [startListener, ListenerCall.start, Call.places]
    | outside number =>
      refine h.same ?_ ?_ <;> simp [startListener, ListenerCall.start, Call.places]
      rfl
  | listen hop => exact h.listens sound hop
  | sync id' call =>
    have lt : id' < world.activations.length := sound.lt_of_ids List.mem_cons_self
    have goes : (world.poll (.sync id' call)).2.rest =
        ((world.sync id').pollCall call).2.rest.map (Call.sync id') := Progress.rest_map _ _ _
    refine h.putSync lt rfl (fun same sound => ?_) fun ne => ?_
    · subst same
      have polls := Sync.pollCall_lanes (by simpa [Call.places] using sound)
      have places : (((world.sync id').pollCall call).2.rest.map (Call.sync id')).flatMap
          (Call.places id') =
            placesOf (((world.sync id').pollCall call).2.rest.flatMap (·.current?.toList)) := by
        simp [List.flatMap_map, Call.places, placesOf, List.filterMap_flatMap]
      rw [goes, places]
      exact polls
    · rw [goes, List.flatMap_map]
      simp [Call.places, ne]

/-- Whoever is given up leaves the lane. -/
theorem Laned.cancel (h : Laned id world (call :: calls)) (sound : Sound world (call :: calls)) :
    Laned id (world.cancel call) calls := by
  match call with
  | .activate name .arriving | .activate name (.configuring ..) | .publish (.arriving event)
  | .publish (.delivering ⟨event, none, waiting⟩)
  | .publish (.delivering ⟨event, some (.outside number), waiting⟩)
  | .publish (.delivering ⟨event, some (.activation id' .arriving), waiting⟩)
  | .publish (.delivering ⟨event, some (.activation id' (.routing route)), waiting⟩) =>
    exact @Laned.same world _ _ calls [] id h rfl rfl
  | .activate name (.replaying id' settings replay) =>
    have lt : id' < world.activations.length := sound.lt_of_ids List.mem_cons_self
    refine @Laned.putSync world _ _ calls [] id id' _ h lt (lanes_abandon _ id id')
      (fun same sound => ?_) fun ne => (if_neg ne).symm
    subst same
    refine @Sync.cancelCall_lanes _ _ (.replay replay) ?_
    simpa [Call.places, SyncCall.current?] using sound
  | .publish (.delivering ⟨event, some (.activation id' (.forwarding forwarding)), waiting⟩) =>
    have lt : id' < world.activations.length := sound.lt_of_ids List.mem_cons_self
    refine @Laned.putSync world _ _ calls [] id id' _ h lt rfl (fun same sound => ?_)
      fun ne => (if_neg ne).symm
    subst same
    exact Sync.cancel_lanes (by simpa [Call.places] using sound)
  | .sync id' call =>
    have lt : id' < world.activations.length := sound.lt_of_ids List.mem_cons_self
    refine @Laned.putSync world _ _ calls [] id id' _ h lt rfl (fun same sound => ?_)
      fun ne => (if_neg ne).symm
    subst same
    exact Sync.cancelCall_lanes (by simpa [Call.places] using sound)

theorem Laned.surround (h : Laned id world calls) (move : WorldMove) :
    Laned id (world.surround move) calls := by
  have lanes : ((world.surround move).activation id).lanes = (world.activation id).lanes := by
    cases move with
    | release | grant | refuse | files | source | documents | report | listen | answer => rfl
    | unlisten number =>
      simp only [World.surround]
      split <;> rfl
    | deactivate name => exact lanes_deactivate world id name
    | drop name => exact lanes_drop world id name
    | disposeSession name =>
      simp only [World.surround]
      cases world.live? name <;> rfl
    | route name change =>
      simp only [World.surround]
      cases world.live? name with
      | none => rfl
      | some id' =>
        simp only [routeNow]
        rcases (world.activation id').router.poll world.env (.arriving change) with
          ⟨env, call | result⟩ <;> rfl
  unfold Laned
  rw [lanes]
  exact h

/-- A call that is accepted stands in no lane. -/
theorem places_accepted {request : WorldRequest} (accepted : world.accept request = some call) :
    call.places id = [] := by
  cases request with
  | activate name | publish event =>
    cases accepted
    rfl
  | sync id' request =>
    simp only [World.accept] at accepted
    split at accepted
    · cases accepted
      cases request <;> simp [Call.places, SyncRequest.call, SyncCall.current?, Replay.start,
        placesOf, Forwarding.place?, Forwarding.update, Forwarding.close]
    · cases accepted

/-- **The lanes of every activation are as they should be** in every world that is reached. -/
theorem laned_tells : Tells fun world calls _ =>
    Sound world calls ∧ ∀ id, Laned id world calls where
  tidy h := h.1.tidy
  perm hp h := ⟨h.1.perm hp, fun id => (h.2 id).perm (hp.flatMap_right _)⟩
  accept {world calls history request call} h accepted := by
    refine ⟨h.1.accepts accepted, fun id => ?_⟩
    unfold Laned
    rw [List.flatMap_cons, places_accepted accepted]
    exact h.2 id
  hop h hop := ⟨h.1.hop hop, fun id => (h.2 id).hop h.1 hop⟩
  cancel h := ⟨h.1.cancels, fun id => (h.2 id).cancel h.1⟩
  surround move h := ⟨h.1.surrounds move, fun id => (h.2 id).surround move⟩

end World
end EngineSync
