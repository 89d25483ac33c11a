import EngineSync.Proofs.Roster

/-!
# Sound worlds

A world is sound if everybody has what is their own and the calls fit the barriers.  Every request,
step and move keeps it so, and so every world that can be reached is sound.
-/
namespace EngineSync.World

/-- The barrier of an activation is open, and the journal says so. -/
def readied (world : World) (id : ActivationId) (settings : Settings) (total : Nat) : World :=
  let world := world.setBarrier id .open
  world.log [.ready total settings.formatting (world.activation id).owner.size]

/-- Everybody has what is their own, and calls, barriers and live activations fit each other. -/
structure Sound (world : World) (calls : List Call) : Prop where
  owned : Owned world.env world.cores (calls.filterMap Call.newborn?)
  orderly : world.Orderly calls

namespace Sound
variable {world world' : World} {call : Call} {calls rest : List Call} {id : ActivationId}
  {env : Environment} {scope : Scope}

theorem tidy (h : Sound world calls) : world.env.Tidy :=
  h.owned.tidy

theorem perm {calls' : List Call} (h : Sound world calls) (hp : calls.Perm calls') :
    Sound world calls' :=
  ⟨h.owned.perm (hp.filterMap _), h.orderly.perm hp⟩

/-! ## What is known of an activation -/

theorem core_eq (lt : id < world.activations.length) :
    world.cores[id]? = some (world.activation id).core := by
  simp [cores, World.activation, lt]

theorem core_mem (lt : id < world.activations.length) :
    (world.activation id).core ∈ world.cores :=
  List.mem_of_getElem? (core_eq lt)

theorem within (h : Sound world calls) (lt : id < world.activations.length) :
    (world.activation id).Within world.env := by
  obtain ⟨session, collection, gate⟩ := h.owned.within _ (core_mem lt)
  exact ⟨session, collection, gate⟩

/-! ## Steps of every kind -/

/-- Edits that nobody listens to and that concern sessions that exist. -/
theorem edits (h : Sound world calls) (edits : Environment.Edits scope world.env env)
    (takes : ∀ release, scope.takes release → Scope.IsProvider release)
    (nobody : ∀ listener, ¬scope.listens listener)
    (bounds : ∀ session, scope.changes (.session session) →
      session < env.engine.sessions.length) : Sound { world with env } calls :=
  ⟨h.owned.evolve edits takes bounds, h.orderly.calm (calm_edits edits nobody)⟩

theorem plain (h : Sound world calls) (edits : Environment.Edits .plain world.env env) :
    Sound { world with env } calls := by
  refine h.edits edits (fun _ taken => taken) (fun _ no => no) ?_
  intro session names
  rcases names with no | ⟨kind, no⟩ <;> cases no

theorem session (h : Sound world calls) {session : SessionId}
    (lt : session < world.env.engine.sessions.length)
    (edits : Environment.Edits (.changing (· = .session session)) world.env env) :
    Sound { world with env } calls := by
  refine h.edits edits (fun _ taken => taken) (fun _ no => no) ?_
  intro other names
  rcases names with same | ⟨kind, no⟩
  · cases same
    exact Nat.lt_of_lt_of_le lt (Environment.Edits.evolves edits).sessions
  · cases no

/-- Replacing an activation by one that differs in its lanes or its barrier changes no core. -/
theorem cores_set (world : World) (id : ActivationId) {activation : Activation}
    (same : activation.core = (world.activation id).core) :
    (world.activations.set id activation).map Activation.core = world.cores := by
  by_cases lt : id < world.activations.length
  · have found : world.activations[id]? = some (world.activation id) := by
      simp [World.activation, lt]
    exact Owned.map_set_same found same
  · exact congrArg (List.map _) (List.set_eq_of_length_le (Nat.le_of_not_lt lt))

theorem cores_works (works : Works id world world') : world'.cores = world.cores := by
  obtain ⟨lanes, activations⟩ := works.activations
  unfold cores
  rw [activations]
  exact cores_set world id rfl

theorem cores_setBarrier (world : World) (id : ActivationId) (barrier : Barrier) :
    (world.setBarrier id barrier).cores = world.cores :=
  cores_set world id rfl

theorem works (h : Sound world calls) (lt : id < world.activations.length)
    (works : Works id world world') : Sound world' calls := by
  refine ⟨?_, h.orderly.calm works.calm⟩
  rw [cores_works works]
  refine h.owned.evolve works.edits (fun _ taken => taken) ?_
  intro session names
  rcases names with (own | no | no) | ⟨kind, no⟩
  · cases own
    exact Nat.lt_of_lt_of_le (h.within lt).session (Environment.Edits.evolves works.edits).sessions
  all_goals cases no

/-- Calls to listeners outside and their answers make no difference. -/
theorem alike (h : Sound world calls) (env : world'.env = world.env)
    (activations : world'.activations = world.activations) (live : world'.live = world.live) :
    Sound world' calls := by
  have same (id : ActivationId) : world'.activation id = world.activation id := by
    unfold World.activation
    rw [activations]
  have calm : Calm world world' := by
    refine ⟨fun kind => ?_, by rw [activations], fun id => by rw [same], fun id => by rw [same], live⟩
    rw [env]
  refine ⟨?_, h.orderly.calm calm⟩
  unfold cores
  rw [env, activations]
  exact h.owned

/-- A call goes on or has finished. -/
theorem follow (h : Sound world (call :: calls))
    (newborn : (rest.filterMap Call.newborn?).Sublist ([call].filterMap Call.newborn?))
    (ids : ∀ next ∈ rest, next.ids.Nodup ∧ ∀ id ∈ next.ids, id < world.activations.length)
    (replays : (rest.filterMap Call.replaying?).Sublist ([call].filterMap Call.replaying?))
    (works : ∀ id ∈ rest.filterMap Call.worksFor?, (world.activation id).barrier = .open) :
    Sound world (rest ++ calls) := by
  refine ⟨h.owned.forget ?_, h.orderly.follow ids replays works⟩
  rw [List.filterMap_append, ← List.singleton_append, List.filterMap_append]
  exact newborn.append_right _

theorem ended (h : Sound world (call :: calls)) : Sound world calls :=
  @follow world call calls [] h (List.nil_sublist _) (by simp) (List.nil_sublist _) (by simp)

/-- The activation that a call works for is there. -/
theorem lt_of_ids (h : Sound world (call :: calls)) (hid : id ∈ call.ids) :
    id < world.activations.length :=
  h.orderly.ids_lt call List.mem_cons_self id hid

/-- A publication that is at the listener of an activation comes to it no more. -/
theorem comes_once {event : Event} {stage : ListenerStage}
    {waiting : List (Subscription Listener)}
    (h : Sound world
      (.publish (.delivering ⟨event, some (.activation id stage), waiting⟩) :: calls)) :
    id ∉ audience waiting :=
  (List.nodup_cons.mp (h.orderly.ids _ List.mem_cons_self)).1

/-! ## The end of an activation -/

/-- The barrier of an activation is moved. -/
theorem setBarrier (h : Sound world calls) {barrier : Barrier}
    (replays : id ∉ calls.filterMap Call.replaying?)
    (free : barrier = .open ∨ id ∉ calls.filterMap Call.worksFor? ∧ id ∉ world.live.map (·.2)) :
    Sound (world.setBarrier id barrier) calls := by
  constructor
  · rw [cores_setBarrier]
    exact h.owned
  · refine h.orderly.replace (List.Sublist.refl _) (List.Sublist.refl _) replays ?_ ?_
    · intro hw
      rcases free with released | ⟨idle, -⟩
      · exact released
      · exact absurd hw idle
    · intro hl
      rcases free with released | ⟨-, dead⟩
      · obtain ⟨entry, he, rfl⟩ := List.mem_map.mp hl
        exact ⟨released, (h.orderly.live entry he).2⟩
      · exact absurd hl dead

/-- What an activation holds is disposed, and it is live no more. -/
theorem teardown (h : Sound world calls) (lt : id < world.activations.length)
    (replays : id ∉ calls.filterMap Call.replaying?) {live : List (String × ActivationId)}
    (fewer : live.Sublist world.live) (dead : id ∉ live.map (·.2)) :
    Sound { (world.teardown id).1 with live } calls := by
  have own := core_eq lt
  constructor
  · have torn := h.owned.teardown own
    have same : (world.teardown id).1.cores =
        world.cores.set id (world.activation id).core.released := by
      show List.map _ (List.set _ _ _) = _
      rw [List.map_set]
      rfl
    show Owned (world.teardown id).1.env (world.teardown id).1.cores _
    rw [same]
    exact torn
  · have leave := Environment.Edits.leave (h.owned.teardown_edits own) fun _ no => no
    refine h.orderly.replace leave fewer replays (fun hw => ?_) (fun hl => absurd hl dead)
    exact h.orderly.working id hw

/-- The live activation of a name is torn down. -/
theorem unname (h : Sound world calls) {name : String} (found : world.live? name = some id) :
    Sound { (world.teardown id).1 with live := world.live.filter (·.1 ≠ name) } calls := by
  have mem : (name, id) ∈ world.live := by
    obtain ⟨before, after, split, -⟩ := List.lookup_eq_some_iff.mp found
    rw [split]
    simp
  have released := (h.orderly.live _ mem).1
  refine h.teardown (lt_of_open released) ?_ List.filter_sublist (h.orderly.not_live_without found)
  intro replays
  have waiting := (h.orderly.replaying id replays).1
  rw [released] at waiting
  cases waiting

theorem drop (h : Sound world calls) (name : String) : Sound (world.drop name) calls := by
  unfold World.drop
  cases found : world.live? name with
  | none => exact h
  | some id => exact h.unname found

theorem deactivate (h : Sound world calls) (name : String) :
    Sound (world.deactivate name) calls := by
  unfold World.deactivate
  cases found : world.live? name with
  | none => exact h
  | some id => exact (h.unname found).plain (Environment.log_edits _ _)

/-- Dropping a live activation leaves the others alone. -/
theorem activation_drop (name : String) (dead : id ∉ world.live.map (·.2)) :
    (world.drop name).activation id = world.activation id := by
  unfold World.drop
  cases found : world.live? name with
  | none => rfl
  | some id' =>
    have mem : (name, id') ∈ world.live := by
      obtain ⟨before, after, split, -⟩ := List.lookup_eq_some_iff.mp found
      rw [split]
      simp
    have ne : id ≠ id' := fun same => dead (same ▸ List.mem_map_of_mem mem)
    refine (activation_setActivation _ id' id _).trans ?_
    simp [ne, World.activation]

variable {name : String} {settings : Settings} {replay : Replay} {total : Nat}

/-- The activation whose documents a call replays has only this call. -/
theorem replaying_only (h : Sound world (.activate name (.replaying id settings replay) :: calls)) :
    id ∉ calls.filterMap Call.replaying? ∧ id ∉ calls.filterMap Call.worksFor? ∧
      id ∉ world.live.map (·.2) := by
  have waiting := (h.orderly.replaying id List.mem_cons_self).1
  have closed : (world.activation id).barrier ≠ .open := by
    rw [waiting]
    nofun
  refine ⟨(List.nodup_cons.mp h.orderly.replays).1, fun works => ?_, fun live => ?_⟩
  · exact closed (h.orderly.working id works)
  · obtain ⟨entry, he, rfl⟩ := List.mem_map.mp live
    exact closed (h.orderly.live entry he).1

/-- Once its barrier is abandoned, an activation is there as it was, and no call works for it. -/
theorem abandoning (h : Sound world (.activate name (.replaying id settings replay) :: calls)) :
    Sound (world.setBarrier id .abandoned) calls ∧
      id < (world.setBarrier id .abandoned).activations.length ∧
      (world.setBarrier id .abandoned).activation id =
        { world.activation id with barrier := .abandoned } := by
  obtain ⟨replays, works, dead⟩ := h.replaying_only
  have lt : id < world.activations.length := h.lt_of_ids List.mem_cons_self
  refine ⟨h.ended.setBarrier replays (.inr ⟨works, dead⟩), ?_, ?_⟩
  · simpa [World.setBarrier, World.setActivation] using lt
  · exact (activation_setActivation world id id _).trans (if_pos ⟨rfl, lt⟩)

theorem abandon (h : Sound world (.activate name (.replaying id settings replay) :: calls)) :
    Sound (world.abandon id) calls := by
  obtain ⟨replays, -, dead⟩ := h.replaying_only
  obtain ⟨moved, lt, -⟩ := h.abandoning
  exact moved.teardown lt replays (List.Sublist.refl _) dead

theorem readied (h : Sound world (.activate name (.replaying id settings replay) :: calls))
    (total : Nat) :
    Sound (world.readied id settings total) calls := by
  have opened : Sound (world.setBarrier id .open) calls :=
    h.ended.setBarrier h.replaying_only.1 (.inl rfl)
  exact opened.plain (Environment.log_edits _ _)

theorem activation_readied (lt : id < world.activations.length) (settings : Settings)
    (total : Nat) :
    (world.readied id settings total).activation id =
      { world.activation id with barrier := .open } := by
  refine (activation_setActivation world id id _).trans ?_
  simp [lt]

theorem finishActivate
    (h : Sound world (.activate name (.replaying id settings replay) :: calls)) :
    Sound (world.finishActivate name id settings total) calls := by
  have dead := h.replaying_only.2.2
  have lt : id < world.activations.length := h.lt_of_ids List.mem_cons_self
  have dropped := (h.readied total).drop name
  have same := (@activation_drop (world.readied id settings total) id name dead).trans
    (activation_readied lt settings total)
  refine ⟨dropped.owned, dropped.orderly.addLive name ?_ ?_ fun live => dead ?_⟩
  · rw [same]
  · rw [same]
    exact (h.orderly.replaying id List.mem_cons_self).2
  · obtain ⟨entry, he, rfl⟩ := List.mem_map.mp live
    refine List.mem_map_of_mem ?_
    unfold World.drop at he
    split at he
    · exact he
    · exact (List.mem_filter.mp he).1

/-! ## Publications -/

variable {event : Event} {listener : ListenerCall} {waiting : List (Subscription Listener)}
  {progress : Progress ListenerCall (Except EngineFailure Unit)} {notes : List WorldNote}

/-- A publication goes on with what becomes of the listener that it is at. -/
theorem delivers
    (h : Sound world (.publish (.delivering ⟨event, some listener, waiting⟩) :: calls))
    (next : ∀ listener', progress = .pending listener' →
      listener'.activation? = listener.activation? ∧
        ∀ id, listener'.worksFor? = some id → (world.activation id).barrier = .open) :
    Sound world ((delivered event waiting progress).rest ++ calls) := by
  rcases progress with listener' | failure | ⟨⟩
  · obtain ⟨same, works⟩ := next listener' rfl
    refine h.follow (List.nil_sublist _) (fun next hn => ?_) (List.nil_sublist _) ?_
    · rw [List.mem_singleton.mp hn]
      refine h.orderly.fewer ?_
      simp only [Call.ids, Option.bind_some, same]
      exact List.Sublist.refl _
    · intro id hid
      obtain ⟨call, hc, he⟩ := List.mem_filterMap.mp hid
      rw [List.mem_singleton.mp hc] at he
      exact works id he
  · exact h.ended
  · refine h.follow (List.nil_sublist _) (fun next hn => ?_) (List.nil_sublist _) nofun
    rw [List.mem_singleton.mp hn]
    exact h.orderly.fewer (List.sublist_append_right _ _)

/-- Work past the barrier leaves a publication where it is, or takes it further. -/
theorem delivers_work (lt : id < world.activations.length) (works : Works id world world')
    (own : listener.activation? = some id) (released : (world.activation id).barrier = .open)
    (h : Sound world (.publish (.delivering ⟨event, some listener, waiting⟩) :: calls))
    (next : ∀ listener', progress = .pending listener' →
      ∃ stage, listener' = .activation id stage ∧ stage ≠ .arriving) :
    Sound world' ((delivered event waiting progress).rest ++ calls) := by
  refine (h.works lt works).delivers fun listener' he => ?_
  obtain ⟨stage, rfl, -⟩ := next listener' he
  refine ⟨own.symm, fun id' hid => ?_⟩
  have same : id' = id := by
    cases stage <;> simp [ListenerCall.worksFor?] at hid <;> exact hid.symm
  rw [same, works.calm.barrier]
  exact released

theorem pollForwarding_pending {forwarding : Forwarding}
    (pending : (world.pollForwarding id forwarding).2 = .pending listener) :
    ∃ stage, listener = .activation id stage ∧ stage ≠ .arriving := by
  unfold pollForwarding at pending
  rcases polled : (world.sync id).poll forwarding with ⟨sync, forwarding' | result⟩
  · rw [polled] at pending
    cases pending
    exact ⟨_, rfl, nofun⟩
  · rw [polled] at pending
    cases pending

theorem pollRouting_pending {route : RouteCall}
    (pending : (world.pollRouting id route).2 = .pending listener) :
    ∃ stage, listener = .activation id stage ∧ stage ≠ .arriving := by
  unfold pollRouting at pending
  rcases polled : (world.activation id).router.poll world.env route with ⟨env, route' | result⟩
  · rw [polled] at pending
    cases pending
    exact ⟨_, rfl, nofun⟩
  · rw [polled] at pending
    cases pending

theorem listens
    (h : Sound world (.publish (.delivering ⟨event, some listener, waiting⟩) :: calls))
    (hop : ListenerHop event world listener notes world' progress) :
    Sound world' ((delivered event waiting progress).rest ++ calls) := by
  cases hop with
  | pass abandoned => exact h.delivers nofun
  | take released =>
    refine h.delivers fun listener' he => ?_
    cases he
    refine ⟨rfl, fun id' hid => ?_⟩
    cases event <;> cases hid <;> exact released
  | forward id forwarding =>
    have released := h.orderly.working id List.mem_cons_self
    exact delivers_work (lt_of_open released) (works_forwarding world id forwarding) rfl released h
      fun _ pending => pollForwarding_pending pending
  | route id route =>
    have released := h.orderly.working id List.mem_cons_self
    exact delivers_work (lt_of_open released) (works_routing h.tidy id route) rfl released h
      fun _ pending => pollRouting_pending pending
  | answered found => exact h.delivers nofun

/-! ## Every step -/

theorem collects {settings : Settings} {ticket : TicketId} {answer : Except EngineFailure Unit}
    (h : Sound world calls)
    (collected : world.env.collectProfile? settings.profile ticket = some (env, answer)) :
    Sound { world with env } calls :=
  h.plain (Environment.collectProfile?_edits collected)

/-- **Every step keeps a world sound.** -/
theorem hop {progress : Progress Call CallResult} (h : Sound world (call :: calls))
    (hop : Hop world call notes world' progress) : Sound world' (progress.rest ++ calls) := by
  cases hop with
  | refused opened =>
    refine Sound.ended (h.plain ?_)
    exact Relation.ReflTransGen.trans (Environment.makeCollection_edits _)
      (Relation.ReflTransGen.trans (Environment.snapshot_edits _)
        (Environment.openSession_refused opened))
  | @began name opened session applied ticket made applies =>
    have edits := began_edits made applies
    refine ⟨h.owned.began made applies, ?_⟩
    refine (h.orderly.calm (calm_edits edits fun _ no => no)).follow ?_ (List.nil_sublist _) nofun
    intro next hn
    rw [List.mem_singleton.mp hn]
    exact ⟨List.nodup_nil, nofun⟩
  | @rejected name collection session settings ticket env failure collected =>
    have lt := (h.owned.newborn_within _ List.mem_cons_self).2
    have edits : Environment.Edits .plain world.env env :=
      Environment.collectProfile?_edits collected
    refine Sound.ended ((h.collects collected).session
      (Nat.lt_of_lt_of_le lt (Environment.Edits.evolves edits).sessions) ?_)
    exact Environment.disposeSession_edits _ (.inl rfl)
  | @subscribed name collection session settings ticket env collected =>
    have ready := h.collects collected
    have owned := ready.owned.welcome world.language settings.formatting
    have length : (World.cores { world with env }).length = world.activations.length :=
      List.length_map _
    rw [length] at owned
    refine ⟨?_, ready.orderly.welcome ready.tidy world.env.openDocuments⟩
    have cores : (World.welcome { world with env } collection session settings).cores =
        world.cores ++ [(Activation.install env world.language world.activations.length session
          collection settings.formatting).2.core] := List.map_append
    rw [cores]
    exact owned
  | @replay name id settings replay sync replay' polled =>
    have lt : id < world.activations.length := h.lt_of_ids List.mem_cons_self
    have works := works_pollReplay polled
    refine (h.works lt works).follow (List.nil_sublist _) (fun next hn => ?_)
      (List.Sublist.refl _) nofun
    rw [List.mem_singleton.mp hn]
    exact (h.works lt works).orderly.fewer (List.Sublist.refl _)
  | @ready name id settings replay sync count polled =>
    have lt : id < world.activations.length := h.lt_of_ids List.mem_cons_self
    exact (h.works lt (works_pollReplay polled)).finishActivate
  | @failed name id settings replay sync failure polled =>
    have lt : id < world.activations.length := h.lt_of_ids List.mem_cons_self
    exact (h.works lt (works_pollReplay polled)).abandon
  | publish event =>
    have logged := h.plain (Environment.log_edits world.env
      [.publishEvent event.kind.name (world.env.bus.subscribers event.kind).length])
    refine logged.follow (List.nil_sublist _) (fun next hn => ?_) (List.nil_sublist _) nofun
    rw [List.mem_singleton.mp hn]
    exact ⟨logged.orderly.audience event.kind, logged.orderly.audience_lt event.kind⟩
  | call event next waiting =>
    have same : Sound (world.startListener next.listener).1
        (.publish (.delivering ⟨event, none, next :: waiting⟩) :: calls) := by
      unfold startListener
      cases next.listener with
      | activation id => exact h
      | outside number => exact h.alike rfl rfl rfl
    refine same.follow (List.nil_sublist _) (fun next' hn => ?_) (List.nil_sublist _) ?_
    · rw [List.mem_singleton.mp hn]
      refine same.orderly.fewer ?_
      unfold startListener
      cases listener : next.listener <;>
        simp [Call.ids, audience, ListenerCall.start, listener, ListenerCall.activation?,
          Listener.activation?]
    · unfold startListener
      cases next.listener <;> simp [Call.worksFor?, ListenerCall.start, ListenerCall.worksFor?]
  | listen hop => exact h.listens hop
  | finish event => exact h.ended
  | sync id call =>
    have lt : id < world.activations.length := h.lt_of_ids List.mem_cons_self
    have works := works_sync world id call
    have released := h.orderly.working id List.mem_cons_self
    have worked := h.works lt works
    simp only [World.poll] at worked works ⊢
    revert worked works
    rcases (world.sync id).pollCall call with ⟨sync, call' | result⟩ <;> intro works worked
    · refine worked.follow (List.nil_sublist _) (fun next hn => ?_) (List.nil_sublist _) ?_
      · rw [List.mem_singleton.mp hn]
        exact worked.orderly.fewer (List.Sublist.refl _)
      · intro id' hid
        rw [works.calm.barrier]
        cases List.mem_singleton.mp hid
        exact released
    · exact worked.ended

/-! ## Requests, and calls that are given up -/

/-- A call that replays nothing and has created no session sets out. -/
theorem join (h : Sound world calls) (newborn : call.newborn? = none)
    (replays : call.replaying? = none)
    (ids : call.ids.Nodup ∧ ∀ id ∈ call.ids, id < world.activations.length)
    (works : ∀ id, call.worksFor? = some id → (world.activation id).barrier = .open) :
    Sound world (call :: calls) := by
  refine ⟨?_, { h.orderly with
    ids := fun next hn => ?_
    ids_lt := fun next hn => ?_
    replays := ?_
    replaying := ?_
    working := fun id hid => ?_ }⟩
  · rw [List.filterMap_cons_none newborn]
    exact h.owned
  · rcases List.mem_cons.mp hn with rfl | old
    · exact ids.1
    · exact h.orderly.ids next old
  · rcases List.mem_cons.mp hn with rfl | old
    · exact ids.2
    · exact h.orderly.ids_lt next old
  · rw [List.filterMap_cons_none replays]
    exact h.orderly.replays
  · rw [List.filterMap_cons_none replays]
    exact h.orderly.replaying
  · obtain ⟨next, hn, he⟩ := List.mem_filterMap.mp hid
    rcases List.mem_cons.mp hn with rfl | old
    · exact works id he
    · exact h.orderly.working id (List.mem_filterMap.mpr ⟨next, old, he⟩)

theorem accepts {request : WorldRequest} (h : Sound world calls)
    (accepted : world.accept request = some call) : Sound world (call :: calls) := by
  cases request with
  | activate name =>
    cases accepted
    exact h.join rfl rfl ⟨List.nodup_nil, nofun⟩ nofun
  | publish event =>
    cases accepted
    exact h.join rfl rfl ⟨List.nodup_nil, nofun⟩ nofun
  | sync id request =>
    simp only [World.accept, Option.ite_none_right_eq_some, Option.some.injEq] at accepted
    obtain ⟨live, rfl⟩ := accepted
    obtain ⟨entry, he, same⟩ := List.any_eq_true.mp live
    have released := (h.orderly.live entry he).1
    rw [decide_eq_true_eq.mp same] at released
    refine h.join rfl rfl ⟨List.nodup_singleton _, fun id' hid => ?_⟩ fun id' hid => ?_
    · rw [List.mem_singleton.mp hid]
      exact lt_of_open released
    · cases hid
      exact released

theorem cancels (h : Sound world (call :: calls)) : Sound (world.cancel call) calls := by
  match call with
  | .activate name .arriving => exact h.ended
  | .activate name (.configuring collection session settings ticket) =>
    exact h.ended.plain (.single (Environment.cancel_edit world.env ticket))
  | .activate name (.replaying id settings replay) =>
    have lt : id < world.activations.length := h.lt_of_ids List.mem_cons_self
    exact (h.works lt (works_cancelSync world id (.replay replay))).abandon
  | .publish (.arriving event) => exact h.ended
  | .publish (.delivering ⟨event, none, waiting⟩) => exact h.ended
  | .publish (.delivering ⟨event, some (.outside number), waiting⟩) => exact h.ended
  | .publish (.delivering ⟨event, some (.activation id stage), waiting⟩) =>
    have lt : id < world.activations.length := h.lt_of_ids List.mem_cons_self
    exact h.ended.works lt (works_cancelListener world id stage)
  | .sync id call =>
    have lt : id < world.activations.length := h.lt_of_ids List.mem_cons_self
    exact h.ended.works lt (works_cancelSync world id call)

/-! ## The surroundings -/

theorem live_lt (h : Sound world calls) {name : String} (found : world.live? name = some id) :
    id < world.activations.length := by
  obtain ⟨before, after, split, -⟩ := List.lookup_eq_some_iff.mp found
  exact lt_of_open (h.orderly.live (name, id) (by rw [split]; simp)).1

theorem surrounds (h : Sound world calls) (move : WorldMove) :
    Sound (world.surround move) calls := by
  cases move with
  | release key => exact h.plain (.single (Environment.release_edit world.env key))
  | grant ticket => exact h.plain (.single (Environment.grant_edit world.env ticket))
  | refuse refusals => exact h.plain (.single (Environment.refuse_edit world.env refusals))
  | files files =>
    exact ⟨h.owned.outside files world.env.source world.env.openDocuments, { h.orderly with }⟩
  | source source =>
    exact ⟨h.owned.outside world.env.files source world.env.openDocuments, { h.orderly with }⟩
  | documents docs =>
    exact ⟨h.owned.outside world.env.files world.env.source docs, { h.orderly with }⟩
  | report uri version diagnostics =>
    have edits : Environment.Edits (.changing fun release => ∃ id, release = .diagnostics id)
        world.env (world.env.publishDiagnostics uri version diagnostics) :=
      Environment.publishDiagnostics_edits _ _ _ _ fun id => .inl ⟨id, rfl⟩
    refine h.edits edits (fun _ taken => taken) (fun _ no => no) fun session names => ?_
    rcases names with ⟨id, no⟩ | ⟨kind, no⟩ <;> cases no
  | listen kind number =>
    have edits := @Environment.subscribe_edits (.listener (.outside number)) world.env kind _ rfl
    refine ⟨h.owned.evolve edits (fun _ taken => taken) fun session names => ?_,
      h.orderly.calm (calm_subscribe world kind number)⟩
    rcases names with no | ⟨kind, no⟩ <;> cases no
  | unlisten number =>
    simp only [surround]
    split
    · have edits : Environment.Edits (.changing (· = .subscription number)) world.env
          { world.env with bus := world.env.bus.unsubscribe number } :=
        .single (.unsubscribe (.inl rfl))
      refine h.edits edits (fun _ taken => taken) (fun _ no => no) fun session names => ?_
      rcases names with no | ⟨kind, no⟩ <;> cases no
    · exact h
  | answer call result => exact h.alike rfl rfl rfl
  | deactivate name => exact h.deactivate name
  | drop name => exact h.drop name
  | disposeSession name =>
    simp only [surround]
    cases found : world.live? name with
    | none => exact h
    | some id =>
      exact h.session (h.within (h.live_lt found)).session
        (Environment.disposeSession_edits _ (.inl rfl))
  | route name change =>
    simp only [surround]
    cases found : world.live? name with
    | none => exact h
    | some id => exact h.works (h.live_lt found) (works_routeNow h.tidy id change)

/-! ## Every world that can be reached -/

theorem initial (outset : Outset) : Sound outset.work.state [] where
  owned :=
    { tidy := ⟨nofun, nofun⟩
      unborn := fun _ _ => ⟨rfl, rfl⟩
      within := by simp [Outset.work, Work.idle, World.initial, cores]
      newborn_within := by simp
      sessions := List.nodup_nil
      collections := List.nodup_nil
      gates := List.nodup_nil
      names := by simp [Outset.work, Work.idle, World.initial, cores]
      session_handle := by simp [Outset.work, Work.idle, World.initial, cores]
      gate_handle := by simp [Outset.work, Work.idle, World.initial, cores] }
  orderly :=
    { audience := fun _ => List.nodup_nil
      audience_lt := fun _ _ hid => absurd hid List.not_mem_nil
      ids := by simp
      ids_lt := by simp
      replays := List.nodup_nil
      replaying := by simp
      working := by simp
      live := fun _ he => absurd he List.not_mem_nil
      live_nodup := List.nodup_nil }

/-- Requests, steps and moves keep a world sound. -/
theorem tells : Tells fun world calls _ => Sound world calls where
  tidy := tidy
  perm hp h := h.perm hp
  accept h accepted := h.accepts accepted
  hop h step := h.hop step
  cancel h := h.cancels
  surround move h := h.surrounds move

end Sound

end EngineSync.World
