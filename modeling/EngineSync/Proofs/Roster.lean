import Mathlib.Data.List.Nodup
import EngineSync.Proofs.Ownership
import EngineSync.Proofs.WorldRun

/-!
# Who is at what

Which activations a call is at or comes to, and in which state their barriers then are.  An
activation in the middle of its replay has one call that replays, nothing works for it and it is not
live; an activation that works or is live has its barrier open; and no publication comes to the same
activation twice.
-/
namespace EngineSync

/-- The activation that listens. -/
def Listener.activation? : Listener → Option ActivationId
  | .activation id => some id
  | .outside _ => none

/-- The activation whose listener was called. -/
def ListenerCall.activation? : ListenerCall → Option ActivationId
  | .activation id _ => some id
  | .outside _ => none

/-- The activation for which a listener works past the barrier. -/
def ListenerCall.worksFor? : ListenerCall → Option ActivationId
  | .activation id (.forwarding _) | .activation id (.routing _) => some id
  | _ => none

/-- The activations that some subscriptions belong to, in order. -/
def audience (subs : List (Subscription Listener)) : List ActivationId :=
  subs.filterMap (·.listener.activation?)

namespace Call

/-- The activations that a call is at or comes to. -/
def ids : Call → List ActivationId
  | .activate _ (.replaying id _ _) => [id]
  | .activate _ _ => []
  | .publish (.arriving _) => []
  | .publish (.delivering ⟨_, current, waiting⟩) =>
    (current.bind ListenerCall.activation?).toList ++ audience waiting
  | .sync id _ => [id]

/-- The activation whose open documents a call replays. -/
def replaying? : Call → Option ActivationId
  | .activate _ (.replaying id _ _) => some id
  | _ => none

/-- The activation for which a call works past the barrier. -/
def worksFor? : Call → Option ActivationId
  | .publish (.delivering delivery) => delivery.current.bind ListenerCall.worksFor?
  | .sync id _ => some id
  | _ => none

/-- The session that a call has created for an activation that is still to come. -/
def newborn? : Call → Option (CollectionId × SessionId)
  | .activate _ (.configuring collection session _ _) => some (collection, session)
  | _ => none

theorem of_replaying {call : Call} {id : ActivationId} (h : call.replaying? = some id) :
    ∃ name settings replay, call = .activate name (.replaying id settings replay) := by
  cases call with
  | activate name stage =>
    cases stage with
    | arriving => cases h
    | configuring => cases h
    | replaying id' settings replay =>
      cases h
      exact ⟨name, settings, replay, rfl⟩
  | publish => cases h
  | sync => cases h

end Call

namespace World

/-- Calls, barriers and live activations fit each other. -/
structure Orderly (world : World) (calls : List Call) : Prop where
  audience : ∀ kind, (audience (world.env.bus.subscribers kind)).Nodup
  audience_lt : ∀ kind, ∀ id ∈ EngineSync.audience (world.env.bus.subscribers kind),
    id < world.activations.length
  ids : ∀ call ∈ calls, call.ids.Nodup
  ids_lt : ∀ call ∈ calls, ∀ id ∈ call.ids, id < world.activations.length
  replays : (calls.filterMap Call.replaying?).Nodup
  replaying : ∀ id ∈ calls.filterMap Call.replaying?,
    (world.activation id).barrier = .replaying ∧ (world.activation id).owner.held ≠ []
  working : ∀ id ∈ calls.filterMap Call.worksFor?, (world.activation id).barrier = .open
  live : ∀ entry ∈ world.live,
    (world.activation entry.2).barrier = .open ∧ (world.activation entry.2).owner.held ≠ []
  live_nodup : (world.live.map (·.2)).Nodup

/-- Nothing changes for the roster: no activation subscribes, and barriers, owners and live
activations are as they were. -/
structure Calm (world world' : World) : Prop where
  audience : ∀ kind, (audience (world'.env.bus.subscribers kind)).Sublist
    (EngineSync.audience (world.env.bus.subscribers kind))
  length : world'.activations.length = world.activations.length
  barrier : ∀ id, (world'.activation id).barrier = (world.activation id).barrier
  owner : ∀ id, (world'.activation id).owner = (world.activation id).owner
  live : world'.live = world.live

variable {world world' : World} {call : Call} {calls rest : List Call} {id : ActivationId}

theorem activation_setActivation (world : World) (id id' : ActivationId)
    (activation : Activation) : (world.setActivation id activation).activation id' =
      if id' = id ∧ id < world.activations.length then activation else world.activation id' := by
  unfold World.activation setActivation
  by_cases same : id' = id
  · subst same
    by_cases lt : id' < world.activations.length
    · simp [lt]
    · simp [lt]
  · simp [same, List.getElem?_set_ne (Ne.symm same)]

/-- An activation past its barrier is there. -/
theorem lt_of_open (released : (world.activation id).barrier = .open) :
    id < world.activations.length := by
  by_cases lt : id < world.activations.length
  · exact lt
  · rw [World.activation, List.getElem?_eq_none (Nat.le_of_not_lt lt)] at released
    cases released

theorem audience_sublist {subs subs' : List (Subscription Listener)} (h : subs'.Sublist subs)
    (kind : EventKind) :
    (EngineSync.audience (subs'.filter (·.kind = kind))).Sublist
      (EngineSync.audience (subs.filter (·.kind = kind))) :=
  (h.filter _).filterMap _

/-! ## Calm steps -/

theorem calm_edits {scope : Scope} {env : Environment}
    (edits : Environment.Edits scope world.env env)
    (nobody : ∀ listener, ¬scope.listens listener) : Calm world { world with env } :=
  ⟨audience_sublist (Environment.Edits.leave edits nobody), rfl, fun _ => rfl, fun _ => rfl, rfl⟩

/-- Somebody else may subscribe. -/
theorem calm_subscribe (world : World) (kind : EventKind) (number : Nat) :
    Calm world { world with env := (world.env.subscribe kind (.outside number)).1 } := by
  refine ⟨fun kind' => ?_, rfl, fun _ => rfl, fun _ => rfl, rfl⟩
  show (EngineSync.audience (List.filter _ (world.env.bus.subscriptions ++ [_]))).Sublist _
  by_cases same : kind = kind' <;>
    simp [EngineSync.audience, EventBus.subscribers, same, Listener.activation?]

theorem Works.calm (h : Works id world world') : Calm world world' := by
  obtain ⟨lanes, activations⟩ := h.activations
  have same (id' : ActivationId) : world'.activation id' =
      if id' = id ∧ id < world.activations.length then { world.activation id with lanes }
      else world.activation id' := by
    rw [← activation_setActivation]
    unfold World.activation setActivation
    rw [activations]
    rfl
  refine ⟨audience_sublist (Environment.Edits.leave h.edits fun _ no => no),
    by simp [activations], ?_, ?_, h.live⟩
  · intro id'
    rw [same]
    split
    · rename_i here
      rw [here.1]
    · rfl
  · intro id'
    rw [same]
    split
    · rename_i here
      rw [here.1]
    · rfl

theorem Orderly.calm (h : Orderly world calls) (calm : Calm world world') :
    Orderly world' calls where
  audience kind := (h.audience kind).sublist (calm.audience kind)
  audience_lt kind id hid := by
    rw [calm.length]
    exact h.audience_lt kind id ((calm.audience kind).subset hid)
  ids := h.ids
  ids_lt call hc id hid := by
    rw [calm.length]
    exact h.ids_lt call hc id hid
  replays := h.replays
  replaying id hid := by
    rw [calm.barrier, calm.owner]
    exact h.replaying id hid
  working id hid := by
    rw [calm.barrier]
    exact h.working id hid
  live entry he := by
    rw [calm.barrier, calm.owner]
    exact h.live entry (calm.live ▸ he)
  live_nodup := by
    rw [calm.live]
    exact h.live_nodup

/-! ## A call goes on -/

theorem Orderly.perm {calls' : List Call} (h : Orderly world calls) (hp : calls.Perm calls') :
    Orderly world calls' where
  audience := h.audience
  audience_lt := h.audience_lt
  ids call hc := h.ids call (hp.mem_iff.mpr hc)
  ids_lt call hc := h.ids_lt call (hp.mem_iff.mpr hc)
  replays := (hp.filterMap _).nodup_iff.mp h.replays
  replaying id hid := h.replaying id ((hp.filterMap _).mem_iff.mpr hid)
  working id hid := h.working id ((hp.filterMap _).mem_iff.mpr hid)
  live := h.live
  live_nodup := h.live_nodup

/-- A call becomes another one, or none. -/
theorem Orderly.follow (h : Orderly world (call :: calls))
    (ids : ∀ next ∈ rest, next.ids.Nodup ∧ ∀ id ∈ next.ids, id < world.activations.length)
    (replays : (rest.filterMap Call.replaying?).Sublist ([call].filterMap Call.replaying?))
    (works : ∀ id ∈ rest.filterMap Call.worksFor?, (world.activation id).barrier = .open) :
    Orderly world (rest ++ calls) := by
  have fewer : ((rest ++ calls).filterMap Call.replaying?).Sublist
      ((call :: calls).filterMap Call.replaying?) := by
    rw [List.filterMap_append, ← List.singleton_append, List.filterMap_append]
    exact replays.append_right _
  refine { h with
    ids := fun next hn => ?_
    ids_lt := fun next hn id hid => ?_
    replays := h.replays.sublist fewer
    replaying := fun id hid => h.replaying id (fewer.subset hid)
    working := fun id hid => ?_ }
  · rcases List.mem_append.mp hn with new | old
    · exact (ids next new).1
    · exact h.ids next (List.mem_cons_of_mem _ old)
  · rcases List.mem_append.mp hn with new | old
    · exact (ids next new).2 id hid
    · exact h.ids_lt next (List.mem_cons_of_mem _ old) id hid
  · rw [List.filterMap_append] at hid
    rcases List.mem_append.mp hid with new | old
    · exact works id new
    · obtain ⟨next, hn, he⟩ := List.mem_filterMap.mp old
      exact h.working id (List.mem_filterMap.mpr ⟨next, List.mem_cons_of_mem _ hn, he⟩)

/-- A call that is at fewer activations than before. -/
theorem Orderly.fewer (h : Orderly world (call :: calls)) {ids : List ActivationId}
    (fewer : ids.Sublist call.ids) : ids.Nodup ∧ ∀ id ∈ ids, id < world.activations.length :=
  ⟨(h.ids call List.mem_cons_self).sublist fewer,
    fun id hid => h.ids_lt call List.mem_cons_self id (fewer.subset hid)⟩

theorem Orderly.ended (h : Orderly world (call :: calls)) : Orderly world calls :=
  @follow world call calls [] h (by simp) (List.nil_sublist _) (by simp)

/-! ## An activation changes -/

/-- An activation is replaced: its barrier and what it holds may change if that fits the calls and
the live ones. -/
theorem Orderly.replace (h : Orderly world calls) {env : Environment}
    {live : List (String × ActivationId)} {activation : Activation}
    (leave : env.bus.subscriptions.Sublist world.env.bus.subscriptions)
    (fewer : live.Sublist world.live) (replays : id ∉ calls.filterMap Call.replaying?)
    (works : id ∈ calls.filterMap Call.worksFor? → activation.barrier = .open)
    (lives : id ∈ live.map (·.2) → activation.barrier = .open ∧ activation.owner.held ≠ []) :
    Orderly { world with env, live, activations := world.activations.set id activation } calls := by
  have other {id' : ActivationId} (ne : id' ≠ id) :
      World.activation { world with env, live, activations := world.activations.set id activation }
        id' = world.activation id' := by
    refine (activation_setActivation world id id' activation).trans ?_
    simp [ne]
  have own (lt : id < world.activations.length) :
      World.activation { world with env, live, activations := world.activations.set id activation }
        id = activation := by
    refine (activation_setActivation world id id activation).trans ?_
    simp [lt]
  refine {
    audience := fun kind => (h.audience kind).sublist (audience_sublist leave kind)
    audience_lt := fun kind id' hid => ?_
    ids := h.ids
    ids_lt := fun call hc id' hid => ?_
    replays := h.replays
    replaying := fun id' hid => ?_
    working := fun id' hid => ?_
    live := fun entry he => ?_
    live_nodup := h.live_nodup.sublist (fewer.map _) }
  · rw [List.length_set]
    exact h.audience_lt kind id' ((audience_sublist leave kind).subset hid)
  · rw [List.length_set]
    exact h.ids_lt call hc id' hid
  · rw [other fun same => replays (same ▸ hid)]
    exact h.replaying id' hid
  · by_cases same : id' = id
    · subst same
      rw [own (lt_of_open (h.working id' hid))]
      exact works hid
    · rw [other same]
      exact h.working id' hid
  · by_cases same : entry.2 = id
    · rw [same, own (same ▸ lt_of_open (h.live entry (fewer.subset he)).1)]
      exact lives (same ▸ List.mem_map_of_mem he)
    · rw [other same]
      exact h.live entry (fewer.subset he)

/-- A name that is live no more leaves the others as they are. -/
theorem Orderly.not_live_without (h : Orderly world calls) {name : String}
    (found : world.live? name = some id) :
    id ∉ (world.live.filter (·.1 ≠ name)).map (·.2) := by
  have mem : (name, id) ∈ world.live := by
    obtain ⟨before, after, split, -⟩ := List.lookup_eq_some_iff.mp found
    rw [split]
    simp
  intro still
  obtain ⟨entry, he, same⟩ := List.mem_map.mp still
  obtain ⟨he, ne⟩ := List.mem_filter.mp he
  have eq : entry = (name, id) := List.inj_on_of_nodup_map h.live_nodup he mem same
  simp [eq] at ne

/-- A live activation is added. -/
theorem Orderly.addLive (h : Orderly world calls) (name : String)
    (released : (world.activation id).barrier = .open)
    (holds : (world.activation id).owner.held ≠ []) (new : id ∉ world.live.map (·.2)) :
    Orderly { world with live := world.live ++ [(name, id)] } calls where
  audience := h.audience
  audience_lt := h.audience_lt
  ids := h.ids
  ids_lt := h.ids_lt
  replays := h.replays
  replaying := h.replaying
  working := h.working
  live entry he := by
    rcases List.mem_append.mp he with old | new
    · exact h.live entry old
    · rw [List.mem_singleton.mp new]
      exact ⟨released, holds⟩
  live_nodup := by
    rw [List.map_append]
    exact (List.perm_append_singleton _ _).nodup_iff.mpr (List.nodup_cons.mpr ⟨new, h.live_nodup⟩)

/-! ## A newcomer -/

/-- A newcomer subscribes to each kind of event once. -/
theorem audience_row (id : ActivationId) (number : SubscriptionId) (kind : EventKind) :
    audience ((Subscription.row (.activation id) number EventKind.all).filter (·.kind = kind)) =
      [id] := by
  cases kind <;> simp [Subscription.row, EventKind.all, audience, Listener.activation?]

/-- Nobody else is replaced by a newcomer. -/
theorem activation_welcome (world : World) (collection : CollectionId) (session : SessionId)
    (settings : Settings) (id : ActivationId) :
    (world.welcome collection session settings).activation id =
      if id = world.activations.length then
        (Activation.install world.env world.language world.activations.length session collection
          settings.formatting).2
      else world.activation id := by
  unfold World.activation welcome
  dsimp only
  by_cases lt : id < world.activations.length
  · rw [List.getElem?_append_left lt, if_neg (Nat.ne_of_lt lt)]
  · by_cases same : id = world.activations.length
    · simp [same]
    · have above : world.activations.length < id :=
        Nat.lt_of_le_of_ne (Nat.le_of_not_lt lt) (Ne.symm same)
      rw [if_neg same, List.getElem?_eq_none (Nat.le_of_not_lt lt), List.getElem?_eq_none]
      rw [List.length_append, List.length_singleton]
      exact above

theorem install_held (env : Environment) (language : String) (session : SessionId)
    (collection : CollectionId) (formatting : Bool) :
    (Activation.install env language id session collection formatting).2.owner.held ≠ [] := by
  rw [Activation.install_owner]
  exact List.cons_ne_nil _ _

theorem Orderly.welcome {name : String} {collection : CollectionId} {session : SessionId}
    {settings : Settings} {ticket : TicketId} (tidy : world.env.Tidy)
    (h : Orderly world
      (.activate name (.configuring collection session settings ticket) :: calls))
    (docs : List Document) :
    Orderly (world.welcome collection session settings)
      (.activate name (.replaying world.activations.length settings (.start docs)) :: calls) := by
  have rest := h.ended
  have length : (world.welcome collection session settings).activations.length =
      world.activations.length + 1 := by
    simp [World.welcome]
  have same {id : ActivationId} (lt : id < world.activations.length) :
      (world.welcome collection session settings).activation id = world.activation id := by
    rw [activation_welcome, if_neg (Nat.ne_of_lt lt)]
  have own := activation_welcome world collection session settings world.activations.length
  rw [if_pos rfl] at own
  have heard (kind : EventKind) :
      EngineSync.audience ((world.welcome collection session settings).env.bus.subscribers kind) =
        EngineSync.audience (world.env.bus.subscribers kind) ++ [world.activations.length] := by
    have subs := Activation.install_subscriptions world.language world.activations.length session
      collection settings.formatting tidy
    unfold EventBus.subscribers
    rw [← audience_row world.activations.length world.env.bus.nextId kind]
    show EngineSync.audience (List.filter _ (Activation.install world.env world.language
      world.activations.length session collection settings.formatting).1.bus.subscriptions) = _
    rw [subs]
    simp [EngineSync.audience]
  have replayed_lt {id : ActivationId} (hid : id ∈ calls.filterMap Call.replaying?) :
      id < world.activations.length := by
    obtain ⟨call, hc, he⟩ := List.mem_filterMap.mp hid
    obtain ⟨name, settings, replay, rfl⟩ := Call.of_replaying he
    exact rest.ids_lt _ hc id List.mem_cons_self
  refine {
    audience := fun kind => ?_
    audience_lt := fun kind id hid => ?_
    ids := fun call hc => ?_
    ids_lt := fun call hc id hid => ?_
    replays := ?_
    replaying := fun id hid => ?_
    working := fun id hid => ?_
    live := fun entry he => ?_
    live_nodup := rest.live_nodup }
  · rw [heard]
    refine (List.perm_append_singleton _ _).nodup_iff.mpr (List.nodup_cons.mpr ⟨?_, h.audience kind⟩)
    exact fun old => absurd (h.audience_lt kind _ old) (Nat.lt_irrefl _)
  · rw [heard] at hid
    rw [length]
    rcases List.mem_append.mp hid with old | new
    · exact Nat.lt_succ_of_lt (h.audience_lt kind id old)
    · rw [List.mem_singleton.mp new]
      exact Nat.lt_succ_self _
  · rcases List.mem_cons.mp hc with rfl | old
    · exact List.nodup_singleton _
    · exact rest.ids call old
  · rw [length]
    rcases List.mem_cons.mp hc with rfl | old
    · rw [List.mem_singleton.mp hid]
      exact Nat.lt_succ_self _
    · exact Nat.lt_succ_of_lt (rest.ids_lt call old id hid)
  · exact List.nodup_cons.mpr ⟨fun old => absurd (replayed_lt old) (Nat.lt_irrefl _), rest.replays⟩
  · rcases List.mem_cons.mp hid with rfl | old
    · rw [own]
      exact ⟨rfl, install_held _ _ _ _ _⟩
    · rw [same (replayed_lt old)]
      exact rest.replaying id old
  · rw [same (lt_of_open (rest.working id hid))]
    exact rest.working id hid
  · rw [same (lt_of_open (rest.live entry he).1)]
    exact rest.live entry he

end World
end EngineSync
