import Mathlib.Data.List.Count
import Mathlib.Data.List.Perm.Basic
import EngineSync.Proofs.Holdings
import EngineSync.Proofs.Ownership

/-!
# Taking stock

Everything that is registered belongs to somebody: a handle to one activation or to its gate, a
listener to one activation or to somebody outside, and a live provider to one activation unless it
was there from the start.  `Stock` says so of the whole environment, as an equation of multisets for
the providers.  It survives whatever leaves registrations alone (`Stock.shelf`), and a change of
what belongs to one activation as far as that one squares its own account (`Stock.change`): setting
its gate and tearing it down do, and a newcomer brings its own.
-/
namespace EngineSync

namespace Ledger

theorem live_registerAll (ledger : Ledger) (language : String) (kinds : List ProviderKind) :
    (ledger.registerAll language kinds).live = ledger.live ++ kinds := by
  unfold registerAll live
  rw [List.foldl_append]
  generalize ledger.changes.foldl applyChange [] = before
  induction kinds generalizing before with
  | nil => simp
  | cons kind kinds ih => simp [applyChange, ih]

theorem live_unregisterAll (ledger : Ledger) (kinds : List ProviderKind) :
    (ledger.unregisterAll kinds).live = ledger.live.diff kinds := by
  unfold unregisterAll live
  rw [List.foldl_append, List.foldl_map, List.diff_eq_foldl]
  rfl

/-- Providers that are live end, in any order, and the others stay. -/
theorem live_unregisterAll_perm {ledger : Ledger} {kinds kinds' rest : List ProviderKind}
    (live : ledger.live.Perm (kinds ++ rest)) (same : kinds'.Perm kinds) :
    (ledger.unregisterAll kinds').live.Perm rest := by
  rw [live_unregisterAll]
  refine List.perm_iff_count.mpr fun kind => ?_
  have all := List.perm_iff_count.mp live kind
  rw [List.count_append] at all
  rw [List.count_diff, List.perm_iff_count.mp same kind, all]
  omega

end Ledger

/-- Handles that have certain releases go on to have them if no release is lost. -/
theorem Handles.map_release?_mono {table table' : Handles Release} {ids : List HandleId}
    {releases : List Release}
    (kept : ∀ id ∈ ids, ∀ release, table.release? id = some release →
      table'.release? id = some release)
    (pending : ids.map table.release? = releases.map some) :
    ids.map table'.release? = releases.map some := by
  rw [← pending]
  refine List.map_congr_left fun id hid => ?_
  obtain ⟨release, -, found⟩ : ∃ release ∈ releases, some release = table.release? id := by
    have mem : table.release? id ∈ releases.map some := pending ▸ List.mem_map_of_mem hid
    exact List.mem_map.mp mem
  rw [← found]
  exact kept id hid release found.symm

namespace Environment

/-- The subscriptions of an activation, in order. -/
def subscriptionsOf (env : Environment) (id : ActivationId) : List (Subscription Listener) :=
  env.bus.subscriptions.filter (·.listener = .activation id)

/-- Everything that is registered belongs to an activation, or to somebody outside; some providers
may have been live from the start. -/
structure Stock (base : List ProviderKind) (env : Environment) (cores : List Activation) :
    Prop where
  held : ∀ (id : ActivationId) core, cores[id]? = some core → core.owner.held ≠ [] → ∃ first,
    core.owner.held.map env.handles.release? = (core.duties first).map some ∧
      env.subscriptionsOf id = Subscription.row (.activation id) first EventKind.all
  gone : ∀ id : ActivationId, (∀ core, cores[id]? = some core → core.owner.held = []) →
    env.subscriptionsOf id = []
  gate : ∀ core ∈ cores, ∀ ids ∈ (env.gate core.gate).active,
    ids.map env.handles.release? = (ProviderKind.formatting.map Release.provider).map some
  nodup : (cores.flatMap env.stock).Nodup
  live : env.ledger.live.Perm (base ++ cores.flatMap env.providersOf)

/-- What is registered is as it was, except that somebody else may have come or gone. -/
structure Shelf (env env' : Environment) : Prop where
  handles : ∀ handle release, env.handles.release? handle = some release →
    env'.handles.release? handle = some release
  gates : env'.gates = env.gates
  subscriptions : ∀ id, env'.subscriptionsOf id = env.subscriptionsOf id
  ledger : env'.ledger = env.ledger

namespace Shelf
variable {env env' env'' : Environment}

theorem of_eq (handles : env'.handles = env.handles) (gates : env'.gates = env.gates)
    (bus : env'.bus = env.bus) (ledger : env'.ledger = env.ledger) : Shelf env env' where
  handles handle release found := by rw [handles]; exact found
  gates := gates
  subscriptions id := by simp only [subscriptionsOf, bus]
  ledger := ledger

theorem refl (env : Environment) : Shelf env env :=
  of_eq rfl rfl rfl rfl

theorem trans (h : Shelf env env') (h' : Shelf env' env'') : Shelf env env'' where
  handles handle release found := h'.handles handle release (h.handles handle release found)
  gates := h'.gates.trans h.gates
  subscriptions id := (h'.subscriptions id).trans (h.subscriptions id)
  ledger := h'.ledger.trans h.ledger

theorem gate (h : Shelf env env') (id : GateId) : env'.gate id = env.gate id :=
  gate_of_gates h.gates id

end Shelf

namespace Stock
variable {base : List ProviderKind} {env env' : Environment} {cores : List Activation}
  {core core' : Activation} {id id' : ActivationId}

/-! ## What is known of one activation -/

/-- An activation that holds anything is stocked. -/
theorem stocked (h : env.Stock base cores) (own : cores[id]? = some core)
    (holds : core.owner.held ≠ []) : ∃ first, env.Stocked core first ∧
      env.subscriptionsOf id = Subscription.row (.activation id) first EventKind.all := by
  obtain ⟨first, held, row⟩ := h.held id core own holds
  have mem := List.mem_of_getElem? own
  exact ⟨first, ⟨held, h.gate core mem, (List.nodup_flatMap.mp h.nodup).1 core mem⟩, row⟩

/-- Every handle in stock has a release. -/
theorem pending (h : env.Stock base cores) (own : cores[id]? = some core) {handle : HandleId}
    (mem : handle ∈ env.stock core) : ∃ release, env.handles.release? handle = some release := by
  have found {ids : List HandleId} {releases : List Release} (hid : handle ∈ ids)
      (pending : ids.map env.handles.release? = releases.map some) :
      ∃ release, env.handles.release? handle = some release := by
    have mem : env.handles.release? handle ∈ releases.map some :=
      pending ▸ List.mem_map_of_mem hid
    obtain ⟨release, -, same⟩ := List.mem_map.mp mem
    exact ⟨release, same.symm⟩
  rcases List.mem_append.mp mem with held | gate
  · obtain ⟨first, pending, -⟩ := h.held id core own (List.ne_nil_of_mem held)
    exact found held pending
  · cases active : (env.gate core.gate).active with
    | none => simp [FeatureGate.held, active] at gate
    | some ids =>
      refine found ?_ (h.gate core (List.mem_of_getElem? own) ids active)
      simpa [FeatureGate.held, active] using gate

theorem lt (h : env.Stock base cores) (own : cores[id]? = some core) {handle : HandleId}
    (mem : handle ∈ env.stock core) : handle < env.handles.all.length := by
  obtain ⟨release, found⟩ := h.pending own mem
  exact Handles.lt_of_release? found

/-! ## One activation and the others -/

/-- What all activations have is what one of them has, and what the others have. -/
theorem flatMap_own {α : Type} (f : Activation → List α) (own : cores[id]? = some core) :
    (cores.flatMap f).Perm (f core ++ (cores.eraseIdx id).flatMap f) := by
  obtain ⟨lt, rfl⟩ := List.getElem?_eq_some_iff.mp own
  exact (List.getElem_cons_eraseIdx_perm lt).symm.flatMap_right f

theorem flatMap_set {α : Type} (f : Activation → List α) (own : cores[id]? = some core)
    (core' : Activation) :
    ((cores.set id core').flatMap f).Perm (f core' ++ (cores.eraseIdx id).flatMap f) :=
  (List.set_perm_cons_eraseIdx (List.getElem?_eq_some_iff.mp own).1 core').flatMap_right f

/-- No handle belongs to two activations. -/
theorem apart (h : env.Stock base cores) (own : cores[id]? = some core)
    (other : cores[id']? = some core') (ne : id' ≠ id) {handle : HandleId}
    (mem : handle ∈ env.stock core') : handle ∉ env.stock core := by
  have nodup := (flatMap_own env.stock own).nodup_iff.mp h.nodup
  have there : core' ∈ cores.eraseIdx id := List.mem_eraseIdx_iff_getElem?.mpr ⟨id', ne, other⟩
  intro both
  exact (List.nodup_append'.mp nodup).2.2 both (List.mem_flatMap.mpr ⟨core', there, mem⟩)

/-- The providers of the others. -/
def others (env : Environment) (cores : List Activation) (id : ActivationId) : List ProviderKind :=
  (cores.eraseIdx id).flatMap env.providersOf

theorem live_own (h : env.Stock base cores) (own : cores[id]? = some core) :
    env.ledger.live.Perm (env.providersOf core ++ (base ++ others env cores id)) := by
  refine h.live.trans (((flatMap_own env.providersOf own).append_left base).trans ?_)
  exact List.perm_append_comm_assoc _ _ _

/-! ## What is left alone -/

theorem stock_gate (same : env'.gate core.gate = env.gate core.gate) :
    env'.stock core = env.stock core := by
  unfold stock
  rw [same]

theorem providersOf_gate (same : env'.gate core.gate = env.gate core.gate) :
    env'.providersOf core = env.providersOf core := by
  unfold providersOf
  rw [same]

/-- Whatever leaves registrations alone leaves the accounts alone. -/
theorem shelf (h : env.Stock base cores) (same : Shelf env env') : env'.Stock base cores := by
  have stocks : cores.flatMap env'.stock = cores.flatMap env.stock :=
    List.flatMap_congr fun core _ => stock_gate (same.gate core.gate)
  have providers : cores.flatMap env'.providersOf = cores.flatMap env.providersOf :=
    List.flatMap_congr fun core _ => providersOf_gate (same.gate core.gate)
  refine ⟨fun id core own holds => ?_, fun id gone => ?_, fun core mem ids active => ?_, ?_, ?_⟩
  · obtain ⟨first, held, row⟩ := h.held id core own holds
    exact ⟨first, Handles.map_release?_mono (fun handle _ => same.handles handle) held,
      (same.subscriptions id).trans row⟩
  · exact (same.subscriptions id).trans (h.gone id gone)
  · rw [same.gate] at active
    exact Handles.map_release?_mono (fun handle _ => same.handles handle) (h.gate core mem ids active)
  · rw [stocks]
    exact h.nodup
  · rw [providers, same.ledger]
    exact h.live

/-- What belongs to one activation changes; the others have gates of their own. -/
structure Change (env env' : Environment) (cores : List Activation) (id : ActivationId)
    (core core' : Activation) : Prop where
  releases : ∀ handle release, handle ∉ env.stock core → env.handles.release? handle = some release →
    env'.handles.release? handle = some release
  gates : ∀ gate, gate ≠ core.gate → env'.gate gate = env.gate gate
  subscriptions : ∀ other, other ≠ id → env'.subscriptionsOf other = env.subscriptionsOf other
  same_gate : core'.gate = core.gate
  held : core'.owner.held ≠ [] → ∃ first,
    core'.owner.held.map env'.handles.release? = (core'.duties first).map some ∧
      env'.subscriptionsOf id = Subscription.row (.activation id) first EventKind.all
  gone : core'.owner.held = [] → env'.subscriptionsOf id = []
  gate : ∀ ids ∈ (env'.gate core'.gate).active,
    ids.map env'.handles.release? = (ProviderKind.formatting.map Release.provider).map some
  nodup : (env'.stock core').Nodup
  fresh : ∀ handle ∈ env'.stock core', handle ∈ env.stock core ∨ env.handles.all.length ≤ handle
  live : ∀ rest, env.ledger.live.Perm (env.providersOf core ++ rest) →
    env'.ledger.live.Perm (env'.providersOf core' ++ rest)

/-- **One activation squares its own account**, and those of the others are as they were. -/
theorem change (h : env.Stock base cores) (apart_gates : (cores.map (·.gate)).Nodup)
    (own : cores[id]? = some core) (changes : Change env env' cores id core core') :
    env'.Stock base (cores.set id core') := by
  have lt := (List.getElem?_eq_some_iff.mp own).1
  have gate_ne {other : Activation} {id' : ActivationId} (found : cores[id']? = some other)
      (ne : id' ≠ id) : other.gate ≠ core.gate := Owned.ne_of_nodup apart_gates found own ne
  have others_mem {other : Activation} (mem : other ∈ cores.eraseIdx id) :
      ∃ id', id' ≠ id ∧ cores[id']? = some other := List.mem_eraseIdx_iff_getElem?.mp mem
  have stocks : (cores.eraseIdx id).flatMap env'.stock = (cores.eraseIdx id).flatMap env.stock :=
    List.flatMap_congr fun other mem => by
      obtain ⟨id', ne, found⟩ := others_mem mem
      exact stock_gate (changes.gates _ (gate_ne found ne))
  have providers : (cores.eraseIdx id).flatMap env'.providersOf =
      (cores.eraseIdx id).flatMap env.providersOf :=
    List.flatMap_congr fun other mem => by
      obtain ⟨id', ne, found⟩ := others_mem mem
      exact providersOf_gate (changes.gates _ (gate_ne found ne))
  -- the handles of the others keep their releases
  have kept {id' : ActivationId} {other : Activation} (found : cores[id']? = some other)
      (ne : id' ≠ id) {handle : HandleId} (mem : handle ∈ env.stock other) (release : Release)
      (pending : env.handles.release? handle = some release) :
      env'.handles.release? handle = some release :=
    changes.releases handle release (h.apart own found ne mem) pending
  have at_place {id' : ActivationId} {other : Activation}
      (found : (cores.set id core')[id']? = some other) :
      id' = id ∧ other = core' ∨ id' ≠ id ∧ cores[id']? = some other := by
    by_cases here : id' = id
    · subst here
      rw [List.getElem?_set_self lt] at found
      exact .inl ⟨rfl, (Option.some.inj found).symm⟩
    · rw [List.getElem?_set_ne (Ne.symm here)] at found
      exact .inr ⟨here, found⟩
  refine ⟨fun id' other found holds => ?_, fun id' gone => ?_, fun other mem ids active => ?_, ?_,
    ?_⟩
  · rcases at_place found with ⟨rfl, rfl⟩ | ⟨ne, found⟩
    · exact changes.held holds
    · obtain ⟨first, held, row⟩ := h.held id' other found holds
      refine ⟨first, Handles.map_release?_mono (fun handle mem => ?_) held,
        (changes.subscriptions id' ne).trans row⟩
      exact kept found ne (List.mem_append_left _ mem)
  · by_cases here : id' = id
    · subst here
      exact changes.gone (gone core' (List.getElem?_set_self lt))
    · refine (changes.subscriptions id' here).trans (h.gone id' fun other found => gone other ?_)
      rw [List.getElem?_set_ne (Ne.symm here)]
      exact found
  · obtain ⟨id', found⟩ := List.getElem?_of_mem mem
    rcases at_place found with ⟨rfl, rfl⟩ | ⟨ne, found⟩
    · exact changes.gate ids active
    · rw [changes.gates _ (gate_ne found ne)] at active
      refine Handles.map_release?_mono (fun handle mem => ?_)
        (h.gate other (List.mem_of_getElem? found) ids active)
      refine kept found ne (List.mem_append_right _ ?_)
      simpa [FeatureGate.held, Option.mem_def.mp active] using mem
  · refine (flatMap_set env'.stock own core').nodup_iff.mpr ?_
    rw [stocks]
    have before := (List.nodup_append'.mp ((flatMap_own env.stock own).nodup_iff.mp h.nodup)).2
    refine List.nodup_append'.mpr ⟨changes.nodup, before.1, fun handle new old => ?_⟩
    rcases changes.fresh handle new with mine | fresh
    · exact before.2 mine old
    · obtain ⟨other, mem, held⟩ := List.mem_flatMap.mp old
      obtain ⟨id', -, found⟩ := others_mem mem
      exact absurd (h.lt found held) (Nat.not_lt.mpr fresh)
  · have squared := changes.live _ (h.live_own own)
    refine squared.trans (List.Perm.trans ?_
      ((flatMap_set env'.providersOf own core').append_left base).symm)
    rw [providers]
    exact List.perm_append_comm_assoc _ _ _

/-! ## Setting a gate -/

theorem gate_holding {active : Option (List HandleId)} {gate gate' : GateId}
    (set : env'.gates = env.holding gate active) : env'.gate gate' =
      if gate' = gate ∧ gate < env.gates.length then { env.gate gate with active }
      else env.gate gate' :=
  (gate_of_gates set gate').trans (gate_setGate env gate gate' _)

/-- A gate that holds nothing is closed, whether it is there or not. -/
theorem gate_holding_none {gate : GateId} (set : env'.gates = env.holding gate none) :
    (env'.gate gate).active = none := by
  rw [gate_holding set]
  split
  · rfl
  · rename_i out
    have absent : env.gates[gate]? = Option.none := by simpa using out
    simp [Environment.gate, formattingGate, absent]
    rfl

theorem set_own (own : cores[id]? = some core) : cores.set id core = cores := by
  obtain ⟨lt, rfl⟩ := List.getElem?_eq_some_iff.mp own
  exact List.set_getElem_self lt

/-- Only the gate of an activation changes, and what it holds then is new. -/
theorem change_gate (h : env.Stock base cores) (apart_gates : (cores.map (·.gate)).Nodup)
    (own : cores[id]? = some core)
    (releases : ∀ handle release, handle ∉ (env.gate core.gate).held →
      env.handles.release? handle = some release → env'.handles.release? handle = some release)
    (gates : ∀ gate, gate ≠ core.gate → env'.gate gate = env.gate gate)
    (subscriptions : env'.subscriptionsOf = env.subscriptionsOf)
    (gate : ∀ ids ∈ (env'.gate core.gate).active,
      ids.map env'.handles.release? = (ProviderKind.formatting.map Release.provider).map some)
    (nodup : (env'.gate core.gate).held.Nodup)
    (fresh : ∀ handle ∈ (env'.gate core.gate).held, env.handles.all.length ≤ handle)
    (live : ∀ rest, env.ledger.live.Perm (env.providersOf core ++ rest) →
      env'.ledger.live.Perm (env'.providersOf core ++ rest)) : env'.Stock base cores := by
  have own_nodup := List.nodup_append'.mp
    ((List.nodup_flatMap.mp h.nodup).1 core (List.mem_of_getElem? own))
  rw [← set_own own]
  refine h.change apart_gates own {
    releases := fun handle release away => releases handle release fun mine =>
      away (List.mem_append_right _ mine)
    gates
    subscriptions := fun other _ => by rw [subscriptions]
    same_gate := rfl
    held := fun holds => ?_
    gone := fun holds => ?_
    gate
    nodup := List.nodup_append'.mpr ⟨own_nodup.1, nodup, fun handle held made => ?_⟩
    fresh := fun handle mem => ?_
    live }
  · obtain ⟨first, pending, row⟩ := h.held id core own holds
    refine ⟨first, Handles.map_release?_mono (fun handle mine release found => ?_) pending,
      by rw [subscriptions]; exact row⟩
    exact releases handle release (fun both => own_nodup.2.2 mine both) found
  · rw [subscriptions]
    exact h.gone id fun other found => by
      rw [own] at found
      exact Option.some.inj found ▸ holds
  · exact absurd (h.lt own (List.mem_append_left _ held)) (Nat.not_lt.mpr (fresh handle made))
  · rcases List.mem_append.mp mem with held | made
    · exact .inl (List.mem_append_left _ held)
    · exact .inr (fresh handle made)

/-- Opening the gate of an activation adds the formatting providers to its account. -/
theorem enableGate (h : env.Stock base cores) (apart_gates : (cores.map (·.gate)).Nodup)
    (own : cores[id]? = some core) (lt : core.gate < env.gates.length) :
    (env.enableGate core.gate).1.Stock base cores := by
  cases closed : (env.gate core.gate).isEnabled with
  | true =>
    unfold Environment.enableGate
    rw [if_pos closed]
    exact h
  | false =>
    have before : (env.gate core.gate).active = none := by
      simpa [FeatureGate.isEnabled] using closed
    obtain ⟨journal, opens⟩ := enableGate_eq closed
    have next : env.nextPair = [0, 1].map (env.handles.all.length + ·) := by
      simp [nextPair, ProviderKind.formatting, List.range'_succ]
    have gates (gate : GateId) := @gate_holding env (env.enableGate core.gate).1
      (some env.nextPair) core.gate gate (by rw [opens])
    have now : (env.enableGate core.gate).1.gate core.gate =
        { env.gate core.gate with active := some env.nextPair } := by
      rw [gates, if_pos ⟨rfl, lt⟩]
    refine h.change_gate apart_gates own (fun handle release _ pending => ?_)
      (fun gate ne => ?_) (by rw [opens]; rfl) (fun ids active => ?_) ?_ (fun handle mem => ?_)
      fun rest live => ?_
    · rw [opens]
      exact (Handles.release?_extend _ (Handles.lt_of_release? pending)).trans pending
    · rw [gates, if_neg fun here => ne here.1]
    · rw [now] at active
      obtain rfl := Option.some.inj active
      rw [opens, next]
      exact Handles.map_release?_made _ _
    · rw [now]
      exact List.nodup_range'
    · rw [now] at mem
      exact (List.mem_range'_1.mp mem).1
    · have ledger : (env.enableGate core.gate).1.ledger = env.ledger.registerAll
          (env.formattingGate core.gate).language ProviderKind.formatting := by rw [opens]
      have more : (env.enableGate core.gate).1.providersOf core =
          env.providersOf core ++ ProviderKind.formatting := by
        simp [providersOf, now, FeatureGate.isEnabled, before]
      rw [ledger, Ledger.live_registerAll, more, List.append_assoc]
      refine (live.append_right _).trans ?_
      rw [List.append_assoc]
      exact List.perm_append_comm.append_left _

/-- Closing it takes them away again. -/
theorem disableGate (h : env.Stock base cores) (apart_gates : (cores.map (·.gate)).Nodup)
    (own : cores[id]? = some core) : (env.disableGate core.gate).1.Stock base cores := by
  have mem := List.mem_of_getElem? own
  cases active : (env.gate core.gate).active with
  | none =>
    have closed : (env.gate core.gate).isEnabled = false := by simp [FeatureGate.isEnabled, active]
    rw [disableGate_closed_eq closed]
    exact h
  | some ids =>
    have held : (env.gate core.gate).held = ids := by simp [FeatureGate.held, active]
    have nodup : ids.Nodup :=
      held ▸ (List.nodup_append'.mp ((List.nodup_flatMap.mp h.nodup).1 core mem)).2.1
    obtain ⟨journal, closes⟩ := disableGate_eq active nodup (h.gate core mem ids active)
    have set : (env.disableGate core.gate).1.gates = env.holding core.gate none := by
      rw [closes]
      rfl
    have now : ((env.disableGate core.gate).1.gate core.gate).active = none := gate_holding_none set
    have empty : ((env.disableGate core.gate).1.gate core.gate).held = [] := by
      simp [FeatureGate.held, now]
    refine h.change_gate apart_gates own (fun handle release away pending => ?_)
      (fun gate ne => ?_) ?_ (fun ids active => ?_) (by rw [empty]; exact List.nodup_nil)
      (fun handle mem => ?_) fun rest live => ?_
    · rw [closes]
      refine (Handles.release?_retireAll _ _).trans ((if_neg fun retired => away ?_).trans pending)
      exact held ▸ List.mem_reverse.mp retired
    · rw [gate_holding set, if_neg fun here => ne here.1]
    · funext other
      rw [closes]
      simp [subscriptionsOf, shed]
    · rw [now] at active
      cases active
    · rw [empty] at mem
      cases mem
    · have ledger : (env.disableGate core.gate).1.ledger =
          env.ledger.unregisterAll ProviderKind.formatting.reverse := by
        rw [closes]
        rfl
      have fewer : env.providersOf core = (env.disableGate core.gate).1.providersOf core ++
          ProviderKind.formatting := by
        simp [providersOf, now, FeatureGate.isEnabled, active]
      rw [fewer] at live
      rw [ledger]
      refine Ledger.live_unregisterAll_perm (live.trans ?_) (List.reverse_perm _)
      rw [List.append_assoc]
      exact List.perm_append_comm_assoc _ _ _

theorem setEnabled (h : env.Stock base cores) (apart_gates : (cores.map (·.gate)).Nodup)
    (own : cores[id]? = some core) (lt : core.gate < env.gates.length) (enabled : Bool) :
    (env.setEnabled core.gate enabled).1.Stock base cores := by
  cases enabled with
  | true => exact h.enableGate apart_gates own lt
  | false => exact h.disableGate apart_gates own

/-! ## Tearing down -/

theorem mem_row {listener : Listener} {first : SubscriptionId} {kinds : List EventKind}
    {sub : Subscription Listener} (mem : sub ∈ Subscription.row listener first kinds) :
    sub.id ∈ List.range' first kinds.length := by
  induction kinds generalizing first with
  | nil => cases mem
  | cons kind kinds ih =>
    rw [List.length_cons, List.range'_succ]
    rcases List.mem_cons.mp mem with rfl | later
    · exact List.mem_cons_self
    · exact List.mem_cons_of_mem _ (ih later)

/-- The subscriptions that an activation ends are its own, and all of them. -/
theorem leave_row {newborn : List (CollectionId × SessionId)} {first : SubscriptionId}
    (owned : Owned env cores newborn) (own : cores[id]? = some core)
    (stocked : env.Stocked core first)
    (row : env.subscriptionsOf id = Subscription.row (.activation id) first EventKind.all) :
    env.bus.subscriptions.filter (·.id ∉ List.range' first EventKind.all.length) =
      env.bus.subscriptions.filter (·.listener ≠ .activation id) := by
  refine List.filter_congr fun sub hs => decide_eq_decide.mpr (not_congr ⟨fun number => ?_,
    fun listens => ?_⟩)
  · have duty : Release.subscription sub.id ∈ core.duties first :=
      List.mem_append_right _ (List.mem_map_of_mem number)
    obtain ⟨handle, held, found⟩ := stocked.has duty
    obtain ⟨label, pending⟩ := Handles.release?_eq_some.mp found
    exact ((owned.names id core own handle held).2 label _ pending).2 sub hs rfl
  · have mem : sub ∈ env.subscriptionsOf id := List.mem_filter.mpr ⟨hs, decide_eq_true listens⟩
    exact mem_row (row ▸ mem)

/-- An activation that is torn down takes what is its own away. -/
theorem teardown {newborn : List (CollectionId × SessionId)} (h : env.Stock base cores)
    (owned : Owned env cores newborn) (own : cores[id]? = some core)
    (holds : core.owner.held ≠ []) :
    (env.disposeAll core.owner).1.Stock base (cores.set id core.released) := by
  obtain ⟨first, stocked, row⟩ := h.stocked own holds
  obtain ⟨handles, journal, perm, torn⟩ := disposeAll_stripped stocked
  rw [torn]
  -- disposing the session and the journal make no difference to what is registered
  have changed : (env.stripped core (List.range' first EventKind.all.length) handles
      journal).Stock base (cores.set id core.released) := by
    have gates : (env.stripped core (List.range' first EventKind.all.length) handles
        journal).gates = env.holding core.gate none := rfl
    have now := gate_holding_none gates
    have leaves : (env.stripped core (List.range' first EventKind.all.length) handles
        journal).bus.subscriptions = env.bus.subscriptions.filter (·.listener ≠ .activation id) :=
      leave_row owned own stocked row
    have subscriptions (other : ActivationId) : (env.stripped core
        (List.range' first EventKind.all.length) handles journal).subscriptionsOf other =
        if other = id then [] else env.subscriptionsOf other := by
      unfold subscriptionsOf
      rw [leaves, List.filter_filter]
      split
      · rename_i same
        subst same
        refine List.filter_eq_nil_iff.mpr fun sub _ => ?_
        simp
      · rename_i ne
        refine List.filter_congr fun sub _ => ?_
        by_cases listens : sub.listener = .activation other
        · simp [listens, ne]
        · simp [listens]
    refine h.change owned.gates own {
      releases := fun handle release away pending => ?_
      gates := fun gate ne => ?_
      subscriptions := fun other ne => by rw [subscriptions, if_neg ne]
      same_gate := rfl
      held := fun holds => absurd rfl holds
      gone := fun _ => by rw [subscriptions, if_pos rfl]
      gate := fun ids active => ?_
      nodup := ?_
      fresh := fun handle mem => ?_
      live := fun rest live => ?_ }
    · refine (Handles.release?_retireAll _ _).trans ((if_neg fun retired => away ?_).trans pending)
      exact perm.mem_iff.mp retired
    · rw [gate_holding gates, if_neg fun here => ne here.1]
    · have none : ((env.stripped core (List.range' first EventKind.all.length) handles
          journal).gate core.gate).active = some ids := active
      rw [now] at none
      cases none
    · simp [Environment.stock, Activation.released, Disposables.empty, FeatureGate.held, now]
    · simp [Environment.stock, Activation.released, Disposables.empty, FeatureGate.held, now] at mem
    · have nothing : (env.stripped core (List.range' first EventKind.all.length) handles
          journal).providersOf core.released = [] := by
        simp [providersOf, Activation.released, Disposables.empty, FeatureGate.isEnabled, now]
      rw [nothing]
      exact Ledger.live_unregisterAll_perm live (endings_perm holds)
  exact changed.shelf (.of_eq rfl rfl rfl rfl)

/-! ## Newcomers -/

/-- A newcomer brings what is its own. -/
theorem welcome {newborn : List (CollectionId × SessionId)} (h : env.Stock base cores)
    (owned : Owned env cores newborn) (language : String) (session : SessionId)
    (collection : CollectionId) (formatting : Bool) :
    (Activation.install env language cores.length session collection formatting).1.Stock base
      (cores ++ [(Activation.install env language cores.length session collection
        formatting).2]) := by
  have stocked := @Activation.install_stocked env language cores.length session collection formatting
  have stock := @Activation.install_stock env language cores.length session collection formatting
  have providers :=
    @Activation.install_providersOf env language cores.length session collection formatting
  obtain ⟨journal, installed⟩ :=
    Activation.install_eq language cores.length session collection formatting env
  revert stocked stock providers
  generalize Activation.install env language cores.length session collection formatting = made
    at installed ⊢
  intro stocked stock providers
  have kept (handle : HandleId) (release : Release)
      (pending : env.handles.release? handle = some release) :
      made.1.handles.release? handle = some release := by
    rw [installed]
    exact (Handles.release?_extend _ (Handles.lt_of_release? pending)).trans pending
  have gates {core : Activation} (mem : core ∈ cores) : made.1.gate core.gate = env.gate core.gate := by
    rw [installed]
    have lt := (owned.within core mem).gate
    simp [Environment.gate, formattingGate, List.getElem?_append_left lt]
  have subscriptions (id : ActivationId) : made.1.subscriptionsOf id = env.subscriptionsOf id ++
      if id = cores.length then Subscription.row (.activation id) env.bus.nextId EventKind.all
      else [] := by
    rw [installed]
    simp only [subscriptionsOf, List.filter_append]
    congr 1
    by_cases same : id = cores.length
    · simp [same, Subscription.row, EventKind.all]
    · simp [Ne.symm same, same, Subscription.row, EventKind.all]
  have nobody : env.subscriptionsOf cores.length = [] := h.gone _ fun core found => by simp at found
  have at_place {id : ActivationId} {core : Activation} (found : (cores ++ [made.2])[id]? = some core) :
      cores[id]? = some core ∧ id ≠ cores.length ∨ id = cores.length ∧ core = made.2 := by
    have lt := (List.getElem?_eq_some_iff.mp found).1
    rw [List.length_append, List.length_singleton] at lt
    rcases Nat.lt_succ_iff_lt_or_eq.mp lt with old | rfl
    · rw [List.getElem?_append_left old] at found
      exact .inl ⟨found, Nat.ne_of_lt old⟩
    · rw [List.getElem?_append_right (Nat.le_refl _), Nat.sub_self] at found
      exact .inr ⟨rfl, (Option.some.inj found).symm⟩
  refine ⟨fun id core found holds => ?_, fun id gone => ?_, fun core mem ids active => ?_, ?_, ?_⟩
  · rcases at_place found with ⟨old, ne⟩ | ⟨rfl, rfl⟩
    · obtain ⟨first, held, row⟩ := h.held id core old holds
      refine ⟨first, Handles.map_release?_mono (fun handle _ => kept handle) held, ?_⟩
      rw [subscriptions, if_neg ne, List.append_nil]
      exact row
    · refine ⟨env.bus.nextId, stocked.held, ?_⟩
      rw [subscriptions, if_pos rfl, nobody]
      rfl
  · have ne : id ≠ cores.length := by
      rintro rfl
      have empty := gone made.2 (by simp)
      have held := stocked.held
      rw [empty] at held
      cases held
    rw [subscriptions, if_neg ne, List.append_nil]
    refine h.gone id fun core old => gone core ?_
    rw [List.getElem?_append_left (List.getElem?_eq_some_iff.mp old).1]
    exact old
  · rcases List.mem_append.mp mem with old | new
    · rw [gates old] at active
      exact Handles.map_release?_mono (fun handle _ => kept handle) (h.gate core old ids active)
    · rw [List.mem_singleton.mp new] at active
      exact stocked.gate ids active
  · have stocks : cores.flatMap made.1.stock = cores.flatMap env.stock :=
      List.flatMap_congr fun core mem => stock_gate (gates mem)
    rw [List.flatMap_append, stocks, List.flatMap_singleton]
    refine List.nodup_append'.mpr ⟨h.nodup, stocked.nodup, fun handle old new => ?_⟩
    obtain ⟨core, mem, held⟩ := List.mem_flatMap.mp old
    obtain ⟨id, found⟩ := List.getElem?_of_mem mem
    rw [stock] at new
    obtain ⟨place, -, rfl⟩ := List.mem_map.mp new
    exact absurd (h.lt found held) (Nat.not_lt.mpr (Nat.le_add_right _ _))
  · have olds : cores.flatMap made.1.providersOf = cores.flatMap env.providersOf :=
      List.flatMap_congr fun core mem => providersOf_gate (gates mem)
    have ledger : made.1.ledger = env.ledger.registerAll language
        (ProviderKind.alwaysOn ++ if formatting then ProviderKind.formatting else []) := by
      rw [installed]
    rw [List.flatMap_append, olds, List.flatMap_singleton, ledger, Ledger.live_registerAll,
      providers]
    exact (h.live.append_right _).trans (by rw [List.append_assoc])

end Stock
end Environment
end EngineSync
