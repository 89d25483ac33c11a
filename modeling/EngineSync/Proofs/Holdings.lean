import EngineSync.Proofs.Releases

/-!
# What an activation holds

The handles of an activation release its session, its diagnostics, its providers, its gate and its
subscriptions, in the order in which they were made, and its gate holds those of the formatting
providers while it is open.  `Stocked` says that all of them still have their releases, and no two
are the same.  A newcomer is stocked (`install_stocked`), and tearing down an activation that is
stocked takes away just what belongs to it (`disposeAll_stripped`).
-/
namespace EngineSync

/-- What the handles of an activation release, in the order in which it took them; its subscriptions
are numbered from some number on. -/
def Activation.duties (activation : Activation) (first : SubscriptionId) : List Release :=
  [.session activation.session, .diagnostics activation.collection] ++
    ProviderKind.alwaysOn.map .provider ++ [.gate activation.gate] ++
    (List.range' first EventKind.all.length).map .subscription

namespace Environment
variable {env : Environment} {activation : Activation}

/-- The providers of an activation, in the order in which they were registered: those that need no
gate while it holds anything, and those of its gate while that is open. -/
def providersOf (env : Environment) (activation : Activation) : List ProviderKind :=
  (if activation.owner.held = [] then [] else ProviderKind.alwaysOn) ++
    if (env.gate activation.gate).isEnabled then ProviderKind.formatting else []

/-- The handles of an activation: those that it holds and those that its gate holds. -/
def stock (env : Environment) (activation : Activation) : List HandleId :=
  activation.owner.held ++ (env.gate activation.gate).held

/-- The kinds that end with an activation, the last one first. -/
def endings (env : Environment) (activation : Activation) : List ProviderKind :=
  (if (env.gate activation.gate).isEnabled then ProviderKind.formatting.reverse else []) ++
    ProviderKind.alwaysOn.reverse

/-- What ends is what there was. -/
theorem endings_perm (holds : activation.owner.held ≠ []) :
    (env.endings activation).Perm (env.providersOf activation) := by
  unfold endings providersOf
  rw [if_neg holds]
  refine List.perm_append_comm.trans ((List.reverse_perm _).append ?_)
  split
  · exact List.reverse_perm _
  · exact List.Perm.refl _

/-- The environment once everything of an activation is disposed but its session. -/
def stripped (env : Environment) (activation : Activation) (numbers : List SubscriptionId)
    (handles : List HandleId) (journal : Journal) : Environment :=
  { env.shed numbers handles (env.endings activation) (env.holding activation.gate none) journal with
    collections := env.collections.set activation.collection
      (env.collection activation.collection).clearAll.1 }

/-- What the handles of an activation and of its gate still release. -/
structure Stocked (env : Environment) (activation : Activation) (first : SubscriptionId) :
    Prop where
  held : activation.owner.held.map env.handles.release? = (activation.duties first).map some
  gate : ∀ ids ∈ (env.gate activation.gate).active,
    ids.map env.handles.release? = (ProviderKind.formatting.map Release.provider).map some
  nodup : (env.stock activation).Nodup

/-- Everything of an activation but its session is disposed: its listeners, its gate, its providers
and its diagnostics. -/
theorem disposeEach_stripped {numbers : List SubscriptionId} {listeners providers : List HandleId}
    {gate diagnostics : HandleId}
    (listens : listeners.map env.handles.release? = (numbers.map Release.subscription).map some)
    (gates : env.handles.release? gate = some (.gate activation.gate))
    (held : ∀ ids ∈ (env.gate activation.gate).active,
      ids.map env.handles.release? = (ProviderKind.formatting.map Release.provider).map some)
    (provides : providers.map env.handles.release? =
      (ProviderKind.alwaysOn.map Release.provider).map some)
    (reports : env.handles.release? diagnostics = some (.diagnostics activation.collection))
    (nodup : (listeners.reverse ++ (gate :: (env.gate activation.gate).held.reverse) ++
      providers.reverse ++ [diagnostics]).Nodup) :
    ∃ journal, disposeEach dispose env
        (listeners.reverse ++ gate :: (providers.reverse ++ [diagnostics])) =
      (env.stripped activation numbers.reverse (listeners.reverse ++
        (gate :: (env.gate activation.gate).held.reverse) ++ providers.reverse ++ [diagnostics])
          journal, listeners.length + providers.length + 2) := by
  obtain ⟨nodup₃, -, apart₃⟩ := List.nodup_append'.mp nodup
  obtain ⟨nodup₂, providers_nodup, apart₂⟩ := List.nodup_append'.mp nodup₃
  obtain ⟨listeners_nodup, gates_nodup, apart₁⟩ := List.nodup_append'.mp nodup₂
  -- the listeners go first
  obtain ⟨journal₁, first⟩ := @disposeEach_subscriptions env listeners.reverse numbers.reverse
    listeners_nodup (by rw [List.map_reverse, List.map_reverse, List.map_reverse, listens])
  -- then the gate, with what it holds
  have apart : listeners.reverse.Disjoint (env.gate activation.gate).held :=
    fun id retired mem => apart₁ retired (List.mem_cons_of_mem _ (List.mem_reverse.mpr mem))
  obtain ⟨journal₂, second⟩ : ∃ journal₂,
      (env.shed numbers.reverse listeners.reverse [] env.gates journal₁).dispose gate =
        (env.shed numbers.reverse
          (listeners.reverse ++ (gate :: (env.gate activation.gate).held.reverse))
          (if (env.gate activation.gate).isEnabled then ProviderKind.formatting.reverse else [])
          (env.holding activation.gate none) journal₂, true) := by
    obtain ⟨journal₂, second⟩ := @dispose_gate
      (env.shed numbers.reverse listeners.reverse [] env.gates journal₁) activation.gate gate
      ProviderKind.formatting
      ((release?_shed fun retired => apart₁ retired List.mem_cons_self).trans gates)
      (fun ids active => by
        have active' : (env.gate activation.gate).active = some ids := active
        have same : (env.gate activation.gate).held = ids := by simp [FeatureGate.held, active']
        rw [map_release?_shed (same ▸ apart)]
        exact held ids active)
      (by
        have nodup : (gate :: (env.gate activation.gate).held).Nodup := by simpa using gates_nodup
        exact nodup)
    refine ⟨journal₂, second.trans ?_⟩
    rw [shed_shed, List.append_nil, List.nil_append]
    rfl
  -- then the providers that need no gate
  obtain ⟨journal₃, third⟩ : ∃ journal₃, disposeEach dispose
      (env.shed numbers.reverse
        (listeners.reverse ++ (gate :: (env.gate activation.gate).held.reverse))
        (if (env.gate activation.gate).isEnabled then ProviderKind.formatting.reverse else [])
        (env.holding activation.gate none) journal₂) providers.reverse =
      (env.shed numbers.reverse
        (listeners.reverse ++ (gate :: (env.gate activation.gate).held.reverse) ++ providers.reverse)
        (env.endings activation) (env.holding activation.gate none) journal₃, providers.length) := by
    obtain ⟨journal₃, third, -⟩ := @disposeEach_providers (env.shed numbers.reverse
        (listeners.reverse ++ (gate :: (env.gate activation.gate).held.reverse))
        (if (env.gate activation.gate).isEnabled then ProviderKind.formatting.reverse else [])
        (env.holding activation.gate none) journal₂) providers.reverse
      ProviderKind.alwaysOn.reverse providers_nodup
      (by
        rw [map_release?_shed apart₂, List.map_reverse, List.map_reverse, List.map_reverse]
        exact congrArg List.reverse provides)
    refine ⟨journal₃, third.trans ?_⟩
    rw [shed_shed, List.append_nil, List.length_reverse]
    rfl
  -- then the diagnostics
  obtain ⟨journal₄, fourth, -⟩ := @dispose_plain (env.shed numbers.reverse
      (listeners.reverse ++ (gate :: (env.gate activation.gate).held.reverse) ++ providers.reverse)
      (env.endings activation) (env.holding activation.gate none) journal₃) diagnostics
    (.diagnostics activation.collection)
    ((release?_shed fun retired => apart₃ retired (List.mem_singleton_self _)).trans reports) (by simp)
  have retires : (env.handles.retireAll (listeners.reverse ++
      (gate :: (env.gate activation.gate).held.reverse) ++ providers.reverse)).retire diagnostics =
      env.handles.retireAll (listeners.reverse ++
        (gate :: (env.gate activation.gate).held.reverse) ++ providers.reverse ++ [diagnostics]) :=
    (Handles.retireAll_append _ [diagnostics]).symm
  refine ⟨journal₄, (disposeEach_then first (disposeEach_then (disposeEach_one second)
    (disposeEach_then third (disposeEach_one fourth)))).trans ?_⟩
  refine congrArg₂ Prod.mk ?_ (by rw [List.length_reverse]; omega)
  unfold stripped
  simp only [shed, ← retires]
  rfl

/-- The numbers of subscriptions that are taken away may stand in any order. -/
theorem stripped_reverse (env : Environment) (activation : Activation)
    (numbers : List SubscriptionId) (handles : List HandleId) (journal : Journal) :
    env.stripped activation numbers.reverse handles journal =
      env.stripped activation numbers handles journal := by
  simp [stripped, shed]

/-- One more handle is taken. -/
theorem stripped_taking (env : Environment) (activation : Activation)
    (numbers : List SubscriptionId) (handles : List HandleId) (journal : Journal)
    (handle : HandleId) (label : String) :
    (env.stripped activation numbers handles journal).taking handle label =
      env.stripped activation numbers (handles ++ [handle])
        (journal ++ [.disposeHandle label]) := by
  simp only [stripped, shed, taking, Handles.retireAll_append]
  rfl

/-- The handles of an activation release what is among its duties. -/
theorem Stocked.has {first : SubscriptionId}
    (h : env.Stocked activation first) {release : Release} (mem : release ∈ activation.duties first) :
    ∃ handle ∈ activation.owner.held, env.handles.release? handle = some release := by
  have mem' : some release ∈ activation.owner.held.map env.handles.release? :=
    h.held ▸ List.mem_map_of_mem mem
  exact List.mem_map.mp mem'

/-- The handles of an activation by what they release. -/
theorem Stocked.split {first : SubscriptionId} (h : env.Stocked activation first) :
    ∃ session diagnostics providers gate listeners,
      activation.owner.held = session :: diagnostics :: (providers ++ gate :: listeners) ∧
      env.handles.release? session = some (.session activation.session) ∧
      env.handles.release? diagnostics = some (.diagnostics activation.collection) ∧
      providers.map env.handles.release? = (ProviderKind.alwaysOn.map Release.provider).map some ∧
      env.handles.release? gate = some (.gate activation.gate) ∧
      listeners.map env.handles.release? =
        ((List.range' first EventKind.all.length).map Release.subscription).map some := by
  have held := h.held
  simp only [Activation.duties, List.map_append] at held
  obtain ⟨before, listeners, rest, before_eq, listeners_eq⟩ := List.map_eq_append_iff.mp held
  obtain ⟨before', gates, rfl, before_eq', gates_eq⟩ := List.map_eq_append_iff.mp before_eq
  obtain ⟨own, providers, rfl, own_eq, providers_eq⟩ := List.map_eq_append_iff.mp before_eq'
  obtain ⟨session, own, rfl, session_eq, own_eq⟩ := List.map_eq_cons_iff.mp own_eq
  obtain ⟨diagnostics, own, rfl, diagnostics_eq, own_eq⟩ := List.map_eq_cons_iff.mp own_eq
  obtain ⟨gate, gates, rfl, gate_eq, gates_eq⟩ := List.map_eq_cons_iff.mp gates_eq
  obtain rfl := List.map_eq_nil_iff.mp own_eq
  obtain rfl := List.map_eq_nil_iff.mp gates_eq
  exact ⟨session, diagnostics, providers, gate, listeners, by simp [rest], session_eq,
    diagnostics_eq, providers_eq, gate_eq, listeners_eq⟩

/-- **What a teardown takes away**: the subscriptions, the gate's providers and the others, the
diagnostics, and last the session. -/
theorem disposeAll_stripped {first : SubscriptionId} (h : env.Stocked activation first) :
    ∃ handles journal, handles.Perm (env.stock activation) ∧
      env.disposeAll activation.owner =
        (((env.stripped activation (List.range' first EventKind.all.length) handles
            journal).disposeSession activation.session).1.log
          [.teardown activation.owner.size activation.owner.size], activation.owner.size) := by
  obtain ⟨session, diagnostics, providers, gate, listeners, split, session_eq, diagnostics_eq,
    providers_eq, gate_eq, listeners_eq⟩ := h.split
  -- the order in which the handles lose their releases
  have order : (listeners.reverse ++ (gate :: (env.gate activation.gate).held.reverse) ++
      providers.reverse ++ [diagnostics] ++ [session]).Perm (env.stock activation) := by
    rw [stock, split]
    refine List.perm_iff_count.mpr fun handle => ?_
    simp only [List.count_append, List.count_reverse, List.count_cons, List.count_nil]
    omega
  have nodup := order.nodup_iff.mpr h.nodup
  obtain ⟨nodup', -, apart⟩ := List.nodup_append'.mp nodup
  obtain ⟨journal, disposed⟩ := disposeEach_stripped listeners_eq gate_eq h.gate providers_eq
    diagnostics_eq nodup'
  rw [stripped_reverse] at disposed
  -- the session is the last one
  have kept : (env.stripped activation (List.range' first EventKind.all.length) (listeners.reverse ++
      (gate :: (env.gate activation.gate).held.reverse) ++ providers.reverse ++ [diagnostics])
        journal).handles.release? session = some (.session activation.session) := by
    refine Eq.trans ((Handles.release?_retireAll _ session).trans ?_) session_eq
    exact if_neg fun retired => apart retired (List.mem_singleton_self _)
  obtain ⟨label, pending⟩ := Handles.release?_eq_some.mp kept
  have last := (dispose_pending pending).1
  rw [stripped_taking] at last
  refine ⟨_, journal ++ [.disposeHandle label], order, ?_⟩
  have size : listeners.length + providers.length + 2 + 1 = activation.owner.size := by
    simp [Disposables.size, split]
    omega
  have all := disposeEach_then disposed (disposeEach_one last)
  have backwards : activation.owner.held.reverse =
      listeners.reverse ++ gate :: (providers.reverse ++ [diagnostics]) ++ [session] := by
    simp [split]
  rw [← backwards, size] at all
  have some : activation.owner.size ≠ 0 := by
    rw [← size]
    exact Nat.succ_ne_zero _
  unfold disposeAll
  simp only [all, if_neg some]
  rfl

end Environment

/-! ## What a newcomer holds -/

/-- The handles that are made for an activation, in order; those for its gate come in between. -/
def Activation.made (session : SessionId) (collection : CollectionId) (gate : GateId)
    (first : SubscriptionId) (formatting : Bool) : List (Handle Release) :=
  [⟨"session", some (.session session)⟩, ⟨"diagnostics", some (.diagnostics collection)⟩] ++
    ProviderKind.alwaysOn.map ProviderKind.handle ++
    (if formatting then ProviderKind.formatting.map ProviderKind.handle else []) ++
    [⟨(FeatureGate.disabled "formatting" 0).teardownLabel, some (.gate gate)⟩] ++
    EventKind.handles first EventKind.all

/-- The places of the handles that an activation keeps, among those that are made for it. -/
def Activation.keeps (formatting : Bool) : List Nat :=
  List.range 9 ++ List.range' (if formatting then 11 else 9) 5

/-- The places of the handles that its gate keeps. -/
def Activation.gateKeeps (formatting : Bool) : Option (List Nat) :=
  if formatting then some [9, 10] else none

namespace Activation
variable {env : Environment} (language : String) (id : ActivationId) (session : SessionId)
  (collection : CollectionId) (formatting : Bool)

/-- What the registration of an activation comes to. -/
theorem install_eq (env : Environment) :
    ∃ journal, install env language id session collection formatting =
      ({ env with
          handles := env.handles.extend
            (made session collection env.gates.length env.bus.nextId formatting)
          gates := env.gates ++ [⟨⟨"formatting", ProviderKind.formatting.length,
            (gateKeeps formatting).map (List.map (env.handles.all.length + ·))⟩, language⟩]
          ledger := env.ledger.registerAll language
            (ProviderKind.alwaysOn ++ if formatting then ProviderKind.formatting else [])
          bus := ⟨env.bus.nextId + EventKind.all.length, env.bus.subscriptions ++
            Subscription.row (.activation id) env.bus.nextId EventKind.all⟩
          journal },
        { session, filter := ⟨language⟩, lanes := .empty, gate := env.gates.length, collection,
          barrier := .replaying
          owner := ⟨(keeps formatting).map (env.handles.all.length + ·)⟩ }) := by
  unfold install register Environment.registerAlwaysOn
  simp only [Environment.registerProviders_eq, Environment.subscribeAll_eq]
  cases formatting with
  | false =>
    simp only [Environment.setEnabled, Bool.false_eq_true, if_false]
    rw [Environment.disableGate_closed_eq]
    · refine ⟨env.journal ++ [.providersRegistered language ProviderKind.alwaysOn.length], ?_⟩
      simp [Environment.addHandle, Handles.add, Handles.extend, Environment.makeGate,
        Environment.log, Environment.addGateHandle, made, keeps, gateKeeps, Disposables.extend,
        List.range'_succ, List.range_succ, ProviderKind.alwaysOn, EventKind.all,
        FeatureGate.disabled, Environment.gate, Environment.formattingGate]
      rfl
    · simp [Environment.makeGate, Environment.gate, Environment.formattingGate]
      rfl
  | true =>
    simp only [Environment.setEnabled, if_true]
    unfold Environment.enableGate
    rw [if_neg]
    · simp only [Environment.registerProviders_eq]
      refine ⟨env.journal ++ [.providersRegistered language ProviderKind.alwaysOn.length,
        .gateEnabled "formatting" ProviderKind.formatting.length], ?_⟩
      simp [Environment.addHandle, Handles.add, Handles.extend, Environment.makeGate,
        Environment.log, Environment.addGateHandle, made, keeps, gateKeeps, Disposables.extend,
        List.range'_succ, List.range_succ, ProviderKind.alwaysOn, EventKind.all,
        FeatureGate.disabled, Environment.gate, Environment.formattingGate, FeatureGate.offer,
        Environment.setGate, Ledger.registerAll, ProviderKind.formatting,
        FeatureGate.teardownLabel, List.modify_eq_take_cons_drop]
    · simp [Environment.makeGate, Environment.gate, Environment.formattingGate]
      rfl

/-- The handles of a newcomer are those that were made for it. -/
theorem install_stock : (install env language id session collection formatting).1.stock
      (install env language id session collection formatting).2 =
    (keeps formatting ++ (gateKeeps formatting).getD []).map (env.handles.all.length + ·) := by
  obtain ⟨journal, installed⟩ := install_eq language id session collection formatting env
  rw [installed]
  cases formatting <;>
    simp [Environment.stock, Environment.gate, Environment.formattingGate, FeatureGate.held,
      gateKeeps]

/-- The providers of a newcomer. -/
theorem install_providersOf : (install env language id session collection formatting).1.providersOf
      (install env language id session collection formatting).2 =
    ProviderKind.alwaysOn ++ if formatting then ProviderKind.formatting else [] := by
  obtain ⟨journal, installed⟩ := install_eq language id session collection formatting env
  rw [installed]
  cases formatting <;>
    simp [Environment.providersOf, Environment.gate, Environment.formattingGate,
      FeatureGate.isEnabled, gateKeeps, keeps]

/-- A newcomer holds what it has to release, and so does its gate. -/
theorem install_stocked : (install env language id session collection formatting).1.Stocked
    (install env language id session collection formatting).2 env.bus.nextId := by
  have stock := @install_stock env language id session collection formatting
  obtain ⟨journal, installed⟩ := install_eq language id session collection formatting env
  refine ⟨?_, ?_, ?_⟩
  · rw [installed]
    dsimp only
    rw [Handles.map_release?_made]
    cases formatting <;> rfl
  · rw [installed]
    intro ids active
    cases formatting with
    | false => simp [Environment.gate, Environment.formattingGate, gateKeeps] at active
    | true =>
      obtain rfl : [9, 10].map (env.handles.all.length + ·) = ids := by
        simpa [Environment.gate, Environment.formattingGate, gateKeeps] using active
      dsimp only
      rw [Handles.map_release?_made]
      rfl
  · rw [stock]
    refine List.Nodup.map (fun _ _ same => Nat.add_left_cancel same) ?_
    cases formatting <;> decide

end Activation
end EngineSync
