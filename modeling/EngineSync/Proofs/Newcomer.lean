import EngineSync.Proofs.Gates

/-!
# Newcomers

What an activation has once it is registered and its listeners are subscribed.  Its handles release
what is its own and nothing else, the ones for its session and its gate among them, and its
listeners stand at the end of the bus, one for each kind of event.
-/
namespace EngineSync

/-- What the registration of an activation changes: its own gate, which is new. -/
def Scope.newcomer (id : ActivationId) (gate : GateId) : Scope :=
  { changing (· = .gate gate) with listens := (· = .activation id) }

/-- Whether a release names something that belongs to an activation. -/
def Activation.Owns (activation : Activation) (id : ActivationId) (env : Environment) :
    Release → Prop
  | .session other => other = activation.session
  | .diagnostics other => other = activation.collection
  | .provider _ => True
  | .subscription number => number < env.bus.nextId ∧
      ∀ sub ∈ env.bus.subscriptions, sub.id = number → sub.listener = .activation id
  | .gate other => other = activation.gate

/-- Everything that belongs to an activation. -/
def Activation.scope (activation : Activation) (id : ActivationId) (env : Environment) : Scope where
  changes := activation.Owns id env
  takes := activation.Owns id env
  listens _ := False
  providers _ := trivial
  takes_changes _ own := own

/-- The subscriptions of a listener to kinds in order, numbered from some number on. -/
def Subscription.row (listener : Listener) : SubscriptionId → List EventKind →
    List (Subscription Listener)
  | _, [] => []
  | number, kind :: kinds => ⟨number, kind, listener⟩ :: row listener (number + 1) kinds

namespace Environment
variable {env env' : Environment}

/-- What belongs to an activation goes on to belong to it. -/
theorem Evolves.owns {activation : Activation} {id : ActivationId} (later : env.Evolves env')
    {release : Release} (h : activation.Owns id env release) :
    activation.Owns id env' release := by
  cases release with
  | subscription number =>
    obtain ⟨lt, own⟩ := h
    refine ⟨Nat.lt_of_lt_of_le lt later.nextId, fun sub hs he => own sub ?_ he⟩
    exact later.subscriptions sub hs (he ▸ lt)
  | _ => exact h

/-- Handles that release what belongs to an activation. -/
theorem Evolves.names {activation : Activation} {id : ActivationId} (later : env.Evolves env')
    {handle : HandleId} (h : Names (activation.scope id env) env handle) :
    Names (activation.scope id env') env' handle := by
  obtain ⟨lt, names⟩ := h.mono later
  exact ⟨lt, fun label release hr => later.owns (names label release hr)⟩

/-! ## Subscriptions to all kinds -/

theorem subscribeAll_bus (env : Environment) (listener : Listener) (kinds : List EventKind) :
    (env.subscribeAll listener kinds).1.bus.subscriptions =
      env.bus.subscriptions ++ Subscription.row listener env.bus.nextId kinds := by
  induction kinds generalizing env with
  | nil => simp [subscribeAll, Subscription.row]
  | cons kind kinds ih =>
    refine (ih (env.subscribe kind listener).1).trans ?_
    simp [subscribe, addHandle, EventBus.subscribe, Subscription.row]

theorem subscribeAll_gates (env : Environment) (listener : Listener) (kinds : List EventKind) :
    (env.subscribeAll listener kinds).1.gates = env.gates := by
  induction kinds generalizing env with
  | nil => rfl
  | cons kind kinds ih => exact ih (env.subscribe kind listener).1

/-- The handles of new subscriptions end them and nothing else. -/
theorem subscribeAll_handles (tidy : env.Tidy) (listener : Listener) (kinds : List EventKind) :
    ∀ handle ∈ (env.subscribeAll listener kinds).2,
      handle < (env.subscribeAll listener kinds).1.handles.all.length ∧
        ∀ label release, (env.subscribeAll listener kinds).1.handles.pending? handle =
          some (label, release) → ∃ number, release = .subscription number ∧
            number < (env.subscribeAll listener kinds).1.bus.nextId ∧
            ∀ sub ∈ (env.subscribeAll listener kinds).1.bus.subscriptions,
              sub.id = number → sub.listener = listener := by
  induction kinds generalizing env with
  | nil => nofun
  | cons kind kinds ih =>
    intro handle hh
    have subscribed := @subscribe_edits (.listener listener) env kind listener rfl
    rcases List.mem_cons.mp hh with rfl | hh
    · have later := Edits.evolves
        (@subscribeAll_edits (.listener listener) (env.subscribe kind listener).1 listener kinds rfl)
      have lt : env.handles.all.length < (env.subscribe kind listener).1.handles.all.length := by
        simp [subscribe, addHandle, Handles.add]
      have next : (env.subscribe kind listener).1.bus.nextId = env.bus.nextId + 1 := rfl
      refine ⟨Nat.lt_of_lt_of_le lt later.handles, fun label release hr => ?_⟩
      have made : (env.handles.add kind.subscriptionLabel
          (.subscription env.bus.nextId)).1.pending? env.handles.all.length =
            some (label, release) := later.pending _ lt _ hr
      rw [Handles.pending?_add, if_pos rfl] at made
      cases made
      refine ⟨env.bus.nextId, rfl, Nat.lt_of_lt_of_le (Nat.lt_succ_self _) later.nextId, ?_⟩
      intro sub hs he
      have old := later.subscriptions sub hs (by rw [he, next]; exact Nat.lt_succ_self _)
      rcases List.mem_append.mp old with old | new
      · exact absurd he (Nat.ne_of_lt (tidy.subscriptions sub old))
      · rw [List.mem_singleton.mp new]
    · exact ih (Edits.tidy subscribed tidy) handle hh

end Environment

namespace Activation
variable {env : Environment}

/-- The registration of an activation whose listeners are subscribed. -/
def install (env : Environment) (language : String) (id : ActivationId) (session : SessionId)
    (collection : CollectionId) (formatting : Bool) : Environment × Activation :=
  let (env, activation) := register env language session collection formatting
  let (env, subscriptions) := env.subscribeAll (.activation id) EventKind.all
  (env, { activation with owner := activation.owner.extend subscriptions })

/-! ## Registration -/

/-- The environment with the handle of a session. -/
def sessioned (env : Environment) (session : SessionId) : Environment :=
  (env.addHandle "session" (.session session)).1

/-- The environment in which the gate of an activation is made: it has the handles of its session
and its diagnostics, and the providers that need no gate. -/
def grounded (env : Environment) (language : String) (session : SessionId)
    (collection : CollectionId) : Environment :=
  (((sessioned env session).addHandle "diagnostics" (.diagnostics collection)).1.registerAlwaysOn
    language).1

/-- The environment in which the gate has its first state. -/
def gated (env : Environment) (language : String) (session : SessionId)
    (collection : CollectionId) (formatting : Bool) : Environment :=
  (((grounded env language session collection).makeGate language).1.setEnabled
    (grounded env language session collection).gates.length formatting).1

theorem register_eq (env : Environment) (language : String) (session : SessionId)
    (collection : CollectionId) (formatting : Bool) :
    (register env language session collection formatting).1 =
      ((gated env language session collection formatting).addGateHandle
        (grounded env language session collection).gates.length).1 := rfl

theorem grounded_gates (env : Environment) (language : String) (session : SessionId)
    (collection : CollectionId) : (grounded env language session collection).gates = env.gates :=
  Environment.registerProviders_gates _ language ProviderKind.alwaysOn

variable {scope : Scope} (language : String) (id : ActivationId) (session : SessionId)
  (collection : CollectionId) (formatting : Bool)

theorem sessioned_tidy (tidy : env.Tidy) : (sessioned env session).Tidy :=
  Environment.Edits.tidy (@Environment.addHandle_edits .plain env _ _) tidy

theorem grounded_edits :
    Environment.Edits scope (sessioned env session) (grounded env language session collection) :=
  Relation.ReflTransGen.trans (Environment.addHandle_edits _ _ _)
    (Environment.registerAlwaysOn_edits _ language)

theorem grounded_tidy (tidy : env.Tidy) : (grounded env language session collection).Tidy :=
  Environment.Edits.tidy (@grounded_edits env .plain language session collection)
    (sessioned_tidy session tidy)

theorem gated_edits (tidy : env.Tidy) (names : scope.changes (.gate env.gates.length)) :
    Environment.Edits scope (grounded env language session collection)
      (gated env language session collection formatting) := by
  have makes := @Environment.makeGate_edits scope (grounded env language session collection) language
  have tidy' := Environment.Edits.tidy makes (grounded_tidy language session collection tidy)
  refine Relation.ReflTransGen.trans makes (Environment.setEnabled_edits formatting tidy' ?_)
  rwa [grounded_gates]

theorem register_edits : Environment.Edits scope
    (gated env language session collection formatting)
    (register env language session collection formatting).1 :=
  Environment.addHandle_edits _ _ _

theorem subscribes_edits : Environment.Edits (.listener (.activation id))
    (register env language session collection formatting).1
    (install env language id session collection formatting).1 :=
  Environment.subscribeAll_edits _ EventKind.all rfl

theorem finish_edits (tidy : env.Tidy) :
    Environment.Edits (.newcomer id env.gates.length) (grounded env language session collection)
      (install env language id session collection formatting).1 :=
  Relation.ReflTransGen.trans
    (gated_edits language session collection formatting tidy (.inl rfl))
    (Relation.ReflTransGen.trans (register_edits language session collection formatting)
      (Environment.subscribeAll_edits _ EventKind.all rfl))

/-- What is done after the handle of the session is made leaves that handle alone. -/
theorem install_edits_later (tidy : env.Tidy) :
    Environment.Edits (.newcomer id env.gates.length) (sessioned env session)
      (install env language id session collection formatting).1 :=
  Relation.ReflTransGen.trans (grounded_edits language session collection)
    (finish_edits language id session collection formatting tidy)

theorem install_edits (tidy : env.Tidy) :
    Environment.Edits (.newcomer id env.gates.length) env
      (install env language id session collection formatting).1 :=
  Relation.ReflTransGen.trans (Environment.addHandle_edits env "session" (.session session))
    (install_edits_later language id session collection formatting tidy)

/-- Whoever registers does not listen yet. -/
theorem register_bus (tidy : env.Tidy) :
    (register env language session collection formatting).1.bus = env.bus := by
  have registered : Environment.Edits (.changing (· = .gate env.gates.length)) env
      (register env language session collection formatting).1 :=
    Relation.ReflTransGen.trans (Environment.addHandle_edits env "session" (.session session))
      (Relation.ReflTransGen.trans (grounded_edits language session collection)
        (Relation.ReflTransGen.trans
          (gated_edits language session collection formatting tidy (.inl rfl))
          (register_edits language session collection formatting)))
  exact Environment.Edits.bus registered nofun (by simp [Scope.changing, Scope.IsProvider])

/-- The listeners of a newcomer stand behind all others, one for each kind. -/
theorem install_subscriptions (tidy : env.Tidy) :
    (install env language id session collection formatting).1.bus.subscriptions =
      env.bus.subscriptions ++
        Subscription.row (.activation id) env.bus.nextId EventKind.all := by
  have all := Environment.subscribeAll_bus
    (register env language session collection formatting).1 (.activation id) EventKind.all
  rwa [register_bus language session collection formatting tidy] at all

/-! ## What a newcomer holds -/

theorem Environment.names_of_made {env env' : Environment} {handle : HandleId} {label : String}
    {release : Release} (made : env.handles.pending? handle = some (label, release))
    (later : env.Evolves env') (own : scope.takes release) :
    Environment.Names scope env' handle := by
  have lt := Handles.lt_of_pending? made
  refine ⟨Nat.lt_of_lt_of_le lt later.handles, fun label' release' hr => ?_⟩
  have same := made.symm.trans (later.pending handle lt _ hr)
  cases same
  exact own

theorem install_owner :
    (install env language id session collection formatting).2.owner.held =
      env.handles.all.length :: (sessioned env session).handles.all.length ::
        (((sessioned env session).addHandle "diagnostics" (.diagnostics collection)).1
          |>.registerProviders language ProviderKind.alwaysOn).2 ++
        [(gated env language session collection formatting).handles.all.length] ++
        ((register env language session collection formatting).1.subscribeAll (.activation id)
          EventKind.all).2 := rfl

theorem install_gate :
    (install env language id session collection formatting).2.gate = env.gates.length :=
  congrArg List.length (grounded_gates env language session collection)

/-- The gate of a newcomer was made for it. -/
theorem install_gate_lt (tidy : env.Tidy) :
    env.gates.length < (install env language id session collection formatting).1.gates.length := by
  have made : ((grounded env language session collection).makeGate language).1.gates.length =
      env.gates.length + 1 := by
    simp [Environment.makeGate, grounded_gates]
  have tidy' := Environment.Edits.tidy (@Environment.makeGate_edits .plain
    (grounded env language session collection) language)
    (grounded_tidy language session collection tidy)
  have set := Environment.Edits.evolves (@Environment.setEnabled_edits .all _
    (grounded env language session collection).gates.length formatting tidy' trivial)
  have registered := Environment.Edits.evolves
    (@register_edits env .plain language session collection formatting)
  have subscribed := Environment.Edits.evolves
    (@subscribes_edits env language id session collection formatting)
  have later := Nat.le_trans set.gates (Nat.le_trans registered.gates subscribed.gates)
  exact Nat.lt_of_lt_of_le (made ▸ Nat.lt_succ_self _) later

/-- The gate of a newcomer is in the state that the snapshot asked for. -/
theorem install_enabled :
    ((install env language id session collection formatting).1.gate
      (install env language id session collection formatting).2.gate).isEnabled = formatting := by
  have subscribed := Environment.subscribeAll_gates
    (register env language session collection formatting).1 (.activation id) EventKind.all
  refine (congrArg FeatureGate.isEnabled (Environment.gate_of_gates subscribed _)).trans ?_
  refine Environment.setEnabled_isEnabled formatting ?_
  simp

theorem sessioned_pending :
    (sessioned env session).handles.pending? env.handles.all.length =
      some ("session", .session session) := by
  unfold sessioned Environment.addHandle
  rw [Handles.pending?_add, if_pos rfl]

theorem register_gate_pending :
    ∃ label, (register env language session collection formatting).1.handles.pending?
        (gated env language session collection formatting).handles.all.length =
      some (label, .gate env.gates.length) := by
  rw [register_eq, grounded_gates]
  unfold Environment.addGateHandle Environment.addHandle
  exact ⟨_, by rw [Handles.pending?_add, if_pos rfl]⟩

/-- A newcomer has the handle that ends its session. -/
theorem install_session_handle (tidy : env.Tidy) :
    ∃ handle ∈ (install env language id session collection formatting).2.owner.held, ∃ label,
      (install env language id session collection formatting).1.handles.pending? handle =
        some (label, .session session) := by
  refine ⟨env.handles.all.length, ?_, "session", ?_⟩
  · rw [install_owner]
    exact List.mem_cons_self
  · refine Environment.Edits.kept
      (install_edits_later language id session collection formatting tidy) ?_
      (sessioned_pending session)
    simp [Scope.newcomer, Scope.changing, Scope.IsProvider]

/-- A newcomer has the handle that closes its gate. -/
theorem install_gate_handle :
    ∃ handle ∈ (install env language id session collection formatting).2.owner.held, ∃ label,
      (install env language id session collection formatting).1.handles.pending? handle =
        some (label, .gate env.gates.length) := by
  obtain ⟨label, made⟩ := @register_gate_pending env language session collection formatting
  refine ⟨(gated env language session collection formatting).handles.all.length, ?_, label, ?_⟩
  · rw [install_owner]
    simp
  · refine Environment.Edits.kept
      (subscribes_edits language id session collection formatting) ?_ made
    simp [Scope.listener, Scope.plain, Scope.changing, Scope.IsProvider]

/-- The handles of a newcomer release what belongs to it. -/
theorem install_names (tidy : env.Tidy) :
    ∀ handle ∈ (install env language id session collection formatting).2.owner.held,
      Environment.Names
        ((install env language id session collection formatting).2.scope id
          (install env language id session collection formatting).1)
        (install env language id session collection formatting).1 handle := by
  have last := Environment.Edits.evolves
    (@subscribes_edits env language id session collection formatting)
  have finish := Environment.Edits.evolves
    (finish_edits language id session collection formatting tidy)
  have grounds := Environment.Edits.evolves (@Environment.registerAlwaysOn_edits .plain
    ((sessioned env session).addHandle "diagnostics" (.diagnostics collection)).1 language)
  intro handle hh
  rw [install_owner] at hh
  simp only [List.append_assoc, List.cons_append, List.mem_cons, List.mem_append,
    List.not_mem_nil, false_or] at hh
  rcases hh with rfl | rfl | provider | rfl | subscription
  · exact Environment.names_of_made (sessioned_pending session) (Environment.Edits.evolves
      (install_edits_later language id session collection formatting tidy)) rfl
  · have made : ((sessioned env session).addHandle "diagnostics"
        (.diagnostics collection)).1.handles.pending? (sessioned env session).handles.all.length =
          some ("diagnostics", .diagnostics collection) := by
      unfold Environment.addHandle
      rw [Handles.pending?_add, if_pos rfl]
    exact Environment.names_of_made made (grounds.trans finish) rfl
  · obtain ⟨-, lt, provider⟩ := Environment.registerProviders_handles _ language _ handle provider
    refine ⟨Nat.lt_of_lt_of_le lt finish.handles, fun label release hr => ?_⟩
    obtain ⟨kind, rfl⟩ := provider label release (finish.pending handle lt _ hr)
    trivial
  · obtain ⟨label, made⟩ := @register_gate_pending env language session collection formatting
    exact Environment.names_of_made made last
      (install_gate language id session collection formatting).symm
  · have gates := @gated_edits env (.newcomer id env.gates.length) language session collection
      formatting tidy (.inl rfl)
    have tidy' := Environment.Edits.tidy gates (grounded_tidy language session collection tidy)
    have tidy'' := Environment.Edits.tidy
      (@register_edits env .plain language session collection formatting) tidy'
    obtain ⟨lt, ends⟩ := Environment.subscribeAll_handles tidy'' (.activation id) EventKind.all
      handle subscription
    refine ⟨lt, fun label release hr => ?_⟩
    obtain ⟨number, rfl, lt', own⟩ := ends label release hr
    exact ⟨lt', own⟩

end Activation
end EngineSync
