import EngineSync.Proofs.Past

/-!
# Environments behind a past

What an activation does to its environment is the same behind a past: the journal grows by the same
entries, handles, gates and collections come by numbers that are ahead, and release actions reach
what they reach without the past.
-/
namespace EngineSync

namespace Past
variable (p : Past) (env : Environment)

theorem env_log (journal : Journal) :
    (p.environment env).log journal = p.environment (env.log journal) := by
  simp [Past.environment, Environment.log]

/-! ## Settings -/

theorem env_snapshot : (p.environment env).snapshot =
    env.snapshot.map p.environment fun settings => settings :=
  congrArg (·, _) (p.env_log env _)

theorem env_profile : (p.environment env).profile =
    env.profile.map p.environment fun profile => profile :=
  congrArg (·, _) (p.env_log env _)

theorem env_formatting : (p.environment env).formatting =
    env.formatting.map p.environment fun enabled => enabled :=
  congrArg (·, _) (p.env_log env _)

/-! ## Diagnostics -/

theorem env_makeCollection : (p.environment env).makeCollection =
    env.makeCollection.map p.environment (p.shift.collection + ·) := by
  simp [Past.environment, Environment.makeCollection, Past.shift]

theorem env_collection (id : CollectionId) :
    (p.environment env).collection (p.shift.collection + id) = env.collection id := by
  have same := getElem?_behind p.collections env.collections (fun collection => collection) id
  simp only [List.map_id', Option.map_id'] at same
  rw [Environment.collection, Environment.collection, ← same]
  rfl

theorem env_setCollection (id : CollectionId) (collection : DiagnosticsCollection) :
    (p.environment env).setCollection (p.shift.collection + id) collection =
      p.environment (env.setCollection id collection) := by
  have same := set_behind p.collections env.collections (fun collection => collection) id collection
  simp only [List.map_id'] at same
  exact congrArg (fun collections => { p.environment env with collections }) same

theorem env_clearDiagnostics (id : CollectionId) (uri : Uri) :
    (p.environment env).clearDiagnostics (p.shift.collection + id) uri =
      p.environment (env.clearDiagnostics id uri) := by
  rw [Environment.clearDiagnostics, p.env_collection, p.env_setCollection]
  rfl

theorem env_clearAllDiagnostics (id : CollectionId) :
    (p.environment env).clearAllDiagnostics (p.shift.collection + id) =
      p.environment (env.clearAllDiagnostics id) := by
  rw [Environment.clearAllDiagnostics, p.env_collection]
  dsimp only
  rw [p.env_setCollection, p.env_log]
  rfl

theorem env_publishDiagnostics (newest : env.engine.sessions = [] → p.sessions = []) (uri : Uri)
    (version : Option Int) (diagnostics : List Diagnostic) :
    (p.environment env).publishDiagnostics uri version diagnostics =
      p.environment (env.publishDiagnostics uri version diagnostics) := by
  rw [Environment.publishDiagnostics, Environment.publishDiagnostics,
    show (p.environment env).engine.newestSink = _ from p.engine_newestSink env.engine newest]
  cases env.engine.newestSink with
  | none => rfl
  | some id => simp only [Option.map_some, p.env_collection, p.env_setCollection, p.env_log]

/-! ## Sessions -/

theorem session_request (engine : Engine) (session : SessionId) (request : Request) :
    Session.request (p.engine engine) (p.shift.session + session) request =
      (Session.request engine session request).map p.engine
        (Prod.map (fun journal => journal) (Except.map (p.shift.ticket + ·))) := by
  unfold Session.request
  rw [p.engine_isDisposed, p.engine_issue]
  split <;> rfl

theorem session_dispose (engine : Engine) (session : SessionId) :
    Session.dispose (p.engine engine) (p.shift.session + session) =
      (Session.dispose engine session).map p.engine fun rest => rest := by
  unfold Session.dispose
  rw [p.engine_isDisposed, p.engine_dispose]
  split <;> rfl

theorem session_applyProfile (engine : Engine) (session : SessionId) (profile : Profile) :
    Session.applyProfile (p.engine engine) (p.shift.session + session) profile =
      (Session.applyProfile engine session profile).map p.engine
        (Prod.map (fun journal => journal) (Except.map (p.shift.ticket + ·))) := by
  unfold Session.applyProfile
  rw [p.session_request]
  rfl

theorem env_disposeSession (session : SessionId) :
    (p.environment env).disposeSession (p.shift.session + session) =
      (env.disposeSession session).map p.environment fun disposed => disposed := by
  unfold Environment.disposeSession
  rw [show Session.dispose (p.environment env).engine _ = _ from p.session_dispose env.engine session]
  rcases Session.dispose env.engine session with ⟨engine, journal, disposed⟩
  exact congrArg (·, disposed) (p.env_log { env with engine } journal)

theorem env_applyProfile (session : SessionId) (profile : Profile) :
    (p.environment env).applyProfile (p.shift.session + session) profile =
      (env.applyProfile session profile).map p.environment (Except.map (p.shift.ticket + ·)) := by
  unfold Environment.applyProfile
  rw [show Session.applyProfile (p.environment env).engine _ _ = _ from
    p.session_applyProfile env.engine session profile]
  rcases Session.applyProfile env.engine session profile with ⟨engine, journal, issued⟩
  exact congrArg (·, issued.map _) (p.env_log { env with engine } journal)

theorem env_collectProfile? (profile : Profile) (ticket : TicketId) :
    (p.environment env).collectProfile? profile (p.shift.ticket + ticket) =
      (env.collectProfile? profile ticket).map (Prod.map p.environment fun answer => answer) := by
  unfold Environment.collectProfile?
  rw [show (p.environment env).engine.collect? _ = _ from p.engine_collect? env.engine ticket,
    Option.map_map, Option.map_map]
  refine Option.map_congr fun collected _ => ?_
  exact congrArg (·, collected.2) (p.env_log { env with engine := collected.1 } _)

/-! ## Bringing the engine up -/

theorem env_openSession (path : String) (sink : Option CollectionId) :
    (p.environment env).openSession path (sink.map (p.shift.collection + ·)) =
      (env.openSession path sink).map p.environment (Except.map (p.shift.session + ·)) := by
  unfold Environment.openSession
  rw [show (p.environment env).files = env.files from rfl]
  cases env.files.read path with
  | error cause => rfl
  | ok bytes =>
    dsimp only
    rw [show (p.environment env).engine.load _ = _ from p.engine_load env.engine bytes.length]
    cases env.engine.load bytes.length with
    | error failure => rfl
    | ok engine =>
      dsimp only [Except.map]
      rw [p.engine_create]
      cases engine.create sink with
      | error failure => rfl
      | ok opened => exact congrArg (·, _) (p.env_log { env with engine := opened.1 } _)

theorem env_concludeBootstrap (session : SessionId) (answer : Except EngineFailure Unit) :
    (p.environment env).concludeBootstrap (p.shift.session + session) answer =
      (env.concludeBootstrap session answer).map p.environment
        (Except.map (p.shift.session + ·)) := by
  cases answer with
  | ok => rfl
  | error failure =>
    unfold Environment.concludeBootstrap
    rw [p.env_disposeSession]
    rfl

/-! ## Handles -/

theorem env_addHandle (label : String) (release : Release) :
    (p.environment env).addHandle label (p.shift.release release) =
      (env.addHandle label release).map p.environment (p.shift.handle + ·) := by
  unfold Environment.addHandle
  rw [show (p.environment env).handles.add _ _ = _ from p.table_add env.handles label release]
  rfl

theorem env_take? (id : HandleId) : (p.environment env).take? (p.shift.handle + id) =
    (env.take? id).map (Prod.map p.environment p.shift.release) := by
  unfold Environment.take?
  rw [show (p.environment env).handles.pending? _ = _ from p.table_pending? env.handles id,
    show (p.environment env).handles.retire _ = _ from p.table_retire env.handles id,
    Option.map_map, Option.map_map]
  refine Option.map_congr fun pending _ => ?_
  exact congrArg (·, _) (p.env_log { env with handles := env.handles.retire id } _)

theorem env_releasePlain (release : Release) :
    (p.environment env).releasePlain (p.shift.release release) =
      p.environment (env.releasePlain release) := by
  cases release with
  | session id => exact congrArg Prod.fst (p.env_disposeSession env id)
  | diagnostics id => exact p.env_clearAllDiagnostics env id
  | provider kind =>
    exact congrArg (fun ledger => { p.environment env with ledger })
      (p.ledger_unregister env.ledger kind)
  | subscription id =>
    exact congrArg (fun bus => { p.environment env with bus }) (p.bus_unsubscribe env.bus id)
  | gate id => rfl

theorem env_disposePlain (id : HandleId) :
    (p.environment env).disposePlain (p.shift.handle + id) =
      (env.disposePlain id).map p.environment fun ran => ran := by
  unfold Environment.disposePlain
  rw [p.env_take?]
  cases env.take? id with
  | none => rfl
  | some taken => exact congrArg (·, _) (p.env_releasePlain _ _)

/-! ## Providers and gates -/

theorem env_registerProvider (language : String) (kind : ProviderKind) :
    (p.environment env).registerProvider language kind =
      (env.registerProvider language kind).map p.environment (p.shift.handle + ·) := by
  unfold Environment.registerProvider
  rw [show (p.environment env).ledger.register _ = _ from
    p.ledger_register env.ledger ⟨kind, language⟩]
  exact p.env_addHandle { env with ledger := env.ledger.register ⟨kind, language⟩ } _
    (.provider kind)

theorem env_registerProviders (language : String) (kinds : List ProviderKind) :
    (p.environment env).registerProviders language kinds =
      (env.registerProviders language kinds).map p.environment p.shift.handles := by
  induction kinds generalizing env with
  | nil => rfl
  | cons kind kinds ih =>
    simp only [Environment.registerProviders, p.env_registerProvider, Prod.map_fst, Prod.map_snd, ih]
    rfl

theorem env_registerAlwaysOn (language : String) :
    (p.environment env).registerAlwaysOn language =
      (env.registerAlwaysOn language).map p.environment p.shift.handles := by
  unfold Environment.registerAlwaysOn
  simp only [p.env_registerProviders, Prod.map_fst, Prod.map_snd, p.env_log, Shift.handles,
    List.length_map]
  rfl

theorem env_makeGate (language : String) : (p.environment env).makeGate language =
    (env.makeGate language).map p.environment (p.shift.gate + ·) := by
  simp [Past.environment, Environment.makeGate, Past.shift, Shift.formattingGate,
    Shift.featureGate, FeatureGate.disabled]

theorem env_formattingGate (id : GateId) :
    (p.environment env).formattingGate (p.shift.gate + id) =
      p.shift.formattingGate (env.formattingGate id) := by
  have same := getElem?_behind p.gates env.gates p.shift.formattingGate id
  rw [Environment.formattingGate, Environment.formattingGate,
    show (p.environment env).gates[p.shift.gate + id]? = _ from same]
  cases env.gates[id]? <;> rfl

theorem env_gate (id : GateId) :
    (p.environment env).gate (p.shift.gate + id) = p.shift.featureGate (env.gate id) :=
  congrArg FormattingGate.gate (p.env_formattingGate env id)

theorem env_setGate (id : GateId) (gate : FeatureGate) :
    (p.environment env).setGate (p.shift.gate + id) (p.shift.featureGate gate) =
      p.environment (env.setGate id gate) :=
  congrArg (fun gates => { p.environment env with gates })
    (modify_behind p.gates env.gates p.shift.formattingGate id (g := ({ · with gate })) fun _ => rfl)

/-- What a gate holds is disposed. -/
theorem env_disposeHeld (ids : List HandleId) :
    EngineSync.disposeEach Environment.disposePlain (p.environment env) (p.shift.handles ids) =
      (EngineSync.disposeEach Environment.disposePlain env ids).map p.environment
        fun released => released :=
  p.disposeEach p.env_disposePlain env ids

theorem reverse_handles (ids : List HandleId) :
    (p.shift.handles ids).reverse = p.shift.handles ids.reverse :=
  List.map_reverse.symm

theorem takeActive (gate : FeatureGate) : (p.shift.featureGate gate).takeActive =
    gate.takeActive.map p.shift.featureGate (Option.map p.shift.handles) := rfl

theorem offer (gate : FeatureGate) (ids : List HandleId) :
    (p.shift.featureGate gate).offer (p.shift.handles ids) =
      (gate.offer ids).map p.shift.featureGate (Option.map p.shift.handles) := by
  unfold FeatureGate.offer
  rw [show (p.shift.featureGate gate).active = gate.active.map p.shift.handles from rfl]
  cases gate.active <;> rfl

theorem isEnabled (gate : FeatureGate) :
    (p.shift.featureGate gate).isEnabled = gate.isEnabled :=
  Option.isSome_map

theorem env_disableGate (id : GateId) : (p.environment env).disableGate (p.shift.gate + id) =
    (env.disableGate id).map p.environment fun transition => transition := by
  unfold Environment.disableGate
  rw [p.env_gate, p.takeActive]
  rcases (env.gate id).takeActive with ⟨gate, _ | ids⟩
  · rfl
  · dsimp only [Prod.map_apply, Option.map_some]
    rw [p.env_setGate, p.reverse_handles, p.env_disposeHeld]
    exact congrArg (·, Transition.disposed) (p.env_log _ _)

theorem env_enableGate (id : GateId) : (p.environment env).enableGate (p.shift.gate + id) =
    (env.enableGate id).map p.environment fun transition => transition := by
  unfold Environment.enableGate
  rw [p.env_gate, p.isEnabled, p.env_formattingGate]
  split
  · rfl
  · extract_lets language language'
    rw [show language = language' from rfl, p.env_registerProviders]
    rcases env.registerProviders language' ProviderKind.formatting with ⟨env, ids⟩
    dsimp only [Prod.map_apply]
    rw [p.env_gate, p.offer]
    rcases (env.gate id).offer ids with ⟨gate, _ | surplus⟩
    · dsimp only [Prod.map_apply, Option.map_none]
      rw [p.env_setGate]
      exact congrArg (·, Transition.registered) (p.env_log _ _)
    · dsimp only [Prod.map_apply, Option.map_some]
      rw [p.reverse_handles, p.env_disposeHeld]
      rfl

theorem env_setEnabled (id : GateId) (enabled : Bool) :
    (p.environment env).setEnabled (p.shift.gate + id) enabled =
      (env.setEnabled id enabled).map p.environment fun transition => transition := by
  cases enabled with
  | true => exact p.env_enableGate env id
  | false => exact p.env_disableGate env id

theorem env_addGateHandle (id : GateId) :
    (p.environment env).addGateHandle (p.shift.gate + id) =
      (env.addGateHandle id).map p.environment (p.shift.handle + ·) := by
  unfold Environment.addGateHandle
  rw [p.env_gate]
  exact p.env_addHandle env _ (.gate id)

/-! ## Disposal -/

theorem env_runRelease (release : Release) :
    (p.environment env).runRelease (p.shift.release release) =
      p.environment (env.runRelease release) := by
  cases release with
  | gate id => exact congrArg Prod.fst (p.env_disableGate env id)
  | session id => exact p.env_releasePlain env (.session id)
  | diagnostics id => exact p.env_releasePlain env (.diagnostics id)
  | provider kind => exact p.env_releasePlain env (.provider kind)
  | subscription id => exact p.env_releasePlain env (.subscription id)

theorem env_dispose (id : HandleId) : (p.environment env).dispose (p.shift.handle + id) =
    (env.dispose id).map p.environment fun ran => ran := by
  unfold Environment.dispose
  rw [p.env_take?]
  cases env.take? id with
  | none => rfl
  | some taken => exact congrArg (·, _) (p.env_runRelease _ _)

theorem env_disposeAll (owner : Disposables) :
    (p.environment env).disposeAll ⟨p.shift.handles owner.held⟩ =
      (env.disposeAll owner).map p.environment fun released => released := by
  unfold Environment.disposeAll
  rw [p.reverse_handles, p.disposeEach p.env_dispose env]
  rw [show Disposables.size ⟨p.shift.handles owner.held⟩ = owner.size from List.length_map _]
  simp only [Prod.map_fst, Prod.map_snd, p.env_log]
  split <;> rfl

/-! ## Subscriptions -/

theorem env_subscribe (fits : p.shift.seats ≤ env.bus.nextId) (kind : EventKind)
    (listener : Listener) : (p.environment env).subscribe kind (p.shift.listener listener) =
      (env.subscribe kind listener).map p.environment (p.shift.handle + ·) := by
  unfold Environment.subscribe
  rw [show (p.environment env).bus.subscribe _ _ = _ from p.bus_subscribe env.bus fits kind listener]
  exact p.env_addHandle { env with bus := (env.bus.subscribe kind listener).1 } _ (.subscription _)

theorem env_subscribeAll (fits : p.shift.seats ≤ env.bus.nextId) (listener : Listener)
    (kinds : List EventKind) :
    (p.environment env).subscribeAll (p.shift.listener listener) kinds =
      (env.subscribeAll listener kinds).map p.environment p.shift.handles := by
  induction kinds generalizing env with
  | nil => rfl
  | cons kind kinds ih =>
    have next : p.shift.seats ≤ (env.subscribe kind listener).1.bus.nextId :=
      Nat.le_succ_of_le fits
    simp only [Environment.subscribeAll, p.env_subscribe env fits, Prod.map_fst, Prod.map_snd,
      ih _ next]
    rfl

end Past
end EngineSync
