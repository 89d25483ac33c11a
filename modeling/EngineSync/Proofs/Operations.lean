import EngineSync.Proofs.Edits

/-!
# What the operations edit

Each operation of the environment is a row of edits whose scope is what its arguments name.  Those
who dispose handles need to know what their handles would release (`Names`), and a gate may be
closed because it holds nothing but providers.
-/
namespace EngineSync.Environment
variable {scope : Scope} {env env' : Environment}

/-- A handle whose release, if it still has one, is in scope. -/
def Names (scope : Scope) (env : Environment) (id : HandleId) : Prop :=
  id < env.handles.all.length ∧
    ∀ label release, env.handles.pending? id = some (label, release) → scope.takes release

theorem Names.mono {id : HandleId} (h : Names scope env id) (later : env.Evolves env') :
    Names scope env' id :=
  ⟨Nat.lt_of_lt_of_le h.1 later.handles,
    fun label release hr => h.2 label release (later.pending id h.1 _ hr)⟩

theorem HoldsProviders.names {gate : FeatureGate} (h : env.HoldsProviders gate) {id : HandleId}
    (hid : id ∈ gate.held) : Names scope env id := by
  obtain ⟨lt, provider⟩ := h id hid
  refine ⟨lt, fun label release hr => ?_⟩
  obtain ⟨kind, rfl⟩ := provider label release hr
  exact scope.providers kind

/-! ## Settings, diagnostics and sessions -/

theorem log_edits (env : Environment) (journal : Journal) : Edits scope env (env.log journal) :=
  .single (.journal env _)

theorem Edits.log (edits : Edits scope env env') (journal : Journal) :
    Edits scope env (env'.log journal) :=
  Relation.ReflTransGen.trans edits (log_edits env' journal)

theorem snapshot_edits (env : Environment) : Edits scope env env.snapshot.1 :=
  .single (.journal env _)

theorem profile_edits (env : Environment) : Edits scope env env.profile.1 :=
  .single (.journal env _)

theorem formatting_edits (env : Environment) : Edits scope env env.formatting.1 :=
  .single (.journal env _)

theorem makeCollection_edits (env : Environment) : Edits scope env env.makeCollection.1 :=
  .single (.addCollection env _)

theorem clearDiagnostics_edits (env : Environment) {id : CollectionId} (uri : Uri)
    (names : scope.changes (.diagnostics id)) : Edits scope env (env.clearDiagnostics id uri) :=
  .single (.setCollection _ names)

theorem clearAllDiagnostics_edits (env : Environment) {id : CollectionId}
    (names : scope.changes (.diagnostics id)) : Edits scope env (env.clearAllDiagnostics id) :=
  Edits.log (.single (.setCollection _ names)) _

theorem disposeSession_edits (env : Environment) {session : SessionId}
    (names : scope.changes (.session session)) :
    Edits scope env (env.disposeSession session).1 := by
  cases disposed : env.engine.isDisposed session with
  | true =>
    simp only [disposeSession, Session.dispose, disposed, if_true]
    exact log_edits env []
  | false =>
    simp only [disposeSession, Session.dispose, disposed, Bool.false_eq_true, if_false]
    exact Edits.log (.single (.dispose disposed names)) _

theorem applyProfile_edits (env : Environment) {session : SessionId} (profile : Profile)
    (names : scope.changes (.session session)) :
    Edits scope env (env.applyProfile session profile).1 := by
  unfold applyProfile Session.applyProfile Session.request
  dsimp only
  split
  · exact log_edits env _
  · exact Edits.log (.single (.issue _ names)) _

theorem collectProfile?_edits {profile : Profile} {ticket : TicketId}
    {answer : Except EngineFailure Unit}
    (h : env.collectProfile? profile ticket = some (env', answer)) : Edits scope env env' := by
  obtain ⟨⟨engine, answer'⟩, collected, he⟩ := Option.map_eq_some_iff.mp h
  obtain ⟨_, -, -, -, -, rfl⟩ := Engine.collect?_eq collected
  cases he
  refine Edits.log (.single ?_) _
  exact .engine rfl rfl (List.filter_sublist.map _)

/-- A module that is up: it was loaded, and the next session was created. -/
theorem openSession_eq {path : String} {sink : Option CollectionId} {session : SessionId}
    (h : env.openSession path sink = (env', .ok session)) :
    session = env.engine.sessions.length ∧ ∃ size journal,
      env' = { env with
        engine := { env.engine with
          calls := env.engine.calls ++ [.load size] ++ [.create session]
          sessions := env.engine.sessions ++ [⟨false, sink⟩] }
        journal } := by
  unfold openSession Engine.load Engine.create at h
  split at h
  · cases h
  · rename_i bytes _
    split at h
    · cases h
    · rename_i engine loaded
      split at loaded
      · cases loaded
      · cases loaded
        split at h
        · cases h
        · rename_i created
          split at created
          · cases created
          · cases created
            cases h
            exact ⟨rfl, bytes.length, env.journal ++ [.engineLoaded path bytes.length], by
              simp [Engine.record, Environment.log]⟩

/-- A session that was just created takes its first profile. -/
theorem applyProfile_of_opened {path : String} {sink : Option CollectionId}
    {session : SessionId} (profile : Profile)
    (opened : env.openSession path sink = (env', .ok session)) :
    ∃ journal, env'.applyProfile session profile =
      ({ env' with engine := (env'.engine.issue session (.configure profile)).1, journal },
        .ok env'.engine.nextTicket) := by
  have fresh : env'.engine.isDisposed session = false := by
    obtain ⟨rfl, size, journal, rfl⟩ := openSession_eq opened
    simp [Engine.isDisposed]
  obtain ⟨granted, permits, issued⟩ := env'.engine.issue_eq session (.configure profile)
  simp only [applyProfile, Session.applyProfile, Session.request, fresh, Bool.false_eq_true,
    if_false, issued]
  exact ⟨_, rfl⟩

/-- A module that is not up may have been loaded. -/
theorem openSession_refused {path : String} {sink : Option CollectionId} {failure : StartFailure}
    (h : env.openSession path sink = (env', .error failure)) : Edits scope env env' := by
  unfold openSession Engine.load Engine.create at h
  split at h
  · cases h
    exact .refl
  · rename_i bytes _
    split at h
    · cases h
      exact .refl
    · rename_i engine loaded
      split at loaded
      · cases loaded
      · cases loaded
        split at h
        · cases h
          exact .single (.load env bytes.length)
        · cases h

/-! ## Calls under way -/

/-- Giving up a call of the engine changes nothing else. -/
theorem cancel_edit (env : Environment) (ticket : TicketId) :
    Edit scope env { env with engine := env.engine.cancel ticket } := by
  obtain ⟨tickets, permits, cancelled, left⟩ := env.engine.cancel_eq ticket
  rw [cancelled]
  refine @Edit.engine scope env _ rfl rfl ?_
  show (tickets.map Ticket.claim).Sublist env.engine.claims
  rw [left]
  exact List.filter_sublist

theorem release_edit (env : Environment) (key : String) :
    Edit scope env { env with engine := env.engine.release key } := by
  obtain ⟨tickets, permits, released, same⟩ := env.engine.release_eq key
  rw [released]
  exact @Edit.engine scope env _ rfl rfl (same ▸ List.Sublist.refl _)

theorem grant_edit (env : Environment) (ticket : TicketId) :
    Edit scope env { env with engine := env.engine.grant ticket } := by
  have same : (env.engine.grant ticket).claims = env.engine.claims := Engine.claims_grant
  exact .engine rfl rfl (same ▸ List.Sublist.refl _)

theorem refuse_edit (env : Environment) (refusals : Refusals) :
    Edit scope env { env with engine := { env.engine with refusals } } :=
  .engine rfl rfl (List.Sublist.refl _)

theorem publishDiagnostics_edits (env : Environment) (uri : Uri) (version : Option Int)
    (diagnostics : List Diagnostic) (names : ∀ id, scope.changes (.diagnostics id)) :
    Edits scope env (env.publishDiagnostics uri version diagnostics) := by
  unfold publishDiagnostics
  cases env.engine.newestSink with
  | none => exact .refl
  | some id => exact Edits.log (.single (.setCollection _ (names id))) _

/-! ## Handles -/

theorem addHandle_edits (env : Environment) (label : String) (release : Release) :
    Edits scope env (env.addHandle label release).1 :=
  .single (.addHandle env label release)

theorem take?_eq {id : HandleId} {release : Release} (h : env.take? id = some (env', release)) :
    ∃ label, env.handles.pending? id = some (label, release) ∧
      env' = { env with handles := env.handles.retire id }.log [.disposeHandle label] := by
  obtain ⟨⟨label, release'⟩, pending, he⟩ := Option.map_eq_some_iff.mp h
  cases he
  exact ⟨label, pending, rfl⟩

theorem take?_edits {id : HandleId} {release : Release} (names : Names scope env id)
    (h : env.take? id = some (env', release)) :
    Edits scope env env' ∧ scope.takes release := by
  obtain ⟨label, pending, rfl⟩ := take?_eq h
  exact ⟨Edits.log (.single (.retire names.2)) _,
    names.2 label release pending⟩

theorem releasePlain_edits (env : Environment) {release : Release}
    (names : scope.changes release) : Edits scope env (env.releasePlain release) := by
  cases release with
  | session id => exact disposeSession_edits env names
  | diagnostics id => exact clearAllDiagnostics_edits env names
  | provider kind => exact .single (.ledger env _)
  | subscription id => exact .single (.unsubscribe names)
  | gate id => exact .refl

theorem disposePlain_edits {id : HandleId} (names : Names scope env id) :
    Edits scope env (env.disposePlain id).1 := by
  unfold disposePlain
  cases taken : env.take? id with
  | none => exact .refl
  | some outcome =>
    obtain ⟨edits, allowed⟩ := take?_edits names taken
    exact Relation.ReflTransGen.trans edits
      (releasePlain_edits _ (scope.takes_changes _ allowed))

/-- Handles in scope are disposed one after another. -/
theorem disposeEach_edits (dispose : Environment → HandleId → Environment × Bool)
    (each : ∀ {env : Environment} {id}, env.Tidy → Names scope env id →
      Edits scope env (dispose env id).1)
    (ids : List HandleId) (tidy : env.Tidy) (names : ∀ id ∈ ids, Names scope env id) :
    Edits scope env (disposeEach dispose env ids).1 := by
  induction ids generalizing env with
  | nil => exact .refl
  | cons id rest ih =>
    have first := each tidy (names id List.mem_cons_self)
    refine Relation.ReflTransGen.trans first (ih (Edits.tidy first tidy) ?_)
    exact fun id hid => (names id (List.mem_cons_of_mem _ hid)).mono (Edits.evolves first)

/-! ## Providers and gates -/

theorem registerProvider_edits (env : Environment) (language : String) (kind : ProviderKind) :
    Edits scope env (env.registerProvider language kind).1 :=
  Relation.ReflTransGen.trans (.single (.ledger env _)) (addHandle_edits _ _ _)

theorem registerProviders_edits (env : Environment) (language : String)
    (kinds : List ProviderKind) : Edits scope env (env.registerProviders language kinds).1 := by
  induction kinds generalizing env with
  | nil => exact .refl
  | cons kind kinds ih =>
    exact Relation.ReflTransGen.trans (registerProvider_edits env language kind) (ih _)

/-- The handles of new providers are new, and they release providers. -/
theorem registerProviders_handles (env : Environment) (language : String)
    (kinds : List ProviderKind) :
    ∀ id ∈ (env.registerProviders language kinds).2,
      env.handles.all.length ≤ id ∧
        id < (env.registerProviders language kinds).1.handles.all.length ∧
        ∀ label release, (env.registerProviders language kinds).1.handles.pending? id =
          some (label, release) → ∃ kind, release = .provider kind := by
  induction kinds generalizing env with
  | nil => nofun
  | cons kind kinds ih =>
    intro id hid
    have first := Edits.evolves (@registerProvider_edits .plain env language kind)
    have later := Edits.evolves
      (@registerProviders_edits .plain (env.registerProvider language kind).1 language kinds)
    rcases List.mem_cons.mp hid with rfl | hid
    · have lt : env.handles.all.length <
          (env.registerProvider language kind).1.handles.all.length := by
        simp [registerProvider, addHandle, Handles.add]
      refine ⟨Nat.le_refl _, Nat.lt_of_lt_of_le lt later.handles, fun label release hr => ⟨kind, ?_⟩⟩
      have made : (env.handles.add kind.label (.provider kind)).1.pending? env.handles.all.length =
          some (label, release) := later.pending _ lt _ hr
      rw [Handles.pending?_add, if_pos rfl] at made
      cases made
      rfl
    · obtain ⟨le, lt, provider⟩ := ih (env.registerProvider language kind).1 id hid
      exact ⟨Nat.le_trans first.handles le, lt, provider⟩

theorem registerAlwaysOn_edits (env : Environment) (language : String) :
    Edits scope env (env.registerAlwaysOn language).1 :=
  Edits.log (registerProviders_edits env language ProviderKind.alwaysOn) _

theorem makeGate_edits (env : Environment) (language : String) :
    Edits scope env (env.makeGate language).1 :=
  .single (.addGate rfl)

theorem gate_holds (env : Environment) (id : GateId) (tidy : env.Tidy) :
    env.HoldsProviders (env.gate id) := by
  unfold gate formattingGate
  cases found : env.gates[id]? with
  | none => nofun
  | some gate => exact tidy.gates gate (List.mem_of_getElem? found)

/-- Closing a gate disposes the providers that it holds. -/
theorem disableGate_edits {id : GateId} (tidy : env.Tidy) (names : scope.changes (.gate id)) :
    Edits scope env (env.disableGate id).1 := by
  unfold disableGate FeatureGate.takeActive
  cases active : (env.gate id).active with
  | none => exact .refl
  | some handles =>
    have emptied : Edits scope env (env.setGate id { env.gate id with active := none }) :=
      .single (.setGate names nofun)
    have held : ∀ handle ∈ handles.reverse, Names scope env handle := fun handle hh =>
      (gate_holds env id tidy).names (by simpa [FeatureGate.held, active] using hh)
    have disposed := disposeEach_edits disposePlain
      (fun _ names => disposePlain_edits names) handles.reverse (Edits.tidy emptied tidy)
      (fun handle hh => (held handle hh).mono (Edits.evolves emptied))
    exact Relation.ReflTransGen.trans emptied (Edits.log disposed _)

/-- Opening a gate registers providers and hands them in. -/
theorem enableGate_edits {id : GateId} (tidy : env.Tidy) (names : scope.changes (.gate id)) :
    Edits scope env (env.enableGate id).1 := by
  unfold enableGate
  split
  · exact .refl
  · have registered : Edits scope env _ := registerProviders_edits env
      (env.formattingGate id).language ProviderKind.formatting
    have new := registerProviders_handles env (env.formattingGate id).language
      ProviderKind.formatting
    rcases registers : env.registerProviders (env.formattingGate id).language
      ProviderKind.formatting with ⟨middle, handles⟩
    simp only [registers] at registered new ⊢
    unfold FeatureGate.offer
    cases active : (middle.gate id).active with
    | none =>
      have offered : middle.HoldsProviders { middle.gate id with active := some handles } :=
        fun handle hh => (new handle hh).2
      exact Relation.ReflTransGen.trans registered
        (Edits.log (.single (.setGate names offered)) _)
    | some other =>
      refine Relation.ReflTransGen.trans registered (disposeEach_edits disposePlain
        (fun _ names => disposePlain_edits names) handles.reverse
        (Edits.tidy registered tidy) fun handle hh => ?_)
      obtain ⟨-, lt, provider⟩ := new handle (List.mem_reverse.mp hh)
      refine ⟨lt, fun label release hr => ?_⟩
      obtain ⟨kind, rfl⟩ := provider label release hr
      exact scope.providers kind

theorem setEnabled_edits {id : GateId} (enabled : Bool) (tidy : env.Tidy)
    (names : scope.changes (.gate id)) : Edits scope env (env.setEnabled id enabled).1 := by
  cases enabled with
  | true => exact enableGate_edits tidy names
  | false => exact disableGate_edits tidy names

/-! ## Disposal -/

theorem runRelease_edits {release : Release} (tidy : env.Tidy)
    (names : scope.changes release) : Edits scope env (env.runRelease release) := by
  cases release with
  | gate id => exact disableGate_edits tidy names
  | _ => exact releasePlain_edits env names

theorem dispose_edits {id : HandleId} (tidy : env.Tidy) (names : Names scope env id) :
    Edits scope env (env.dispose id).1 := by
  unfold dispose
  cases taken : env.take? id with
  | none => exact .refl
  | some outcome =>
    obtain ⟨edits, allowed⟩ := take?_edits names taken
    exact Relation.ReflTransGen.trans edits
      (runRelease_edits (Edits.tidy edits tidy) (scope.takes_changes _ allowed))

theorem disposeAll_edits (owner : Disposables) (tidy : env.Tidy)
    (names : ∀ id ∈ owner.held, Names scope env id) :
    Edits scope env (env.disposeAll owner).1 := by
  have disposed := disposeEach_edits dispose dispose_edits owner.held.reverse tidy
    fun id hid => names id (List.mem_reverse.mp hid)
  unfold disposeAll
  dsimp only
  split
  · exact disposed
  · exact Edits.log disposed _

/-! ## Subscriptions -/

theorem subscribe_edits (env : Environment) (kind : EventKind) {listener : Listener}
    (names : scope.listens listener) : Edits scope env (env.subscribe kind listener).1 :=
  Relation.ReflTransGen.trans (.single (.subscribe kind names)) (addHandle_edits _ _ _)

theorem subscribeAll_edits (env : Environment) {listener : Listener} (kinds : List EventKind)
    (names : scope.listens listener) : Edits scope env (env.subscribeAll listener kinds).1 := by
  induction kinds generalizing env with
  | nil => exact .refl
  | cons kind kinds ih =>
    exact Relation.ReflTransGen.trans (subscribe_edits env kind names) (ih _)

end EngineSync.Environment
