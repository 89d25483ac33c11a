import EngineSync.Proofs.Operations

/-!
# What becomes of gates

Setting a gate brings it into the state that was asked for, whatever it was in before.  Releasing
handles never opens a gate, and an owner that disposes the handle of its gate leaves the gate
closed; in the same way an owner that disposes the handle of its session leaves the session
disposed.
-/
namespace EngineSync.Environment
variable {env env' : Environment} {id id' : GateId}

/-! ## Gates that are left alone -/

theorem gate_setGate (env : Environment) (id id' : GateId) (gate : FeatureGate) :
    (env.setGate id gate).gate id' =
      if id' = id ∧ id < env.gates.length then gate else env.gate id' := by
  unfold Environment.gate formattingGate setGate
  by_cases same : id' = id
  · subst same
    by_cases lt : id' < env.gates.length <;> simp [lt]
  · simp [same, Ne.symm same]

theorem setGate_self (env : Environment) (id : GateId) : env.setGate id (env.gate id) = env := by
  have same : env.gates.modify id ({ · with gate := env.gate id }) = env.gates := by
    refine List.ext_getElem? fun place => ?_
    rw [List.getElem?_modify]
    by_cases here : id = place
    · subst here
      unfold Environment.gate formattingGate
      cases env.gates[id]? <;> simp
    · simp [here]
  unfold setGate
  rw [same]

/-- Of two settings of a gate the last one counts. -/
theorem setGate_setGate (env : Environment) (id : GateId) (gate gate' : FeatureGate) :
    (env.setGate id gate).setGate id gate' = env.setGate id gate' := by
  simp only [setGate, List.modify_modify_eq]
  rfl

/-- A gate is for one language, however it is set. -/
theorem language_setGate (env : Environment) (id : GateId) (gate : FeatureGate) :
    ((env.setGate id gate).formattingGate id).language = (env.formattingGate id).language := by
  unfold formattingGate setGate
  rw [List.getElem?_modify_eq]
  cases env.gates[id]? <;> rfl

theorem gate_of_gates (same : env'.gates = env.gates) (id : GateId) : env'.gate id = env.gate id := by
  unfold Environment.gate formattingGate
  rw [same]

theorem registerProviders_gates (env : Environment) (language : String)
    (kinds : List ProviderKind) :
    (env.registerProviders language kinds).1.gates = env.gates := by
  induction kinds generalizing env with
  | nil => rfl
  | cons kind kinds ih => exact ih (env.registerProvider language kind).1

theorem releasePlain_gates (env : Environment) (release : Release) :
    (env.releasePlain release).gates = env.gates := by
  cases release <;> rfl

theorem disposePlain_gates (env : Environment) (handle : HandleId) :
    (env.disposePlain handle).1.gates = env.gates := by
  unfold disposePlain
  cases taken : env.take? handle with
  | none => rfl
  | some outcome =>
    obtain ⟨label, -, same⟩ := @take?_eq env outcome.1 handle outcome.2 taken
    refine (releasePlain_gates _ _).trans ?_
    rw [same]
    rfl

theorem disposeEach_gates (env : Environment) (handles : List HandleId) :
    (disposeEach disposePlain env handles).1.gates = env.gates := by
  induction handles generalizing env with
  | nil => rfl
  | cons handle handles ih => exact (ih _).trans (disposePlain_gates env handle)

/-! ## Setting a gate -/

theorem disableGate_gates (env : Environment) (id : GateId) :
    (env.disableGate id).1.gates = env.gates ∧ (env.gate id).active = none ∨
      (env.disableGate id).1.gates =
        (env.setGate id { env.gate id with active := none }).gates := by
  unfold disableGate FeatureGate.takeActive
  cases active : (env.gate id).active with
  | none => exact .inl ⟨rfl, rfl⟩
  | some handles => exact .inr (disposeEach_gates _ _)

/-- A gate that is closed stays closed when some gate is closed. -/
theorem disableGate_closed (closed : (env.gate id').isEnabled = false) :
    ((env.disableGate id).1.gate id').isEnabled = false := by
  rcases disableGate_gates env id with ⟨same, -⟩ | set
  · rwa [gate_of_gates same]
  · rw [gate_of_gates set, gate_setGate]
    split
    · rfl
    · exact closed

theorem disableGate_closes (env : Environment) (id : GateId) :
    ((env.disableGate id).1.gate id).isEnabled = false := by
  rcases disableGate_gates env id with ⟨same, none⟩ | set
  · rw [gate_of_gates same, FeatureGate.isEnabled, none]
    rfl
  · rw [gate_of_gates set, gate_setGate]
    split
    · rfl
    · -- a gate that was never made holds nothing
      rename_i out
      have none : env.gates[id]? = none := by simpa using out
      simp [Environment.gate, formattingGate, none, FeatureGate.isEnabled]
      rfl

theorem enableGate_opens (lt : id < env.gates.length) :
    ((env.enableGate id).1.gate id).isEnabled = true := by
  unfold enableGate
  split
  · assumption
  · rename_i closed
    have same := registerProviders_gates env (env.formattingGate id).language
      ProviderKind.formatting
    have none : ((env.registerProviders (env.formattingGate id).language
        ProviderKind.formatting).1.gate id).active = none := by
      rw [gate_of_gates same]
      simpa [FeatureGate.isEnabled] using closed
    simp only [FeatureGate.offer, none]
    show (Environment.gate (Environment.setGate _ id _) id).isEnabled = true
    rw [gate_setGate, if_pos ⟨rfl, same ▸ lt⟩]
    rfl

/-- **A gate that was set is in the state that was asked for.** -/
theorem setEnabled_isEnabled (enabled : Bool) (lt : id < env.gates.length) :
    ((env.setEnabled id enabled).1.gate id).isEnabled = enabled := by
  cases enabled with
  | true => exact enableGate_opens lt
  | false => exact disableGate_closes env id

/-! ## Disposing handles -/

theorem runRelease_closed (release : Release) (closed : (env.gate id).isEnabled = false) :
    ((env.runRelease release).gate id).isEnabled = false := by
  cases release with
  | gate other => exact disableGate_closed closed
  | _ => exact closed

theorem dispose_closed (handle : HandleId) (closed : (env.gate id).isEnabled = false) :
    ((env.dispose handle).1.gate id).isEnabled = false := by
  unfold dispose
  cases taken : env.take? handle with
  | none => exact closed
  | some outcome =>
    obtain ⟨label, -, same⟩ := @take?_eq env outcome.1 handle outcome.2 taken
    refine runRelease_closed outcome.2 ?_
    rw [same]
    exact closed

/-- A handle can be disposed in any tidy environment. -/
theorem dispose_later {handle : HandleId} (tidy : env.Tidy)
    (lt : handle < env.handles.all.length) :
    env.Evolves (env.dispose handle).1 ∧ (env.dispose handle).1.Tidy := by
  have edits : Edits .all env (env.dispose handle).1 :=
    dispose_edits tidy ⟨lt, fun _ _ _ => trivial⟩
  exact ⟨Edits.evolves edits, Edits.tidy edits tidy⟩

/-- Disposing one handle takes the release of no other, providers of gates apart. -/
theorem dispose_keeps {handle handle' : HandleId} {label : String} {release : Release}
    (tidy : env.Tidy) (own : ¬Scope.IsProvider release) (ne : handle ≠ handle')
    (pending : env.handles.pending? handle = some (label, release)) :
    (env.dispose handle').1.handles.pending? handle = some (label, release) := by
  unfold dispose
  cases taken : env.take? handle' with
  | none => exact pending
  | some outcome =>
    obtain ⟨label', found, same⟩ := @take?_eq env outcome.1 handle' outcome.2 taken
    have first : Edits .all env outcome.1 := by
      rw [same]
      exact Edits.log (.single (.retire fun _ _ _ => trivial)) _
    have runs : Edits (.changing fun _ => True) outcome.1 (outcome.1.runRelease outcome.2) :=
      runRelease_edits (Edits.tidy first tidy) (.inl trivial)
    refine Edits.kept runs own ?_
    rw [same]
    show (env.handles.retire handle').pending? handle = _
    rw [Handles.pending?_retire, if_neg ne]
    exact pending

theorem disposeEach_keeps {P : Environment → Prop} {handles : List HandleId}
    (kept : ∀ env' handle', env'.Tidy → handle' < env'.handles.all.length → P env' →
      P (env'.dispose handle').1)
    (tidy : env.Tidy) (lt : ∀ handle' ∈ handles, handle' < env.handles.all.length) (h : P env) :
    P (disposeEach dispose env handles).1 := by
  induction handles generalizing env with
  | nil => exact h
  | cons head rest ih =>
    have head_lt := lt head List.mem_cons_self
    obtain ⟨later, tidy'⟩ := dispose_later tidy head_lt
    refine ih tidy' (fun handle' hh => ?_) (kept env head tidy head_lt h)
    exact Nat.lt_of_lt_of_le (lt handle' (List.mem_cons_of_mem _ hh)) later.handles

/-- What the release of one handle establishes holds once many handles are disposed and that one is
among them, if further disposals keep it. -/
theorem disposeEach_reaches {P : Environment → Prop} {release : Release} {handle : HandleId}
    {label : String} {handles : List HandleId} (own : ¬Scope.IsProvider release)
    (ran : ∀ env', env.Evolves env' → P (env'.runRelease release))
    (kept : ∀ env' handle', env'.Tidy → handle' < env'.handles.all.length → P env' →
      P (env'.dispose handle').1)
    (tidy : env.Tidy) (lt : ∀ handle' ∈ handles, handle' < env.handles.all.length)
    (mem : handle ∈ handles) (pending : env.handles.pending? handle = some (label, release)) :
    P (disposeEach dispose env handles).1 := by
  induction handles generalizing env with
  | nil => cases mem
  | cons head rest ih =>
    have head_lt := lt head List.mem_cons_self
    obtain ⟨later, tidy'⟩ := dispose_later tidy head_lt
    have rest_lt : ∀ handle' ∈ rest, handle' < (env.dispose head).1.handles.all.length :=
      fun handle' hh =>
        Nat.lt_of_lt_of_le (lt handle' (List.mem_cons_of_mem _ hh)) later.handles
    by_cases here : handle = head
    · -- its turn has come: the release runs now, and whatever follows keeps what it did
      subst here
      have taken : env.take? handle = some ({ env with handles := env.handles.retire handle }.log
          [.disposeHandle label], release) := by
        unfold take?
        rw [pending]
        rfl
      have first : Edits .all env ({ env with handles := env.handles.retire handle }.log
          [.disposeHandle label]) :=
        Edits.log (.single (.retire fun _ _ _ => trivial)) _
      have done : P (env.dispose handle).1 := by
        unfold dispose
        rw [taken]
        exact ran _ (Edits.evolves first)
      show P (disposeEach dispose (env.dispose handle).1 rest).1
      exact disposeEach_keeps kept tidy' rest_lt done
    · refine ih (fun env' after => ran env' (later.trans after)) tidy' rest_lt ?_
        (dispose_keeps tidy own here pending)
      exact (List.mem_cons.mp mem).resolve_left here

/-! ## Disposing what an owner holds -/

theorem disposeAll_eq (env : Environment) (owner : Disposables) :
    ∃ journal, (env.disposeAll owner).1 =
      (disposeEach dispose env owner.held.reverse).1.log journal := by
  unfold disposeAll
  dsimp only
  split
  · exact ⟨[], by simp [Environment.log]⟩
  · exact ⟨_, rfl⟩

variable {owner : Disposables} {handle : HandleId} {label : String}

/-- An owner that disposes the handle of a gate leaves the gate closed. -/
theorem disposeAll_closes (tidy : env.Tidy)
    (lt : ∀ handle' ∈ owner.held, handle' < env.handles.all.length) (mem : handle ∈ owner.held)
    (pending : env.handles.pending? handle = some (label, .gate id)) :
    ((env.disposeAll owner).1.gate id).isEnabled = false := by
  obtain ⟨journal, same⟩ := disposeAll_eq env owner
  rw [same]
  exact @disposeEach_reaches env (fun env => (env.gate id).isEnabled = false) (.gate id) handle
    label _ nofun (fun env' _ => disableGate_closes env' id)
    (fun _ handle' _ _ closed => dispose_closed handle' closed) tidy
    (fun handle' hh => lt handle' (List.mem_reverse.mp hh)) (List.mem_reverse.mpr mem) pending

theorem disposeSession_disposed {session : SessionId}
    (lt : session < env.engine.sessions.length) :
    (env.disposeSession session).1.engine.isDisposed session = true := by
  unfold disposeSession Session.dispose
  cases disposed : env.engine.isDisposed session with
  | true => exact disposed
  | false =>
    show (env.engine.dispose session).isDisposed session = true
    simp [Engine.dispose, Engine.isDisposed, Engine.record, lt]

/-- An owner that disposes the handle of a session leaves the session disposed. -/
theorem disposeAll_disposes {session : SessionId} (tidy : env.Tidy)
    (lt : ∀ handle' ∈ owner.held, handle' < env.handles.all.length) (mem : handle ∈ owner.held)
    (pending : env.handles.pending? handle = some (label, .session session))
    (there : session < env.engine.sessions.length) :
    (env.disposeAll owner).1.engine.isDisposed session = true := by
  obtain ⟨journal, same⟩ := disposeAll_eq env owner
  rw [same]
  refine @disposeEach_reaches env (fun env => env.engine.isDisposed session = true)
    (.session session) handle label _ nofun
    (fun env' later => disposeSession_disposed (Nat.lt_of_lt_of_le there later.sessions))
    (fun env' handle' tidy' lt' disposed => ?_) tidy
    (fun handle' hh => lt handle' (List.mem_reverse.mp hh)) (List.mem_reverse.mpr mem) pending
  exact (dispose_later tidy' lt').1.disposed session disposed

end EngineSync.Environment
