import EngineSync.Proofs.Barriers

/-!
# Endings

What a teardown leaves behind: the formatting gate is closed, the session is disposed, and the one
call that the session has recorded meanwhile is its disposal.
-/
namespace EngineSync

namespace Environment
variable {env : Environment} {session : SessionId} {calls : List EngineCall} {owner : Disposables}

/-- A session has recorded certain calls and is up, or it has recorded its disposal besides. -/
def Closing (session : SessionId) (calls : List EngineCall) (env : Environment) : Prop :=
  env.engine.callsOf session = calls ∧ env.engine.isDisposed session = false ∨
    env.engine.callsOf session = calls ++ [.dispose session] ∧
      env.engine.isDisposed session = true

theorem closing_runRelease (release : Release) (tidy : env.Tidy)
    (lt : session < env.engine.sessions.length) (h : Closing session calls env) :
    Closing session calls (env.runRelease release) := by
  by_cases own : release = .session session
  · subst own
    show Closing session calls (env.disposeSession session).1
    unfold disposeSession Session.dispose
    rcases h with ⟨recorded, up⟩ | ⟨recorded, down⟩
    · refine .inr ?_
      rw [if_neg (by simp [up])]
      refine ⟨?_, ?_⟩
      · show (env.engine.dispose session).callsOf session = _
        rw [← recorded]
        simp [Engine.dispose, Engine.record, Engine.callsOf, EngineCall.session?]
      · show (env.engine.dispose session).isDisposed session = true
        simp [Engine.dispose, Engine.isDisposed, Engine.record, lt]
    · rw [if_pos down]
      exact .inr ⟨recorded, down⟩
  · have edits := @runRelease_edits (.changing (· = release)) env release tidy (.inl rfl)
    have quiet : Quiet session env (env.runRelease release) :=
      Edits.quiet edits (.inl lt) fun names => by
        rcases names with same | ⟨kind, no⟩
        · exact own same.symm
        · cases no
    unfold Closing
    rw [quiet.calls, quiet.disposed]
    exact h

theorem closing_dispose (handle : HandleId) (tidy : env.Tidy)
    (lt : session < env.engine.sessions.length) (h : Closing session calls env) :
    Closing session calls (env.dispose handle).1 := by
  unfold dispose
  cases taken : env.take? handle with
  | none => exact h
  | some outcome =>
    obtain ⟨label, -, same⟩ := @take?_eq env outcome.1 handle outcome.2 taken
    have first : Edits .all env outcome.1 := by
      rw [same]
      exact Edits.log (.single (.retire fun _ _ _ => trivial)) _
    refine closing_runRelease outcome.2 (Edits.tidy first tidy) ?_ ?_
    · exact Nat.lt_of_lt_of_le lt (Edits.evolves first).sessions
    · rw [same]
      exact h

/-- Whatever an owner disposes, the session records nothing but its disposal. -/
theorem disposeAll_closing (tidy : env.Tidy)
    (lt : ∀ handle ∈ owner.held, handle < env.handles.all.length)
    (there : session < env.engine.sessions.length) (h : Closing session calls env) :
    Closing session calls (env.disposeAll owner).1 := by
  obtain ⟨journal, same⟩ := disposeAll_eq env owner
  rw [same]
  refine (@disposeEach_keeps env
    (fun env => Closing session calls env ∧ session < env.engine.sessions.length) _
    (fun env' handle' tidy' lt' kept => ?_) tidy
    (fun handle' hh => lt handle' (List.mem_reverse.mp hh)) ⟨h, there⟩).1
  exact ⟨closing_dispose handle' tidy' kept.2 kept.1,
    Nat.lt_of_lt_of_le kept.2 (dispose_later tidy' lt').1.sessions⟩

end Environment

namespace World.Sound
variable {world : World} {calls : List Call} {id : ActivationId}

/-- The handles that an activation holds are there. -/
theorem held_lt (h : Sound world calls) (lt : id < world.activations.length) :
    ∀ handle ∈ (world.activation id).owner.held, handle < world.env.handles.all.length :=
  fun handle held => (h.owned.names id _ (core_eq lt) handle held).1

/-- After the teardown the gate is closed and the session is disposed. -/
theorem teardown_ends (h : Sound world calls) (lt : id < world.activations.length)
    (holds : (world.activation id).owner.held ≠ []) :
    ((world.teardown id).1.env.gate (world.activation id).gate).isEnabled = false ∧
      (world.teardown id).1.env.engine.isDisposed (world.activation id).session = true := by
  obtain ⟨handle, mem, label, pending⟩ := h.owned.gate_handle _ (core_mem lt) holds
  obtain ⟨handle', mem', label', pending'⟩ := h.owned.session_handle _ (core_mem lt) holds
  exact ⟨Environment.disposeAll_closes h.tidy (h.held_lt lt) mem pending,
    Environment.disposeAll_disposes h.tidy (h.held_lt lt) mem' pending' (h.within lt).session⟩

/-- The session of an activation that is torn down records its disposal. -/
theorem teardown_calls (h : Sound world calls) (lt : id < world.activations.length)
    (holds : (world.activation id).owner.held ≠ [])
    (up : world.env.engine.isDisposed (world.activation id).session = false) :
    (world.teardown id).1.env.engine.callsOf (world.activation id).session =
      world.env.engine.callsOf (world.activation id).session ++
        [.dispose (world.activation id).session] := by
  have closing := Environment.disposeAll_closing h.tidy (h.held_lt lt) (h.within lt).session
    (.inl ⟨rfl, up⟩)
  have down := (h.teardown_ends lt holds).2
  rcases closing with ⟨-, still⟩ | ⟨recorded, -⟩
  · exact absurd (still.symm.trans down) Bool.false_ne_true
  · exact recorded

variable {name : String} {settings : Settings} {replay : Replay}

/-- The session of an activation that is abandoned records its disposal. -/
theorem abandon_calls (h : Sound world (.activate name (.replaying id settings replay) :: calls))
    (up : world.env.engine.isDisposed (world.activation id).session = false) :
    (world.abandon id).env.engine.callsOf (world.activation id).session =
      world.env.engine.callsOf (world.activation id).session ++
        [.dispose (world.activation id).session] := by
  obtain ⟨moved, lt, own⟩ := h.abandoning
  have torn := @teardown_calls _ calls id moved lt
  rw [own] at torn
  exact torn (h.orderly.replaying id List.mem_cons_self).2 up

end World.Sound
end EngineSync
