import EngineSync.Proofs.Accounts
import EngineSync.Proofs.Records

/-!
# What is over is over

A handle whose release was taken never gets it back, so disposing it again does nothing, whoever
still names it.  A session records its disposal when it is disposed and at no other time, so the
record has one disposal or none.  And a session that has lost the call it was created by, before it
got an activation, is not heard of again: nobody else has its number.
-/
namespace EngineSync

namespace Environment
variable {env env' : Environment} {handle : HandleId} {session : SessionId} {scope : Scope}

/-! ## Handles -/

/-- A handle that was made and has no release any more. -/
def Spent (handle : HandleId) (env : Environment) : Prop :=
  handle < env.handles.all.length ∧ env.handles.release? handle = none

theorem Evolves.spent (later : env.Evolves env') (spent : Spent handle env) :
    Spent handle env' := by
  obtain ⟨lt, none⟩ := spent
  refine ⟨Nat.lt_of_lt_of_le lt later.handles, ?_⟩
  cases pending : env'.handles.pending? handle with
  | none => simp [Handles.release?, pending]
  | some found => simp [Handles.release?, later.pending handle lt found pending] at none

/-- Disposing a handle that is spent does nothing. -/
theorem Spent.dispose (spent : Spent handle env) :
    env.dispose handle = (env, false) ∧ env.disposePlain handle = (env, false) := by
  have none : env.take? handle = none := by
    have pending : env.handles.pending? handle = Option.none := by
      simpa [Handles.release?] using spent.2
    simp [take?, pending]
  constructor
  · simp only [Environment.dispose, none]
  · simp only [disposePlain, none]

/-- Whoever takes the release of a handle leaves it spent. -/
theorem take?_later {between : Environment} {release : Release}
    (taken : env.take? handle = some (between, release)) :
    Spent handle between ∧ Edits .all env between := by
  obtain ⟨label, pending, rfl⟩ := take?_eq taken
  have edits : Edits .all env ({ env with handles := env.handles.retire handle }.log
      [.disposeHandle label]) :=
    Edits.log (.single (.retire fun _ _ _ => trivial)) _
  refine ⟨⟨?_, (Handles.release?_retire handle).trans (if_pos rfl)⟩, edits⟩
  exact Nat.lt_of_lt_of_le (Handles.lt_of_pending? pending) (Edits.evolves edits).handles

/-- Whoever disposes a handle leaves it spent. -/
theorem spent_of_dispose (tidy : env.Tidy) (ran : (env.dispose handle).2 = true) :
    Spent handle (env.dispose handle).1 := by
  unfold Environment.dispose at ran ⊢
  cases taken : env.take? handle with
  | none => simp [taken] at ran
  | some outcome =>
    obtain ⟨spent, edits⟩ := @take?_later env handle outcome.1 outcome.2 taken
    have runs : Edits .all outcome.1 (outcome.1.runRelease outcome.2) :=
      runRelease_edits (Edits.tidy edits tidy) trivial
    exact (Edits.evolves runs).spent spent

/-- So does whoever disposes a handle whose release disposes no other. -/
theorem spent_of_disposePlain (ran : (env.disposePlain handle).2 = true) :
    Spent handle (env.disposePlain handle).1 := by
  unfold disposePlain at ran ⊢
  cases taken : env.take? handle with
  | none => simp [taken] at ran
  | some outcome =>
    obtain ⟨spent, -⟩ := @take?_later env handle outcome.1 outcome.2 taken
    have runs : Edits .all outcome.1 (outcome.1.releasePlain outcome.2) :=
      releasePlain_edits outcome.1 trivial
    exact (Edits.evolves runs).spent spent

/-- Once a handle was disposed it is spent, whether that ran its release or somebody had before. -/
theorem disposePlain_spends (made : handle < env.handles.all.length) :
    Spent handle (env.disposePlain handle).1 := by
  cases ran : (env.disposePlain handle).2 with
  | true => exact spent_of_disposePlain ran
  | false =>
    unfold disposePlain at ran ⊢
    cases taken : env.take? handle with
    | none =>
      have gone : env.handles.pending? handle = none := Option.map_eq_none_iff.mp taken
      exact ⟨made, by simp [Handles.release?, gone]⟩
    | some outcome => simp [taken] at ran

/-- Handles that are disposed one after another are spent in the end. -/
theorem disposeEach_spends {handles : List HandleId} (tidy : env.Tidy)
    (names : ∀ handle ∈ handles, Names scope env handle) :
    ∀ handle ∈ handles, Spent handle (disposeEach disposePlain env handles).1 := by
  induction handles generalizing env with
  | nil => nofun
  | cons first rest ih =>
    have own := names first List.mem_cons_self
    have disposed : Edits scope env (env.disposePlain first).1 := disposePlain_edits own
    have tidy' := Edits.tidy disposed tidy
    have names' : ∀ handle ∈ rest, Names scope (env.disposePlain first).1 handle :=
      fun handle mem => (names handle (List.mem_cons_of_mem _ mem)).mono (Edits.evolves disposed)
    have later : Edits scope (env.disposePlain first).1
        (disposeEach disposePlain (env.disposePlain first).1 rest).1 :=
      disposeEach_edits disposePlain (fun _ names => disposePlain_edits names) rest tidy' names'
    intro handle mem
    rcases List.mem_cons.mp mem with rfl | mem
    · exact (Edits.evolves later).spent (disposePlain_spends own.1)
    · exact ih tidy' names' handle mem

/-- A gate that is closed leaves every handle that it held spent. -/
theorem spent_of_closing {gate : GateId} (tidy : env.Tidy) (held : handle ∈ (env.gate gate).held) :
    Spent handle (env.setEnabled gate false).1 := by
  have holds := gate_holds env gate tidy
  rw [setEnabled, if_neg Bool.false_ne_true]
  unfold disableGate FeatureGate.takeActive
  cases active : (env.gate gate).active with
  | none => simp [FeatureGate.held, active] at held
  | some handles =>
    have emptied : Edits .all env (env.setGate gate { env.gate gate with active := none }) :=
      .single (.setGate trivial fun _ no => by cases no)
    have names : ∀ handle ∈ handles.reverse,
        Names .all (env.setGate gate { env.gate gate with active := none }) handle := by
      intro handle mem
      have own : handle ∈ (env.gate gate).held := by simpa [FeatureGate.held, active] using mem
      exact (holds.names own).mono (Edits.evolves emptied)
    have mem : handle ∈ handles.reverse := by simpa [FeatureGate.held, active] using held
    exact disposeEach_spends (Edits.tidy emptied tidy) names handle mem

/-! ## Sessions -/

/-- A session that was created has recorded its disposal once if it is disposed, and not at all
otherwise. -/
def Once (session : SessionId) (env : Environment) : Prop :=
  (env.engine.callsOf session).count (.dispose session) =
    if env.engine.isDisposed session then 1 else 0

/-- As many disposals were recorded as before, and the session is up or down as before. -/
theorem Once.of_same (once : Once session env)
    (count : (env'.engine.callsOf session).count (.dispose session) =
      (env.engine.callsOf session).count (.dispose session))
    (disposed : env'.engine.isDisposed session = env.engine.isDisposed session) :
    Once session env' := by
  unfold Once
  rw [count, disposed]
  exact once

theorem Edit.once (edit : Edit scope env env') (lt : session < env.engine.sessions.length)
    (once : Once session env) : Once session env' := by
  cases edit with
  | engine calls sessions claims =>
    refine once.of_same ?_ ?_
    · unfold Engine.callsOf
      rw [calls]
    · unfold Engine.isDisposed
      rw [sessions]
  | load size =>
    exact once.of_same (by simp [Engine.callsOf, Engine.record, EngineCall.session?]) rfl
  | create =>
    have other : env.engine.sessions.length ≠ session := Nat.ne_of_gt lt
    refine once.of_same ?_ ?_
    · simp [Engine.callsOf, Engine.record, EngineCall.session?, other]
    · simp [Engine.isDisposed, Engine.record, List.getElem?_append_left lt]
  | @issue other request names =>
    obtain ⟨granted, permits, issued⟩ := env.engine.issue_eq other request
    refine once.of_same ?_ (by simp [issued, Engine.isDisposed])
    rw [issued]
    by_cases same : other = session <;> simp [Engine.callsOf, EngineCall.session?, same]
  | @dispose other up names =>
    by_cases same : other = session
    · -- it was up, so this is the first disposal
      subst same
      have none : (env.engine.callsOf other).count (.dispose other) = 0 := by
        simpa [Once, up] using once
      have calls : (env.engine.dispose other).callsOf other =
          env.engine.callsOf other ++ [.dispose other] := by
        simp [Engine.callsOf, Engine.dispose, Engine.record, EngineCall.session?]
      have down : (env.engine.dispose other).isDisposed other = true := by
        simp [Engine.dispose, Engine.isDisposed, Engine.record, lt]
      unfold Once
      dsimp only
      rw [calls, down, List.count_append, none]
      simp
    · refine once.of_same ?_ (Engine.isDisposed_dispose (Ne.symm same))
      simp [Engine.callsOf, Engine.dispose, Engine.record, EngineCall.session?, same]
  | _ => exact once

theorem Edits.once (edits : Edits scope env env') (lt : session < env.engine.sessions.length)
    (once : Once session env) : Once session env' := by
  induction edits with
  | refl => exact once
  | tail before step ih =>
    exact step.once (Nat.lt_of_lt_of_le lt (Edits.evolves before).sessions) ih

end Environment

namespace World
variable {world world' : World} {call ghost : Call} {calls : List Call} {id : ActivationId}
  {handle : HandleId} {notes : List WorldNote} {progress : Progress Call CallResult}

/-! ## Spent handles in runs -/

theorem spent_surround (h : Sound world calls) (move : WorldMove)
    (spent : Environment.Spent handle world.env) :
    Environment.Spent handle (world.surround move).env := by
  cases move with
  | release | grant | refuse | files | source | documents | answer => exact spent
  | report uri version diagnostics =>
    have edits : Environment.Edits .all world.env
        (world.env.publishDiagnostics uri version diagnostics) :=
      Environment.publishDiagnostics_edits _ _ _ _ fun _ => trivial
    exact (Environment.Edits.evolves edits).spent spent
  | listen kind number =>
    have edits : Environment.Edits .all world.env (world.env.subscribe kind (.outside number)).1 :=
      Environment.subscribe_edits _ _ trivial
    exact (Environment.Edits.evolves edits).spent spent
  | unlisten number =>
    simp only [surround]
    split <;> exact spent
  | deactivate name =>
    have drops : Environment.Edits (.sessions fun _ => True) world.env (world.drop name).env :=
      h.sessions_drop (fun _ _ => trivial) name
    have dropped := (Environment.Edits.evolves drops).spent spent
    simp only [surround, World.deactivate]
    simp only [World.drop] at dropped
    cases found : world.live? name with
    | none => exact spent
    | some id =>
      rw [found] at dropped
      exact dropped
  | drop name =>
    have drops : Environment.Edits (.sessions fun _ => True) world.env (world.drop name).env :=
      h.sessions_drop (fun _ _ => trivial) name
    exact (Environment.Edits.evolves drops).spent spent
  | disposeSession name =>
    simp only [surround]
    cases found : world.live? name with
    | none => exact spent
    | some id => exact spent
  | route name change =>
    simp only [surround]
    cases found : world.live? name with
    | none => exact spent
    | some id =>
      exact (Environment.Edits.evolves (works_routeNow h.tidy id change).edits).spent spent

theorem spent_tells (handle : HandleId) : Tells fun world calls _ =>
    Sound world calls ∧ Environment.Spent handle world.env where
  tidy h := h.1.tidy
  perm hp h := ⟨h.1.perm hp, h.2⟩
  accept h accepted := ⟨h.1.accepts accepted, h.2⟩
  hop h step := ⟨h.1.hop step, (Environment.Edits.evolves (h.1.sessions_hop step)).spent h.2⟩
  cancel h := ⟨h.1.cancels, (Environment.Edits.evolves h.1.sessions_cancel).spent h.2⟩
  surround move h := ⟨h.1.surrounds move, spent_surround h.1 move h.2⟩

/-- **No release runs twice**: whatever happens, a handle that is spent stays so. -/
theorem spent_run {work : Work World Call CallResult} (h : Sound work.state work.calls)
    (spent : Environment.Spent handle work.state.env)
    (actions : List (Action WorldRequest WorldMove)) :
    Environment.Spent handle (World.machine.run work actions).state.env :=
  (@Machine.Keeps.run _ _ _ _ _ _ _ (spent_tells handle).keeps work ⟨h, spent⟩ actions).2

/-! ## Disposals in runs -/

/-- The session of every activation has recorded at most one disposal. -/
def Disposals (world : World) : Prop :=
  ∀ id < world.activations.length,
    Environment.Once (world.activation id).session world.env

theorem sent_once {session : SessionId} {settings : Settings} {sent : List Document} {env : Environment}
    (calls : env.engine.callsOf session =
      opening session settings ++ sent.map (·.updateCall session))
    (up : env.engine.isDisposed session = false) : Environment.Once session env := by
  have requests : (sent.map (·.updateCall session)).count (.dispose session) = 0 := by
    refine List.count_eq_zero.mpr fun mem => ?_
    obtain ⟨doc, -, same⟩ := List.mem_map.mp mem
    cases same
  unfold Environment.Once
  rw [calls, up, List.count_append, requests]
  simp [opening]

theorem Disposals.hop {history : List WorldNote} (h : Disposals world)
    (sound : Sound world (call :: calls)) (told : ∀ next ∈ call :: calls, Told world history next)
    (hop : Hop world call notes world' progress) : Disposals world' := by
  intro id lt
  by_cases old : id < world.activations.length
  · have same := lasting_belongings.hop sound old (.inr fun _ _ => rfl) hop
    simp only [Activation.belongings, Prod.mk.injEq] at same
    rw [same.1]
    exact Environment.Edits.once (sound.sessions_hop hop) (sound.within old).session (h id old)
  · -- a newcomer has its documents still on their way
    obtain lt' | ⟨waiting, -, next, mem, replays⟩ := Sound.newcomer_hop sound hop lt
    · exact absurd lt' old
    · obtain ⟨name, settings, replay, rfl⟩ := Call.of_replaying replays
      have now := (told_tells.hop ⟨sound, told⟩ hop).2 _ (List.mem_append_left _ mem)
      obtain ⟨docs, -, sending⟩ := Replaying.sending now
      obtain ⟨sent, -, -, recorded⟩ := sending.sent
      exact sent_once recorded sending.disposed

theorem Disposals.cancel (h : Disposals world) (sound : Sound world (call :: calls)) :
    Disposals (world.cancel call) := by
  intro id lt
  rw [Sound.length_cancel] at lt
  have same : ((world.cancel call).activation id).belongings = (world.activation id).belongings :=
    lasting_belongings.cancel world id (.inr fun _ _ => rfl)
  simp only [Activation.belongings, Prod.mk.injEq] at same
  rw [same.1]
  exact Environment.Edits.once sound.sessions_cancel (sound.within lt).session (h id lt)

theorem Disposals.surround (h : Disposals world) (sound : Sound world calls) (move : WorldMove) :
    Disposals (world.surround move) := by
  intro id lt
  rw [Sound.length_surround sound] at lt
  have same := lasting_belongings.surround sound id move
  simp only [Activation.belongings, Prod.mk.injEq] at same
  obtain ⟨env, files, source, docs, edits, moved⟩ := @Sound.sessions_surround _ _ (fun _ => True)
    sound (fun _ _ => trivial) move
  have once := Environment.Edits.once edits (sound.within lt).session (h id lt)
  rw [same.1, moved]
  exact once

theorem disposals_tells : Tells fun world calls history =>
    (Sound world calls ∧ ∀ call ∈ calls, Told world history call) ∧ Disposals world where
  tidy h := h.1.1.tidy
  perm hp h := ⟨told_tells.perm hp h.1, h.2⟩
  accept h accepted := ⟨told_tells.accept h.1 accepted, h.2⟩
  hop h step := ⟨told_tells.hop h.1 step, h.2.hop h.1.1 h.1.2 step⟩
  cancel h := ⟨told_tells.cancel h.1, h.2.cancel h.1.1⟩
  surround move h := ⟨told_tells.surround move h.1, h.2.surround h.1.1 move⟩

/-! ## Sessions that nobody knows -/

/-- A call that is given no chance any more leaves its session to nobody: whatever happens, no call
about the session is recorded. -/
theorem ghost_tells {pair : CollectionId × SessionId} (newborn : ghost.newborn? = some pair)
    (env : Environment) : Tells fun world calls _ =>
      Sound world (ghost :: calls) ∧ Environment.Quiet pair.2 env world.env where
  tidy h := h.1.tidy
  perm hp h := ⟨h.1.perm (hp.cons ghost), h.2⟩
  accept h accepted := ⟨(h.1.accepts accepted).perm (.swap ..), h.2⟩
  hop {_ call calls _ _ _ progress} h step := by
    have first := h.1.perm (.swap call ghost calls)
    have mem : pair ∈ (ghost :: calls).filterMap Call.newborn? :=
      List.mem_filterMap.mpr ⟨ghost, List.mem_cons_self, newborn⟩
    exact ⟨(first.hop step).perm List.perm_middle,
      h.2.trans (first.quiet_newborn mem (first.sessions_hop step))⟩
  cancel {_ call calls _} h := by
    have first := h.1.perm (.swap call ghost calls)
    have mem : pair ∈ (ghost :: calls).filterMap Call.newborn? :=
      List.mem_filterMap.mpr ⟨ghost, List.mem_cons_self, newborn⟩
    exact ⟨first.cancels, h.2.trans (first.quiet_newborn mem first.sessions_cancel)⟩
  surround {_ calls _} move h := by
    have mem : pair ∈ (ghost :: calls).filterMap Call.newborn? :=
      List.mem_filterMap.mpr ⟨ghost, List.mem_cons_self, newborn⟩
    exact ⟨h.1.surrounds move, h.2.trans (h.1.quiet_surround mem move)⟩

theorem ghost_run {work : Work World Call CallResult} {pair : CollectionId × SessionId}
    (h : Sound work.state (ghost :: work.calls)) (newborn : ghost.newborn? = some pair)
    (actions : List (Action WorldRequest WorldMove)) :
    Environment.Quiet pair.2 work.state.env (World.machine.run work actions).state.env :=
  (@Machine.Keeps.run _ _ _ _ _ _ _ (ghost_tells newborn work.state.env).keeps work
    ⟨h, .refl _ _⟩ actions).2

/-- In every world that can be reached, sessions have recorded at most one disposal. -/
theorem disposals_run (outset : Outset) (ledger : Ledger)
    (actions : List (Action WorldRequest WorldMove)) :
    Disposals (World.machine.run (outset.host ledger) actions).state :=
  (@Machine.Tells.run _ _ _ _ _ _ _ _ _ disposals_tells.machine (outset.host ledger) []
    ⟨⟨sound_host outset ledger, List.forall_mem_nil _⟩, nofun⟩ actions).2

end World
end EngineSync
