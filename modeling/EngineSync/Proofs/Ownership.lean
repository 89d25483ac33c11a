import EngineSync.Proofs.Work

/-!
# Who owns what

Every activation has a session, a collection and a gate that nobody else has, and so has every
session that was created for an activation that is still to come, a gate apart.  The handles of an
activation release what belongs to it, and as long as it holds any, the ones that end its session
and close its gate are among them.  `Owned` says so of the activations with their lanes and barriers
left out, so that work makes no difference to it; only registering and tearing down do.
-/
namespace EngineSync

/-- The activations with their lanes and barriers left out. -/
def World.cores (world : World) : List Activation :=
  world.activations.map Activation.core

/-- An activation that holds nothing any more. -/
def Activation.released (activation : Activation) : Activation :=
  { activation with owner := .empty }

/-- Every activation, and every session that is still without one, has its own things. -/
structure Owned (env : Environment) (cores : List Activation)
    (newborn : List (CollectionId × SessionId)) : Prop where
  tidy : env.Tidy
  unborn : ∀ session, env.engine.sessions.length ≤ session →
    env.engine.callsOf session = [] ∧ env.engine.claimsOf session = []
  within : ∀ core ∈ cores, core.Within env
  newborn_within : ∀ pair ∈ newborn, pair.1 < env.collections.length ∧
    pair.2 < env.engine.sessions.length
  sessions : (newborn.map (·.2) ++ cores.map (·.session)).Nodup
  collections : (newborn.map (·.1) ++ cores.map (·.collection)).Nodup
  gates : (cores.map (·.gate)).Nodup
  names : ∀ (id : ActivationId) core, cores[id]? = some core → ∀ handle ∈ core.owner.held,
    Environment.Names (core.scope id env) env handle
  session_handle : ∀ core ∈ cores, core.owner.held ≠ [] → ∃ handle ∈ core.owner.held,
    ∃ label, env.handles.pending? handle = some (label, .session core.session)
  gate_handle : ∀ core ∈ cores, core.owner.held ≠ [] → ∃ handle ∈ core.owner.held,
    ∃ label, env.handles.pending? handle = some (label, .gate core.gate)

namespace Owned
variable {env env' : Environment} {cores : List Activation} {collection : CollectionId}
  {session : SessionId} {newborn newborn' : List (CollectionId × SessionId)} {id id' : ActivationId}
  {core core' : Activation}

/-! ## What belongs to one is no other's -/

/-- A list without repetitions has a value at one place only. -/
theorem ne_of_nodup {α β : Type} {f : α → β} {list : List α} (h : (list.map f).Nodup) {i j : Nat}
    {a b : α} (ha : list[i]? = some a) (hb : list[j]? = some b) (ne : i ≠ j) : f a ≠ f b := by
  intro same
  have ha' : (list.map f)[i]? = some (f a) := by simp [ha]
  have hb' : (list.map f)[j]? = some (f a) := by simp [hb, same]
  have lt := (List.getElem?_eq_some_iff.mp ha').1
  exact ne ((List.getElem?_inj lt h).mp (ha'.trans hb'.symm))

theorem session_ne (h : Owned env cores newborn) (own : cores[id]? = some core)
    (other : cores[id']? = some core') (ne : id' ≠ id) : core'.session ≠ core.session :=
  ne_of_nodup (List.nodup_append.mp h.sessions).2.1 other own ne

theorem collection_ne (h : Owned env cores newborn) (own : cores[id]? = some core)
    (other : cores[id']? = some core') (ne : id' ≠ id) : core'.collection ≠ core.collection :=
  ne_of_nodup (List.nodup_append.mp h.collections).2.1 other own ne

theorem gate_ne (h : Owned env cores newborn) (own : cores[id]? = some core)
    (other : cores[id']? = some core') (ne : id' ≠ id) : core'.gate ≠ core.gate :=
  ne_of_nodup h.gates other own ne

/-- The session of an activation is no newborn one. -/
theorem newborn_ne (h : Owned env cores newborn) (own : core ∈ cores)
    {pair : CollectionId × SessionId} (hp : pair ∈ newborn) :
    pair.1 ≠ core.collection ∧ pair.2 ≠ core.session :=
  ⟨(List.nodup_append.mp h.collections).2.2 _ (List.mem_map_of_mem hp) _ (List.mem_map_of_mem own),
    (List.nodup_append.mp h.sessions).2.2 _ (List.mem_map_of_mem hp) _ (List.mem_map_of_mem own)⟩

/-- Whatever belongs to one activation avoids every other. -/
theorem avoids_owns (h : Owned env cores newborn) (own : cores[id]? = some core)
    (other : cores[id']? = some core') (ne : id' ≠ id) {release : Release}
    (owns : core'.Owns id' env release) : release.Avoids id core env := by
  cases release with
  | session number => exact owns ▸ h.session_ne own other ne
  | diagnostics number => exact owns ▸ h.collection_ne own other ne
  | provider kind => trivial
  | subscription number =>
    intro sub hs he listens
    rw [owns.2 sub hs he] at listens
    exact ne (Listener.activation.inj listens)
  | gate number => exact owns ▸ h.gate_ne own other ne

/-- What an activation works on avoids every other. -/
theorem avoids_work (h : Owned env cores newborn) (own : cores[id]? = some core)
    (other : cores[id']? = some core') (ne : id' ≠ id) {release : Release}
    (works : core'.work.changes release) : release.Avoids id core env := by
  rcases works with (rfl | rfl | rfl) | ⟨kind, rfl⟩
  · exact h.session_ne own other ne
  · exact h.collection_ne own other ne
  · exact h.gate_ne own other ne
  · trivial

/-! ## What happens to it -/

/-- Nothing is known of sessions that are not created yet. -/
theorem unborn_later {scope : Scope} (h : Owned env cores newborn)
    (edits : Environment.Edits scope env env')
    (bounds : ∀ session, scope.changes (.session session) →
      session < env'.engine.sessions.length) (session : SessionId)
    (le : env'.engine.sessions.length ≤ session) :
    env'.engine.callsOf session = [] ∧ env'.engine.claimsOf session = [] := by
  have quiet := Environment.Edits.quiet edits (.inr le) fun names =>
    absurd le (Nat.not_le_of_lt (bounds session names))
  obtain ⟨calls, claims⟩ :=
    h.unborn session (Nat.le_trans (Environment.Edits.evolves edits).sessions le)
  exact ⟨quiet.calls.trans calls, List.sublist_nil.mp (claims ▸ quiet.claims)⟩

/-- Edits that take no handles but those of providers leave everybody with their own. -/
theorem evolve {scope : Scope} (h : Owned env cores newborn)
    (edits : Environment.Edits scope env env')
    (takes : ∀ release, scope.takes release → Scope.IsProvider release)
    (bounds : ∀ session, scope.changes (.session session) →
      session < env'.engine.sessions.length) : Owned env' cores newborn where
  tidy := Environment.Edits.tidy edits h.tidy
  unborn := h.unborn_later edits bounds
  within core hc := (Environment.Edits.evolves edits).within (h.within core hc)
  newborn_within pair hp := by
    have later := Environment.Edits.evolves edits
    obtain ⟨collection, session⟩ := h.newborn_within pair hp
    exact ⟨Nat.lt_of_lt_of_le collection later.collections,
      Nat.lt_of_lt_of_le session later.sessions⟩
  sessions := h.sessions
  collections := h.collections
  gates := h.gates
  names id core hc handle hh :=
    (Environment.Edits.evolves edits).names (h.names id core hc handle hh)
  session_handle core hc held := by
    obtain ⟨handle, hh, label, pending⟩ := h.session_handle core hc held
    refine ⟨handle, hh, label, Environment.Edits.kept edits (fun taken => ?_) pending⟩
    obtain ⟨kind, other⟩ := takes _ taken
    cases other
  gate_handle core hc held := by
    obtain ⟨handle, hh, label, pending⟩ := h.gate_handle core hc held
    refine ⟨handle, hh, label, Environment.Edits.kept edits (fun taken => ?_) pending⟩
    obtain ⟨kind, other⟩ := takes _ taken
    cases other

/-- A session may be forgotten before it has an activation. -/
theorem forget (h : Owned env cores newborn) (fewer : newborn'.Sublist newborn) :
    Owned env cores newborn' where
  tidy := h.tidy
  unborn := h.unborn
  within := h.within
  newborn_within pair hp := h.newborn_within pair (fewer.subset hp)
  sessions := h.sessions.sublist ((fewer.map _).append_right _)
  collections := h.collections.sublist ((fewer.map _).append_right _)
  gates := h.gates
  names := h.names
  session_handle := h.session_handle
  gate_handle := h.gate_handle

theorem perm (h : Owned env cores newborn) (hp : newborn.Perm newborn') :
    Owned env cores newborn' where
  tidy := h.tidy
  unborn := h.unborn
  within := h.within
  newborn_within pair hp' := h.newborn_within pair (hp.mem_iff.mpr hp')
  sessions := ((hp.map _).append_right _).nodup_iff.mp h.sessions
  collections := ((hp.map _).append_right _).nodup_iff.mp h.collections
  gates := h.gates
  names := h.names
  session_handle := h.session_handle
  gate_handle := h.gate_handle

/-- What is read from outside makes no difference. -/
theorem outside (h : Owned env cores newborn) (files : FileTree) (source : SettingsSource)
    (openDocuments : List Document) :
    Owned { env with files, source, openDocuments } cores newborn where
  tidy := ⟨h.tidy.gates, h.tidy.subscriptions⟩
  unborn := h.unborn
  within core hc := ⟨(h.within core hc).session, (h.within core hc).collection,
    (h.within core hc).gate⟩
  newborn_within := h.newborn_within
  sessions := h.sessions
  collections := h.collections
  gates := h.gates
  names := h.names
  session_handle := h.session_handle
  gate_handle := h.gate_handle

/-! ## Tearing down -/

/-- One value of a list is replaced by another that looks the same. -/
theorem map_set_same {α β : Type} {f : α → β} {list : List α} {i : Nat} {a b : α}
    (found : list[i]? = some a) (same : f b = f a) : (list.set i b).map f = list.map f := by
  obtain ⟨lt, rfl⟩ := List.getElem?_eq_some_iff.mp found
  rw [List.map_set, same, ← List.getElem_map f (h := by simpa using lt)]
  exact List.set_getElem_self _

/-- The others are at their places, and the one that was torn down holds nothing. -/
theorem mem_torn (own : cores[id]? = some core)
    (hc : core' ∈ cores.set id core.released) :
    core' = core.released ∨ ∃ id', id' ≠ id ∧ cores[id']? = some core' := by
  obtain ⟨id', at_place⟩ := List.getElem?_of_mem hc
  by_cases same : id' = id
  · subst same
    rw [List.getElem?_set_self (List.getElem?_eq_some_iff.mp own).1] at at_place
    exact .inl (Option.some.inj at_place).symm
  · rw [List.getElem?_set_ne (Ne.symm same)] at at_place
    exact .inr ⟨id', same, at_place⟩

theorem teardown_edits (h : Owned env cores newborn) (own : cores[id]? = some core) :
    Environment.Edits (core.scope id env) env (env.disposeAll core.owner).1 :=
  Environment.disposeAll_edits core.owner h.tidy (h.names id core own)

theorem teardown (h : Owned env cores newborn) (own : cores[id]? = some core) :
    Owned (env.disposeAll core.owner).1 (cores.set id core.released) newborn := by
  have edits := h.teardown_edits own
  have later := Environment.Edits.evolves edits
  have mem := List.mem_of_getElem? own
  refine {
    tidy := Environment.Edits.tidy edits h.tidy
    unborn := h.unborn_later edits fun session owns =>
      owns ▸ (later.within (h.within core mem)).session
    within := fun core' hc => ?_
    newborn_within := fun pair hp => ?_
    sessions := by rw [map_set_same own (b := core.released) rfl]; exact h.sessions
    collections := by rw [map_set_same own (b := core.released) rfl]; exact h.collections
    gates := by rw [map_set_same own (b := core.released) rfl]; exact h.gates
    names := fun id' core' hc handle hh => ?_
    session_handle := fun core' hc held => ?_
    gate_handle := fun core' hc held => ?_ }
  · rcases mem_torn own hc with rfl | ⟨id', -, other⟩
    · obtain ⟨session, collection, gate⟩ := later.within (h.within core mem)
      exact ⟨session, collection, gate⟩
    · exact later.within (h.within core' (List.mem_of_getElem? other))
  · obtain ⟨collection, session⟩ := h.newborn_within pair hp
    exact ⟨Nat.lt_of_lt_of_le collection later.collections,
      Nat.lt_of_lt_of_le session later.sessions⟩
  · by_cases same : id' = id
    · subst same
      rw [List.getElem?_set_self (List.getElem?_eq_some_iff.mp own).1] at hc
      cases hc
      cases hh
    · rw [List.getElem?_set_ne (Ne.symm same)] at hc
      exact later.names (h.names id' core' hc handle hh)
  · rcases mem_torn own hc with rfl | ⟨id', ne, other⟩
    · exact absurd rfl held
    · obtain ⟨handle, hh, label, pending⟩ :=
        h.session_handle core' (List.mem_of_getElem? other) held
      refine ⟨handle, hh, label, Environment.Edits.kept edits (fun taken => ?_) pending⟩
      exact h.session_ne own other ne taken
  · rcases mem_torn own hc with rfl | ⟨id', ne, other⟩
    · exact absurd rfl held
    · obtain ⟨handle, hh, label, pending⟩ :=
        h.gate_handle core' (List.mem_of_getElem? other) held
      refine ⟨handle, hh, label, Environment.Edits.kept edits (fun taken => ?_) pending⟩
      exact h.gate_ne own other ne taken

/-! ## Coming up -/

/-- A session that was just created has no activation yet. -/
theorem began {world : World} {session : SessionId} {profile : Profile} {ticket : TicketId}
    (h : Owned world.env cores newborn)
    (opened : world.prepared.openSession world.modulePath
      (some world.env.collections.length) = (env, .ok session))
    (applied : env.applyProfile session profile = (env', .ok ticket)) :
    Owned env' cores ((world.env.collections.length, session) :: newborn) := by
  have edits := World.began_edits opened applied
  obtain ⟨created, -, size, granted, permits, journal, made⟩ := World.began_eq opened applied
  have sessions : env'.engine.sessions.length = session + 1 := by simp [made, created]
  have collections : env'.collections.length = world.env.collections.length + 1 := by simp [made]
  have same := h.evolve edits (fun _ taken => taken) (fun other names => by
    rcases names with he | ⟨kind, he⟩
    · cases he
      exact sessions ▸ Nat.lt_succ_self session
    · cases he)
  refine { same with
    newborn_within := fun pair hp => ?_
    sessions := ?_
    collections := ?_ }
  · rcases List.mem_cons.mp hp with rfl | hp
    · exact ⟨collections ▸ Nat.lt_succ_self _, sessions ▸ Nat.lt_succ_self _⟩
    · exact same.newborn_within pair hp
  · refine List.nodup_cons.mpr ⟨fun mem => ?_, h.sessions⟩
    rcases List.mem_append.mp mem with mem | mem
    · obtain ⟨pair, hp, he⟩ := List.mem_map.mp mem
      exact absurd (he.trans created) (Nat.ne_of_lt (h.newborn_within pair hp).2)
    · obtain ⟨core, hc, he⟩ := List.mem_map.mp mem
      exact absurd (he.trans created) (Nat.ne_of_lt (h.within core hc).session)
  · refine List.nodup_cons.mpr ⟨fun mem => ?_, h.collections⟩
    rcases List.mem_append.mp mem with mem | mem
    · obtain ⟨pair, hp, he⟩ := List.mem_map.mp mem
      exact absurd he (Nat.ne_of_lt (h.newborn_within pair hp).1)
    · obtain ⟨core, hc, he⟩ := List.mem_map.mp mem
      exact absurd he (Nat.ne_of_lt (h.within core hc).collection)

/-- A newcomer takes over a session that was without an activation. -/
theorem welcome (h : Owned env cores ((collection, session) :: newborn)) (language : String)
    (formatting : Bool) :
    Owned (Activation.install env language cores.length session collection formatting).1
      (cores ++ [(Activation.install env language cores.length session collection
        formatting).2.core]) newborn := by
  have edits := Activation.install_edits language cores.length session collection formatting h.tidy
  have gate := @Activation.install_gate env language cores.length session collection formatting
  have gate_lt := Activation.install_gate_lt language cores.length session collection formatting
    h.tidy
  have same := h.evolve edits (fun _ taken => taken) (fun other names => by
    rcases names with he | ⟨kind, he⟩ <;> cases he)
  obtain ⟨collection_lt, session_lt⟩ := same.newborn_within _ List.mem_cons_self
  have mem {core : Activation} (hc : core ∈ cores ++ [(Activation.install env language
      cores.length session collection formatting).2.core]) :
      core ∈ cores ∨ core = (Activation.install env language cores.length session collection
        formatting).2.core := by
    simpa using hc
  refine {
    tidy := same.tidy
    unborn := same.unborn
    within := fun core hc => ?_
    newborn_within := fun pair hp => same.newborn_within pair (List.mem_cons_of_mem _ hp)
    sessions := ?_
    collections := ?_
    gates := ?_
    names := fun id core hc handle hh => ?_
    session_handle := fun core hc held => ?_
    gate_handle := fun core hc held => ?_ }
  · rcases mem hc with old | rfl
    · exact same.within core old
    · exact ⟨session_lt, collection_lt, gate ▸ gate_lt⟩
  · rw [List.map_append, ← List.append_assoc]
    exact (List.perm_append_singleton _ _).nodup_iff.mpr h.sessions
  · rw [List.map_append, ← List.append_assoc]
    exact (List.perm_append_singleton _ _).nodup_iff.mpr h.collections
  · rw [List.map_append]
    refine (List.perm_append_singleton _ _).nodup_iff.mpr (List.nodup_cons.mpr ⟨?_, h.gates⟩)
    intro old
    obtain ⟨core, hc, he⟩ := List.mem_map.mp old
    exact absurd (he.trans gate) (Nat.ne_of_lt (h.within core hc).gate)
  · by_cases old : id < cores.length
    · rw [List.getElem?_append_left old] at hc
      exact same.names id core hc handle hh
    · have last : id = cores.length := by
        have lt := (List.getElem?_eq_some_iff.mp hc).1
        rw [List.length_append, List.length_singleton] at lt
        exact Nat.le_antisymm (Nat.le_of_lt_succ lt) (Nat.le_of_not_lt old)
      subst last
      rw [List.getElem?_append_right (Nat.le_refl _), Nat.sub_self] at hc
      cases hc
      exact Activation.install_names language cores.length session collection formatting h.tidy
        handle hh
  · rcases mem hc with old | rfl
    · exact same.session_handle core old held
    · exact Activation.install_session_handle language cores.length session collection formatting
        h.tidy
  · rcases mem hc with old | rfl
    · exact same.gate_handle core old held
    · obtain ⟨handle, hh, label, pending⟩ := @Activation.install_gate_handle env language
        cores.length session collection formatting
      refine ⟨handle, hh, label, pending.trans ?_⟩
      exact congrArg (fun number => some (label, Release.gate number)) gate.symm

end Owned
end EngineSync
