import EngineSync.Proofs.Sound

/-!
# Bystanders

What is done for one activation leaves every other one as it is: its session, its gate, its
diagnostics, its subscriptions and its lanes.  In a sound world that can be said of every step,
every call that is given up and every move of the surroundings, as long as it is not about the
activation itself.
-/
namespace EngineSync
namespace World

/-- An activation is as it was, with everything that belongs to it. -/
structure Leaves (id : ActivationId) (world world' : World) : Prop where
  activation : world'.activation id = world.activation id
  length : world.activations.length ≤ world'.activations.length
  live : ∀ name, (name, id) ∈ world'.live ↔ (name, id) ∈ world.live
  spares : Environment.Spares id (world.activation id) world.env world'.env

namespace Leaves
variable {world world' world'' : World} {id : ActivationId}

theorem refl (id : ActivationId) (world : World) : Leaves id world world :=
  ⟨rfl, Nat.le_refl _, fun _ => Iff.rfl, .refl id _ _⟩

theorem trans (h : Leaves id world world') (h' : Leaves id world' world'') :
    Leaves id world world'' := by
  refine ⟨h'.activation.trans h.activation, Nat.le_trans h.length h'.length,
    fun name => (h'.live name).trans (h.live name), h.spares.trans ?_⟩
  have later := h'.spares
  rwa [h.activation] at later

end Leaves

/-- An activation is as it was, with its session and its gate; its diagnostics may have changed. -/
structure Rests (id : ActivationId) (world world' : World) : Prop where
  activation : world'.activation id = world.activation id
  length : world.activations.length ≤ world'.activations.length
  live : ∀ name, (name, id) ∈ world'.live ↔ (name, id) ∈ world.live
  quiet : Environment.Quiet (world.activation id).session world.env world'.env
  gate : world'.env.gates[(world.activation id).gate]? = world.env.gates[(world.activation id).gate]?

theorem Leaves.rests {world world' : World} {id : ActivationId} (h : Leaves id world world') :
    Rests id world world' :=
  ⟨h.activation, h.length, h.live, h.spares.quiet, h.spares.gate⟩

namespace Rests
variable {world world' world'' : World} {id : ActivationId}

theorem refl (id : ActivationId) (world : World) : Rests id world world :=
  (Leaves.refl id world).rests

theorem trans (h : Rests id world world') (h' : Rests id world' world'') :
    Rests id world world'' := by
  obtain ⟨activation, length, live, quiet, gate⟩ := h'
  rw [h.activation] at activation quiet gate
  exact ⟨activation, Nat.le_trans h.length length, fun name => (live name).trans (h.live name),
    h.quiet.trans quiet, gate.trans h.gate⟩

theorem isEnabled (h : Rests id world world') :
    (world'.env.gate (world'.activation id).gate).isEnabled =
      (world.env.gate (world.activation id).gate).isEnabled := by
  rw [h.activation, Environment.gate, Environment.gate, Environment.formattingGate,
    Environment.formattingGate, h.gate]

end Rests

namespace Sound
variable {world world' : World} {call : Call} {calls : List Call} {id id' : ActivationId}
  {env : Environment} {scope : Scope}

/-! ## Single operations -/

theorem leaves_edits (h : Sound world calls) (lt : id < world.activations.length)
    (edits : Environment.Edits scope world.env env)
    (avoids : ∀ release, scope.changes release →
      release.Avoids id (world.activation id) world.env)
    (others : ∀ listener, scope.listens listener → listener ≠ .activation id) :
    Leaves id world { world with env } :=
  ⟨rfl, Nat.le_refl _, fun _ => Iff.rfl,
    Environment.Edits.spares edits (h.within lt) avoids others⟩

theorem leaves_plain (h : Sound world calls) (lt : id < world.activations.length)
    (edits : Environment.Edits .plain world.env env) : Leaves id world { world with env } := by
  refine h.leaves_edits lt edits (fun release names => ?_) (fun _ no => no.elim)
  rcases names with no | ⟨kind, rfl⟩
  · exact no.elim
  · trivial

/-- What is done for a session that is still without an activation. -/
theorem leaves_session (h : Sound world calls) (lt : id < world.activations.length)
    {session : SessionId} (ne : session ≠ (world.activation id).session)
    (edits : Environment.Edits (.changing (· = .session session)) world.env env) :
    Leaves id world { world with env } := by
  refine h.leaves_edits lt edits (fun release names => ?_) (fun _ no => no.elim)
  rcases names with rfl | ⟨kind, rfl⟩
  · exact ne
  · trivial

theorem leaves_works (h : Sound world calls) (lt : id < world.activations.length)
    (lt' : id' < world.activations.length) (ne : id' ≠ id) (works : Works id' world world') :
    Leaves id world world' := by
  obtain ⟨lanes, activations⟩ := works.activations
  have same : world'.activation id = world.activation id := by
    unfold World.activation
    rw [activations, List.getElem?_set_ne ne]
  refine ⟨same, Nat.le_of_eq works.calm.length.symm, fun name => by rw [works.live], ?_⟩
  refine Environment.Edits.spares works.edits (h.within lt) (fun release names => ?_)
    (fun _ no => no.elim)
  exact h.owned.avoids_work (core_eq lt) (core_eq lt') ne names

theorem leaves_teardown (h : Sound world calls) (lt : id < world.activations.length)
    (lt' : id' < world.activations.length) (ne : id' ≠ id) {live : List (String × ActivationId)}
    (same : ∀ name, (name, id) ∈ live ↔ (name, id) ∈ world.live) :
    Leaves id world { (world.teardown id').1 with live } := by
  refine ⟨?_, Nat.le_of_eq (List.length_set ..).symm, same, ?_⟩
  · refine (activation_setActivation _ id' id _).trans ?_
    rw [if_neg fun here => ne here.1.symm]
    rfl
  · have edits := h.owned.teardown_edits (core_eq lt')
    refine Environment.Edits.spares edits (h.within lt) (fun release names => ?_)
      (fun _ no => no.elim)
    exact h.owned.avoids_owns (core_eq lt) (core_eq lt') ne names

theorem leaves_setBarrier (world : World) (ne : id' ≠ id) (barrier : Barrier) :
    Leaves id world (world.setBarrier id' barrier) := by
  refine ⟨?_, Nat.le_of_eq (List.length_set ..).symm, fun _ => Iff.rfl, .refl id _ _⟩
  refine (activation_setActivation world id' id _).trans ?_
  rw [if_neg fun here => ne here.1.symm]

theorem leaves_welcome (h : Sound world calls) (lt : id < world.activations.length)
    (collection : CollectionId) (session : SessionId) (settings : Settings) :
    Leaves id world (world.welcome collection session settings) := by
  refine ⟨?_, ?_, fun _ => Iff.rfl, ?_⟩
  · rw [activation_welcome, if_neg (Nat.ne_of_lt lt)]
  · rw [World.welcome, List.length_append]
    exact Nat.le_add_right _ _
  · have edits := Activation.install_edits world.language world.activations.length session
      collection settings.formatting h.tidy
    refine Environment.Edits.spares edits (h.within lt) (fun release names => ?_)
      (fun listener names => ?_)
    · rcases names with rfl | ⟨kind, rfl⟩
      · exact Nat.ne_of_gt (h.within lt).gate
      · trivial
    · rw [names]
      exact fun same => Nat.ne_of_gt lt (Listener.activation.inj same)

theorem lookup_mem {name : String} (found : world.live? name = some id) :
    (name, id) ∈ world.live := by
  obtain ⟨before, after, split, -⟩ := List.lookup_eq_some_iff.mp found
  rw [split]
  simp

/-- Whoever is not live under a name is not concerned by its end. -/
theorem leaves_drop (h : Sound world calls) (lt : id < world.activations.length) {name : String}
    (other : (name, id) ∉ world.live) : Leaves id world (world.drop name) := by
  unfold World.drop
  cases found : world.live? name with
  | none => exact .refl id world
  | some id' =>
    have ne : id' ≠ id := fun same => other (same ▸ lookup_mem found)
    refine h.leaves_teardown lt (h.live_lt found) ne fun name' => ?_
    refine List.mem_filter.trans (and_iff_left_of_imp fun mem => decide_eq_true ?_)
    rintro rfl
    exact other mem

theorem leaves_deactivate (h : Sound world calls) (lt : id < world.activations.length)
    {name : String} (other : (name, id) ∉ world.live) :
    Leaves id world (world.deactivate name) := by
  have dropped := h.leaves_drop lt other
  have sound := h.drop name
  unfold World.drop at dropped sound
  unfold World.deactivate
  cases found : world.live? name with
  | none => exact .refl id world
  | some id' =>
    simp only [found] at dropped sound
    have there := Nat.lt_of_lt_of_le lt dropped.length
    exact dropped.trans (sound.leaves_plain there (Environment.log_edits _ _))

/-! ## Steps -/

variable {name : String} {settings : Settings} {replay : Replay} {total : Nat}

theorem leaves_abandon (h : Sound world (.activate name (.replaying id' settings replay) :: calls))
    (lt : id < world.activations.length) (ne : id' ≠ id) :
    Leaves id world (world.abandon id') := by
  obtain ⟨moved, lt', -⟩ := h.abandoning
  have length : (world.setBarrier id' .abandoned).activations.length = world.activations.length :=
    List.length_set ..
  refine (leaves_setBarrier world ne .abandoned).trans ?_
  exact moved.leaves_teardown (length ▸ lt) lt' ne fun _ => Iff.rfl

/-- An activation that is ready may replace a live one, but it leaves the others alone. -/
theorem leaves_finishActivate
    (h : Sound world (.activate name (.replaying id' settings replay) :: calls))
    (lt : id < world.activations.length) (ne : id' ≠ id) (other : (name, id) ∉ world.live) :
    Leaves id world (world.finishActivate name id' settings total) := by
  have opened : Sound (world.setBarrier id' .open) calls :=
    h.ended.setBarrier h.replaying_only.1 (.inl rfl)
  have length : (world.setBarrier id' .open).activations.length = world.activations.length :=
    List.length_set ..
  refine (leaves_setBarrier world ne .open).trans
    ((opened.leaves_plain (length ▸ lt) (Environment.log_edits _ _)).trans
      (((h.readied total).leaves_drop (length ▸ lt) other).trans ?_))
  refine ⟨rfl, Nat.le_refl _, fun name' => ?_, .refl id _ _⟩
  refine List.mem_append.trans (or_iff_left fun mem => ?_)
  exact ne (congrArg Prod.snd (List.mem_singleton.mp mem)).symm

theorem leaves_listens {event : Event} {listener : ListenerCall}
    {waiting : List (Subscription Listener)} {notes : List WorldNote}
    {progress : Progress ListenerCall (Except EngineFailure Unit)}
    (h : Sound world (.publish (.delivering ⟨event, some listener, waiting⟩) :: calls))
    (lt : id < world.activations.length) (idle : listener.worksFor? ≠ some id)
    (hop : ListenerHop event world listener notes world' progress) : Leaves id world world' := by
  cases hop with
  | pass | take | answered => exact .refl id world
  | forward id' forwarding =>
    have lt' : id' < world.activations.length := h.lt_of_ids List.mem_cons_self
    exact h.leaves_works lt lt' (fun same => idle (same ▸ rfl)) (works_forwarding world id' forwarding)
  | route id' route =>
    have lt' : id' < world.activations.length := h.lt_of_ids List.mem_cons_self
    exact h.leaves_works lt lt' (fun same => idle (same ▸ rfl)) (works_routing h.tidy id' route)

/-- **A step leaves every activation alone that it does not work for**, that it does not replay, and
whose place it does not take. -/
theorem leaves_hop {notes : List WorldNote} {progress : Progress Call CallResult}
    (h : Sound world (call :: calls)) (lt : id < world.activations.length)
    (idle : call.worksFor? ≠ some id) (still : call.replaying? ≠ some id)
    (other : ∀ name stage, call = .activate name stage → progress = .finished .active →
      (name, id) ∉ world.live)
    (hop : Hop world call notes world' progress) : Leaves id world world' := by
  cases hop with
  | refused opened =>
    refine h.leaves_plain lt ?_
    exact Relation.ReflTransGen.trans (Environment.makeCollection_edits _)
      (Relation.ReflTransGen.trans (Environment.snapshot_edits _)
        (Environment.openSession_refused opened))
  | @began name opened session applied ticket made applies =>
    have created := (began_eq made applies).1
    refine h.leaves_session lt (fun same => ?_) (began_edits made applies)
    exact absurd (same.symm.trans created) (Nat.ne_of_lt (h.within lt).session)
  | @rejected name collection session settings ticket env failure collected =>
    have away := (h.owned.newborn_ne (core_mem lt) (List.mem_cons_self ..)).2
    have collects := h.leaves_plain lt (Environment.collectProfile?_edits collected)
    refine collects.trans ((h.collects collected).leaves_session lt away ?_)
    exact Environment.disposeSession_edits _ (.inl rfl)
  | @subscribed name collection session settings ticket env collected =>
    have collects := h.leaves_plain lt (Environment.collectProfile?_edits collected)
    exact collects.trans ((h.collects collected).leaves_welcome lt collection session settings)
  | @replay name id' settings replay sync replay' polled =>
    have lt' : id' < world.activations.length := h.lt_of_ids List.mem_cons_self
    exact h.leaves_works lt lt' (fun same => still (same ▸ rfl)) (works_pollReplay polled)
  | @ready name id' settings replay sync count polled =>
    have lt' : id' < world.activations.length := h.lt_of_ids List.mem_cons_self
    have ne : id' ≠ id := fun same => still (same ▸ rfl)
    have works := works_pollReplay polled
    have worked := h.leaves_works lt lt' ne works
    refine worked.trans ((h.works lt' works).leaves_finishActivate ?_ ne ?_)
    · exact Nat.lt_of_lt_of_le lt worked.length
    · exact fun live => other name _ rfl rfl ((worked.live name).mp live)
  | @failed name id' settings replay sync failure polled =>
    have lt' : id' < world.activations.length := h.lt_of_ids List.mem_cons_self
    have ne : id' ≠ id := fun same => still (same ▸ rfl)
    have works := works_pollReplay polled
    have worked := h.leaves_works lt lt' ne works
    exact worked.trans ((h.works lt' works).leaves_abandon (Nat.lt_of_lt_of_le lt worked.length) ne)
  | publish event => exact h.leaves_plain lt (Environment.log_edits _ _)
  | call event next waiting =>
    unfold startListener
    cases next.listener with
    | activation id' => exact .refl id world
    | outside number => exact ⟨rfl, Nat.le_refl _, fun _ => Iff.rfl, .refl id _ _⟩
  | listen hop => exact h.leaves_listens lt idle hop
  | finish event => exact .refl id world
  | sync id' call =>
    have lt' : id' < world.activations.length := h.lt_of_ids List.mem_cons_self
    exact h.leaves_works lt lt' (fun same => idle (same ▸ rfl)) (works_sync world id' call)

theorem leaves_cancel (h : Sound world (call :: calls)) (lt : id < world.activations.length)
    (idle : call.worksFor? ≠ some id) (still : call.replaying? ≠ some id) :
    Leaves id world (world.cancel call) := by
  match call with
  | .activate name .arriving => exact .refl id world
  | .activate name (.configuring collection session settings ticket) =>
    exact h.leaves_plain lt (.single (Environment.cancel_edit world.env ticket))
  | .activate name (.replaying id' settings replay) =>
    have lt' : id' < world.activations.length := h.lt_of_ids List.mem_cons_self
    have ne : id' ≠ id := fun same => still (same ▸ rfl)
    have works := works_cancelSync world id' (.replay replay)
    have worked := h.leaves_works lt lt' ne works
    exact worked.trans ((h.works lt' works).leaves_abandon (Nat.lt_of_lt_of_le lt worked.length) ne)
  | .publish (.arriving event) => exact .refl id world
  | .publish (.delivering ⟨event, none, waiting⟩) => exact .refl id world
  | .publish (.delivering ⟨event, some (.outside number), waiting⟩) => exact .refl id world
  | .publish (.delivering ⟨event, some (.activation id' .arriving), waiting⟩) =>
    exact .refl id world
  | .publish (.delivering ⟨event, some (.activation id' (.forwarding forwarding)), waiting⟩) =>
    have lt' : id' < world.activations.length := h.lt_of_ids List.mem_cons_self
    exact h.leaves_works lt lt' (fun same => idle (same ▸ rfl))
      (works_cancelListener world id' (.forwarding forwarding))
  | .publish (.delivering ⟨event, some (.activation id' (.routing route)), waiting⟩) =>
    have lt' : id' < world.activations.length := h.lt_of_ids List.mem_cons_self
    exact h.leaves_works lt lt' (fun same => idle (same ▸ rfl))
      (works_cancelListener world id' (.routing route))
  | .sync id' call =>
    have lt' : id' < world.activations.length := h.lt_of_ids List.mem_cons_self
    exact h.leaves_works lt lt' (fun same => idle (same ▸ rfl)) (works_cancelSync world id' call)

end Sound

/-! ## Closed barriers -/

namespace Sound
variable {world world' : World} {call : Call} {calls : List Call} {id : ActivationId}

/-- Nothing works for an activation whose barrier is not open, and it is not live. -/
theorem closed_idle (h : Sound world calls) (closed : (world.activation id).barrier ≠ .open) :
    (∀ call ∈ calls, call.worksFor? ≠ some id) ∧ ∀ name, (name, id) ∉ world.live :=
  ⟨fun call hc works => closed (h.orderly.working id (List.mem_filterMap.mpr ⟨call, hc, works⟩)),
    fun name live => closed (h.orderly.live (name, id) live).1⟩

/-- **Behind a closed barrier nothing happens**, apart from the replay itself. -/
theorem leaves_hop_closed {notes : List WorldNote} {progress : Progress Call CallResult}
    (h : Sound world (call :: calls)) (lt : id < world.activations.length)
    (closed : (world.activation id).barrier ≠ .open) (still : call.replaying? ≠ some id)
    (hop : Hop world call notes world' progress) : Leaves id world world' := by
  obtain ⟨idle, dead⟩ := h.closed_idle closed
  exact h.leaves_hop lt (idle call List.mem_cons_self) still (fun name _ _ _ => dead name) hop

theorem leaves_cancel_closed (h : Sound world (call :: calls)) (lt : id < world.activations.length)
    (closed : (world.activation id).barrier ≠ .open) (still : call.replaying? ≠ some id) :
    Leaves id world (world.cancel call) :=
  h.leaves_cancel lt ((h.closed_idle closed).1 call List.mem_cons_self) still

/-- The calls other than the one that replays an activation do not replay it. -/
theorem replays_once (h : Sound world (call :: calls)) {other : Call} (mem : other ∈ calls)
    (replays : other.replaying? = some id) : call.replaying? ≠ some id := by
  intro same
  have once := h.orderly.replays
  rw [List.filterMap_cons_some same] at once
  exact (List.nodup_cons.mp once).1 (List.mem_filterMap.mpr ⟨other, mem, replays⟩)

end Sound

/-! ## Sessions without an activation -/

namespace Sound
variable {world world' : World} {call : Call} {calls : List Call} {id : ActivationId}
  {busy : SessionId → Prop} {name : String} {settings : Settings} {replay : Replay} {total : Nat}

/-- Whether a step of a call may be about a session: it is just created, it was created by the call,
or it belongs to an activation. -/
def Busy (world : World) (call : Call) (session : SessionId) : Prop :=
  session = world.env.engine.sessions.length ∨ (∃ pair ∈ call.newborn?, pair.2 = session) ∨
    ∃ core ∈ world.cores, core.session = session

theorem sessions_plain {env env' : Environment} (edits : Environment.Edits .plain env env') :
    Environment.Edits (.sessions busy) env env' := by
  refine Environment.Edits.sessions edits fun session names => ?_
  rcases names with no | ⟨kind, no⟩
  · exact no.elim
  · cases no

theorem sessions_changing {env env' : Environment} {session : SessionId} (own : busy session)
    (edits : Environment.Edits (.changing (· = .session session)) env env') :
    Environment.Edits (.sessions busy) env env' := by
  refine Environment.Edits.sessions edits fun other names => ?_
  rcases names with same | ⟨kind, no⟩
  · cases same
    exact own
  · cases no

theorem sessions_works (own : busy (world.activation id).session) (works : Works id world world') :
    Environment.Edits (.sessions busy) world.env world'.env := by
  refine Environment.Edits.sessions works.edits fun session names => ?_
  rcases names with (same | no | no) | ⟨kind, no⟩
  · cases same
    exact own
  all_goals cases no

theorem sessions_teardown (h : Sound world calls) (lt : id < world.activations.length)
    (own : busy (world.activation id).session) :
    Environment.Edits (.sessions busy) world.env (world.teardown id).1.env := by
  have edits := h.owned.teardown_edits (core_eq lt)
  refine Environment.Edits.sessions edits fun session owns => ?_
  cases owns
  exact own

theorem sessions_drop (h : Sound world calls)
    (own : ∀ id < world.activations.length, busy (world.activation id).session) (name : String) :
    Environment.Edits (.sessions busy) world.env (world.drop name).env := by
  unfold World.drop
  cases found : world.live? name with
  | none => exact .refl
  | some id => exact h.sessions_teardown (h.live_lt found) (own id (h.live_lt found))

theorem busy_core (h : (world.activation id).core ∈ world.cores) :
    Busy world call (world.activation id).session :=
  .inr (.inr ⟨_, h, rfl⟩)

/-- Work and barriers leave the sessions of activations as they are. -/
theorem busy_of_cores {world' : World} (same : world'.cores = world.cores)
    (lt : id < world'.activations.length) : Busy world call (world'.activation id).session := by
  have mem := core_mem lt
  rw [same] at mem
  exact .inr (.inr ⟨_, mem, rfl⟩)

theorem sessions_abandon
    (h : Sound world (.activate name (.replaying id settings replay) :: calls))
    (own : busy (world.activation id).session) :
    Environment.Edits (.sessions busy) world.env (world.abandon id).env := by
  obtain ⟨moved, lt, same⟩ := h.abandoning
  exact moved.sessions_teardown lt (by rw [same]; exact own)

/-- **The sessions that a step can be about.** -/
theorem sessions_hop {notes : List WorldNote} {progress : Progress Call CallResult}
    (h : Sound world (call :: calls)) (hop : Hop world call notes world' progress) :
    Environment.Edits (.sessions (Busy world call)) world.env world'.env := by
  cases hop with
  | refused opened =>
    refine sessions_plain ?_
    exact Relation.ReflTransGen.trans (Environment.makeCollection_edits _)
      (Relation.ReflTransGen.trans (Environment.snapshot_edits _)
        (Environment.openSession_refused opened))
  | began opened applied =>
    exact sessions_changing (.inl (began_eq opened applied).1) (began_edits opened applied)
  | @rejected name collection session settings ticket env failure collected =>
    refine Relation.ReflTransGen.trans
      (sessions_plain (Environment.collectProfile?_edits collected)) ?_
    have newborn : Busy world (.activate name (.configuring collection session settings ticket))
        session := .inr (.inl ⟨_, rfl, rfl⟩)
    exact sessions_changing newborn (Environment.disposeSession_edits _ (.inl rfl))
  | @subscribed name collection session settings ticket env collected =>
    have ready := h.collects collected
    refine Relation.ReflTransGen.trans
      (sessions_plain (Environment.collectProfile?_edits collected)) ?_
    have installs := Activation.install_edits world.language world.activations.length session
      collection settings.formatting ready.tidy
    refine Environment.Edits.sessions installs fun other names => ?_
    rcases names with no | ⟨kind, no⟩ <;> cases no
  | @replay name id settings replay sync replay' polled =>
    have lt : id < world.activations.length := h.lt_of_ids List.mem_cons_self
    exact sessions_works (busy_core (core_mem lt)) (works_pollReplay polled)
  | @ready name id settings replay sync count polled =>
    have lt : id < world.activations.length := h.lt_of_ids List.mem_cons_self
    have works := works_pollReplay polled
    have worked := h.works lt works
    refine Relation.ReflTransGen.trans (sessions_works (busy_core (core_mem lt)) works)
      (Relation.ReflTransGen.trans (sessions_plain (Environment.log_edits _ _))
        ((worked.readied replay.total).sessions_drop (fun id' lt' => busy_of_cores ?_ lt') name))
    exact (cores_setBarrier _ _ _).trans (cores_works works)
  | @failed name id settings replay sync failure polled =>
    have lt : id < world.activations.length := h.lt_of_ids List.mem_cons_self
    have works := works_pollReplay polled
    have worked := h.works lt works
    exact Relation.ReflTransGen.trans (sessions_works (busy_core (core_mem lt)) works)
      (worked.sessions_abandon (busy_of_cores (cores_works works) (works.calm.length ▸ lt)))
  | publish event => exact sessions_plain (Environment.log_edits _ _)
  | call event next waiting =>
    unfold startListener
    cases next.listener <;> exact .refl
  | listen hop =>
    cases hop with
    | pass | take | answered => exact .refl
    | forward id forwarding =>
      have lt : id < world.activations.length := h.lt_of_ids List.mem_cons_self
      exact sessions_works (busy_core (core_mem lt)) (works_forwarding world id forwarding)
    | route id route =>
      have lt : id < world.activations.length := h.lt_of_ids List.mem_cons_self
      exact sessions_works (busy_core (core_mem lt)) (works_routing h.tidy id route)
  | finish event => exact .refl
  | sync id call =>
    have lt : id < world.activations.length := h.lt_of_ids List.mem_cons_self
    exact sessions_works (busy_core (core_mem lt)) (works_sync world id call)

/-- No call opens a document in the editor. -/
theorem openDocuments_poll (h : Sound world (call :: calls)) :
    (world.poll call).1.env.openDocuments = world.env.openDocuments := by
  have kept := (poll_hops h.tidy call).carries
    (fun after rest => Sound after (rest ++ calls) ∧
      after.env.openDocuments = world.env.openDocuments)
    (fun {_ _ _ _ _} now hop => ⟨now.1.hop hop,
      (Environment.Edits.evolves (now.1.sessions_hop hop)).openDocuments.trans now.2⟩)
    ⟨h, rfl⟩
  exact kept.2

theorem sessions_cancel (h : Sound world (call :: calls)) :
    Environment.Edits (.sessions (Busy world call)) world.env (world.cancel call).env := by
  match call with
  | .activate name .arriving => exact .refl
  | .activate name (.configuring collection session settings ticket) =>
    exact .single (Environment.cancel_edit world.env ticket)
  | .activate name (.replaying id settings replay) =>
    have lt : id < world.activations.length := h.lt_of_ids List.mem_cons_self
    have works := works_cancelSync world id (.replay replay)
    have own := @busy_core world (.activate name (.replaying id settings replay)) id (core_mem lt)
    refine Relation.ReflTransGen.trans (sessions_works own works)
      ((h.works lt works).sessions_abandon
        (busy_of_cores (cores_works works) (works.calm.length ▸ lt)))
  | .publish (.arriving event) => exact .refl
  | .publish (.delivering ⟨event, none, waiting⟩) => exact .refl
  | .publish (.delivering ⟨event, some (.outside number), waiting⟩) => exact .refl
  | .publish (.delivering ⟨event, some (.activation id stage), waiting⟩) =>
    have lt : id < world.activations.length := h.lt_of_ids List.mem_cons_self
    exact sessions_works (busy_core (core_mem lt)) (works_cancelListener world id stage)
  | .sync id call =>
    have lt : id < world.activations.length := h.lt_of_ids List.mem_cons_self
    exact sessions_works (busy_core (core_mem lt)) (works_cancelSync world id call)

/-- A session without an activation is left alone by whatever is about others. -/
theorem quiet_newborn (h : Sound world (call :: calls)) {pair : CollectionId × SessionId}
    (newborn : pair ∈ calls.filterMap Call.newborn?) {env : Environment}
    (edits : Environment.Edits (.sessions (Busy world call)) world.env env) :
    Environment.Quiet pair.2 world.env env := by
  have all : pair ∈ (call :: calls).filterMap Call.newborn? := by
    obtain ⟨next, hn, he⟩ := List.mem_filterMap.mp newborn
    exact List.mem_filterMap.mpr ⟨next, List.mem_cons_of_mem _ hn, he⟩
  have lt := (h.owned.newborn_within pair all).2
  refine Environment.Edits.quiet edits (.inl lt) fun names => ?_
  rcases names pair.2 rfl with new | ⟨own, ho, same⟩ | ⟨core, hc, same⟩
  · exact absurd new (Nat.ne_of_lt lt)
  · have apart := (List.nodup_append.mp h.owned.sessions).1
    rw [List.filterMap_cons_some ho, List.map_cons] at apart
    exact (List.nodup_cons.mp apart).1 (same ▸ List.mem_map_of_mem newborn)
  · exact (h.owned.newborn_ne hc all).2 same.symm

end Sound

/-! ## Moves of the surroundings -/

end World

/-- Whether a move is about an activation, or about somebody's diagnostics. -/
def WorldMove.concerns (world : World) (id : ActivationId) : WorldMove → Prop
  | .report .. => True
  | .deactivate name | .drop name | .disposeSession name | .route name _ => (name, id) ∈ world.live
  | _ => False

/-- Whether a move reports diagnostics. -/
def WorldMove.isReport : WorldMove → Bool
  | .report .. => true
  | _ => false

namespace World.Sound
variable {world : World} {calls : List Call} {id : ActivationId}

theorem leaves_surround (h : Sound world calls) (lt : id < world.activations.length)
    {move : WorldMove} (away : ¬move.concerns world id) :
    Leaves id world (world.surround move) := by
  cases move with
  | release key => exact h.leaves_plain lt (.single (Environment.release_edit world.env key))
  | grant ticket => exact h.leaves_plain lt (.single (Environment.grant_edit world.env ticket))
  | refuse refusals =>
    exact h.leaves_plain lt (.single (Environment.refuse_edit world.env refusals))
  | files | source | documents | answer =>
    exact ⟨rfl, Nat.le_refl _, fun _ => Iff.rfl,
      ⟨⟨rfl, List.Sublist.refl _, rfl⟩, rfl, rfl, rfl, fun _ _ _ _ pending => pending⟩⟩
  | report uri version diagnostics => exact absurd trivial away
  | listen kind number =>
    have edits := @Environment.subscribe_edits (.listener (.outside number)) world.env kind _ rfl
    refine h.leaves_edits lt edits (fun release names => ?_) fun listener names => ?_
    · rcases names with no | ⟨kind, rfl⟩
      · exact no.elim
      · trivial
    · rw [names]
      nofun
  | unlisten number =>
    simp only [surround]
    split
    · rename_i outside
      have edits : Environment.Edits (.changing (· = .subscription number)) world.env
          { world.env with bus := world.env.bus.unsubscribe number } :=
        .single (.unsubscribe (.inl rfl))
      refine h.leaves_edits lt edits (fun release names => ?_) (fun _ no => no.elim)
      rcases names with rfl | ⟨kind, rfl⟩
      · intro sub hs same own
        have other := List.all_eq_true.mp outside sub hs
        rw [own] at other
        exact of_decide_eq_true other same
      · trivial
    · exact .refl id world
  | deactivate name => exact h.leaves_deactivate lt away
  | drop name => exact h.leaves_drop lt away
  | disposeSession name =>
    simp only [surround]
    cases found : world.live? name with
    | none => exact .refl id world
    | some id' =>
      have ne : id' ≠ id := fun same => away (same ▸ lookup_mem found)
      have other := h.owned.session_ne (core_eq lt) (core_eq (h.live_lt found)) ne
      exact h.leaves_session lt other (Environment.disposeSession_edits _ (.inl rfl))
  | route name change =>
    simp only [surround]
    cases found : world.live? name with
    | none => exact .refl id world
    | some id' =>
      have ne : id' ≠ id := fun same => away (same ▸ lookup_mem found)
      exact h.leaves_works lt (h.live_lt found) ne (works_routeNow h.tidy id' change)

/-- What a move does to the environment, files, settings and open documents apart, concerns sessions
of activations only. -/
theorem sessions_surround {busy : SessionId → Prop} (h : Sound world calls)
    (own : ∀ id < world.activations.length, busy (world.activation id).session)
    (move : WorldMove) : ∃ env files source docs, Environment.Edits (.sessions busy) world.env env ∧
      (world.surround move).env = { env with files, source, openDocuments := docs } := by
  cases move with
  | release key => exact ⟨_, _, _, _, .single (Environment.release_edit world.env key), rfl⟩
  | grant ticket => exact ⟨_, _, _, _, .single (Environment.grant_edit world.env ticket), rfl⟩
  | refuse refusals => exact ⟨_, _, _, _, .single (Environment.refuse_edit world.env refusals), rfl⟩
  | files | source | documents | answer => exact ⟨world.env, _, _, _, .refl, rfl⟩
  | report uri version diagnostics =>
    exact ⟨_, _, _, _, Environment.publishDiagnostics_edits world.env uri version diagnostics
      fun _ _ named => (by cases named), rfl⟩
  | listen kind number => exact ⟨_, _, _, _, Environment.subscribe_edits world.env kind trivial, rfl⟩
  | unlisten number =>
    simp only [surround]
    split
    · exact ⟨_, _, _, _, .single (.unsubscribe fun _ named => by cases named), rfl⟩
    · exact ⟨world.env, _, _, _, .refl, rfl⟩
  | deactivate name =>
    have drops := h.sessions_drop own name
    simp only [surround, World.deactivate]
    unfold World.drop at drops
    revert drops
    cases world.live? name with
    | none => exact fun _ => ⟨world.env, _, _, _, .refl, rfl⟩
    | some id => exact fun drops => ⟨_, _, _, _, Environment.Edits.log drops _, rfl⟩
  | drop name => exact ⟨_, _, _, _, h.sessions_drop own name, rfl⟩
  | disposeSession name =>
    simp only [surround]
    cases found : world.live? name with
    | none => exact ⟨world.env, _, _, _, .refl, rfl⟩
    | some id =>
      exact ⟨_, _, _, _, sessions_changing (own id (h.live_lt found))
        (Environment.disposeSession_edits _ (.inl rfl)), rfl⟩
  | route name change =>
    simp only [surround]
    cases found : world.live? name with
    | none => exact ⟨world.env, _, _, _, .refl, rfl⟩
    | some id =>
      exact ⟨_, _, _, _, sessions_works (own id (h.live_lt found)) (works_routeNow h.tidy id change),
        rfl⟩

theorem quiet_surround (h : Sound world calls) {pair : CollectionId × SessionId}
    (newborn : pair ∈ calls.filterMap Call.newborn?) (move : WorldMove) :
    Environment.Quiet pair.2 world.env (world.surround move).env := by
  obtain ⟨env, files, source, docs, edits, same⟩ := @sessions_surround world calls (· ≠ pair.2) h
    (fun id hid => Ne.symm (h.owned.newborn_ne (core_mem hid) newborn).2) move
  obtain ⟨calls, claims, disposed⟩ := Environment.Edits.quiet edits
    (.inl (h.owned.newborn_within pair newborn).2) fun names => names pair.2 rfl rfl
  rw [same]
  exact ⟨calls, claims, disposed⟩

/-- The engine forgets no call that it has recorded. -/
theorem calls_surround (h : Sound world calls) (move : WorldMove) :
    world.env.engine.calls <+: (world.surround move).env.engine.calls := by
  obtain ⟨env, files, source, docs, edits, same⟩ := @sessions_surround world calls (fun _ => True) h
    (fun _ _ => trivial) move
  rw [same]
  exact (Environment.Edits.evolves edits).calls

/-- Reports may change diagnostics, and nothing else. -/
theorem rests_report (world : World) (id : ActivationId) (uri : Uri) (version : Option Int)
    (diagnostics : List Diagnostic) :
    Rests id world (world.surround (.report uri version diagnostics)) := by
  simp only [surround, Environment.publishDiagnostics]
  cases world.env.engine.newestSink <;>
    exact ⟨rfl, Nat.le_refl _, fun _ => Iff.rfl, ⟨rfl, List.Sublist.refl _, rfl⟩, rfl⟩

/-- No move concerns an activation whose barrier is not open, reports apart. -/
theorem leaves_surround_closed (h : Sound world calls) (lt : id < world.activations.length)
    (closed : (world.activation id).barrier ≠ .open) {move : WorldMove}
    (silent : move.isReport = false) : Leaves id world (world.surround move) := by
  have dead := (h.closed_idle closed).2
  refine h.leaves_surround lt fun concerns => ?_
  cases move with
  | report => cases silent
  | deactivate name | drop name | disposeSession name | route name => exact dead name concerns
  | _ => exact concerns

theorem rests_surround_closed (h : Sound world calls) (lt : id < world.activations.length)
    (closed : (world.activation id).barrier ≠ .open) (move : WorldMove) :
    Rests id world (world.surround move) := by
  cases silent : move.isReport with
  | false => exact (h.leaves_surround_closed lt closed silent).rests
  | true =>
    cases move with
    | report uri version diagnostics => exact rests_report world id uri version diagnostics
    | _ => cases silent

end World.Sound
end EngineSync
