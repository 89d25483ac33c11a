import Mathlib.Logic.Relation
import EngineSync.Activation
import EngineSync.Proofs.Tickets

/-!
# Edits of the environment

Whatever is done to the environment is a row of small edits: a call reaches the engine, a handle is
made or its release is taken, a gate or a collection changes, somebody subscribes or leaves.  An
edit that changes something that exists names it, in the words of releases, and its scope says which
names it may use.  So three things need to be said only once, about one edit: that things which
exist go on to exist (`Evolves`), that gates hold nothing but providers (`Tidy`), and that
whatever is out of scope stays as it is (`Spares`).
-/
namespace EngineSync

/-- The session a call is about. -/
def EngineCall.session? : EngineCall → Option SessionId
  | .load _ => none
  | .create session | .request session _ | .dispose session => some session

/-- The calls about a session, in order. -/
def Engine.callsOf (engine : Engine) (session : SessionId) : List EngineCall :=
  engine.calls.filter (·.session? = some session)

/-- The calls of a session that are under way. -/
def Engine.claimsOf (engine : Engine) (session : SessionId) :
    List (TicketId × SessionId × Request) :=
  engine.claims.filter (·.2.1 = session)

/-- What may be changed, by the releases that name it, which releases may be taken, and who may
subscribe.  Providers belong to nobody in particular. -/
structure Scope where
  changes : Release → Prop
  takes : Release → Prop
  listens : Listener → Prop
  providers : ∀ kind, takes (.provider kind)
  takes_changes : ∀ release, takes release → changes release

namespace Scope

/-- Whether a release ends a provider. -/
def IsProvider (release : Release) : Prop :=
  ∃ kind, release = .provider kind

/-- Some things may be changed but no handle of them may be taken. -/
def changing (changes : Release → Prop) : Scope where
  changes release := changes release ∨ IsProvider release
  takes := IsProvider
  listens _ := False
  providers kind := ⟨kind, rfl⟩
  takes_changes _ := .inr

/-- Nothing that exists is changed, providers apart. -/
def plain : Scope :=
  changing fun _ => False

/-- Somebody may subscribe. -/
def listener (listener : Listener) : Scope :=
  { plain with listens := (· = listener) }

/-- Of the sessions only some may be changed; nothing else is ruled out. -/
def sessions (some : SessionId → Prop) : Scope where
  changes release := ∀ session, release = .session session → some session
  takes release := ∀ session, release = .session session → some session
  listens _ := True
  providers _ := nofun
  takes_changes _ h := h

/-- Anything may be changed, and anybody may subscribe. -/
def all : Scope :=
  ⟨fun _ => True, fun _ => True, fun _ => True, fun _ => trivial, fun _ _ => trivial⟩

end Scope

namespace Environment

/-- A gate that holds only live providers, or nothing. -/
def HoldsProviders (env : Environment) (gate : FeatureGate) : Prop :=
  ∀ id ∈ gate.held, id < env.handles.all.length ∧
    ∀ label release, env.handles.pending? id = some (label, release) →
      ∃ kind, release = .provider kind

/-- Every gate holds only live providers, or nothing, and subscriptions have numbers that were given
away. -/
structure Tidy (env : Environment) : Prop where
  gates : ∀ gate ∈ env.gates, env.HoldsProviders gate.gate
  subscriptions : ∀ sub ∈ env.bus.subscriptions, sub.id < env.bus.nextId

/-- One edit. -/
inductive Edit (scope : Scope) : Environment → Environment → Prop where
  | journal (env journal) : Edit scope env { env with journal }
  | ledger (env ledger) : Edit scope env { env with ledger }
  | engine {env : Environment} {engine} (calls : engine.calls = env.engine.calls)
      (sessions : engine.sessions = env.engine.sessions)
      (claims : engine.claims.Sublist env.engine.claims) : Edit scope env { env with engine }
  | load (env : Environment) (size) :
      Edit scope env { env with engine := env.engine.record (.load size) }
  | create {env : Environment} {sink} (aimed : ∀ id ∈ sink, id < env.collections.length) :
      Edit scope env { env with
        engine := Engine.record
          { env.engine with sessions := env.engine.sessions ++ [SessionState.mk false sink] }
          (.create env.engine.sessions.length) }
  | issue {env : Environment} {session} (request)
      (names : scope.changes (.session session)) :
      Edit scope env { env with engine := (env.engine.issue session request).1 }
  | dispose {env : Environment} {session} (up : env.engine.isDisposed session = false)
      (names : scope.changes (.session session)) :
      Edit scope env { env with engine := env.engine.dispose session }
  | addCollection (env : Environment) (collection) :
      Edit scope env { env with collections := env.collections ++ [collection] }
  | setCollection {env : Environment} {id} (collection)
      (names : scope.changes (.diagnostics id)) : Edit scope env (env.setCollection id collection)
  | addHandle (env : Environment) (label release) :
      Edit scope env (env.addHandle label release).1
  | retire {env : Environment} {id}
      (names : ∀ label release, env.handles.pending? id = some (label, release) →
        scope.takes release) : Edit scope env { env with handles := env.handles.retire id }
  | addGate {env : Environment} {gate} (empty : gate.gate.held = []) :
      Edit scope env { env with gates := env.gates ++ [gate] }
  | setGate {env : Environment} {id gate} (names : scope.changes (.gate id))
      (holds : env.HoldsProviders gate) : Edit scope env (env.setGate id gate)
  | subscribe {env : Environment} {listener} (kind) (names : scope.listens listener) :
      Edit scope env { env with bus := (env.bus.subscribe kind listener).1 }
  | unsubscribe {env : Environment} {id} (names : scope.changes (.subscription id)) :
      Edit scope env { env with bus := env.bus.unsubscribe id }

/-- Any number of edits. -/
abbrev Edits (scope : Scope) : Environment → Environment → Prop :=
  Relation.ReflTransGen (Edit scope)

/-! ## Things go on to exist -/

end Environment

namespace Handles
variable {ρ : Type} {table : Handles ρ} {id id' : HandleId}

theorem pending?_add (label : String) (release : ρ) :
    (table.add label release).1.pending? id =
      if id = table.all.length then some (label, release) else table.pending? id := by
  unfold pending? get? add
  by_cases h : id = table.all.length
  · simp [h]
  · by_cases lt : id < table.all.length
    · simp [h, List.getElem?_append_left lt]
    · have out : id - table.all.length ≠ 0 :=
        Nat.sub_ne_zero_of_lt (Nat.lt_of_le_of_ne (Nat.le_of_not_lt lt) (Ne.symm h))
      rw [List.getElem?_append_right (Nat.le_of_not_lt lt)]
      simp [h, List.getElem?_eq_none (Nat.le_of_not_lt lt), out]

theorem pending?_retire :
    (table.retire id).pending? id' = if id' = id then none else table.pending? id' := by
  unfold pending? get? retire
  by_cases h : id' = id
  · subst h
    cases table.all[id']? <;> simp
  · simp [h, Ne.symm h]

/-- A handle that has a release is in the table. -/
theorem lt_of_pending? {x : String × ρ} (h : table.pending? id = some x) :
    id < table.all.length := by
  obtain ⟨handle, found, -⟩ := Option.bind_eq_some_iff.mp h
  exact (List.getElem?_eq_some_iff.mp found).1

end Handles

namespace Environment

/-- Nothing that existed is gone: handles keep or lose their release, subscriptions stay or leave,
sessions stay disposed, and what is read from outside is the same. -/
structure Evolves (env env' : Environment) : Prop where
  files : env'.files = env.files
  source : env'.source = env.source
  openDocuments : env'.openDocuments = env.openDocuments
  calls : env.engine.calls <+: env'.engine.calls
  handles : env.handles.all.length ≤ env'.handles.all.length
  pending : ∀ id < env.handles.all.length, ∀ x, env'.handles.pending? id = some x →
    env.handles.pending? id = some x
  nextId : env.bus.nextId ≤ env'.bus.nextId
  subscriptions : ∀ sub ∈ env'.bus.subscriptions, sub.id < env.bus.nextId →
    sub ∈ env.bus.subscriptions
  sessions : env.engine.sessions.length ≤ env'.engine.sessions.length
  disposed : ∀ session, env.engine.isDisposed session = true →
    env'.engine.isDisposed session = true
  collections : env.collections.length ≤ env'.collections.length
  gates : env.gates.length ≤ env'.gates.length

namespace Evolves
variable {env env' env'' : Environment}

theorem refl (env : Environment) : env.Evolves env where
  files := rfl
  source := rfl
  openDocuments := rfl
  calls := List.prefix_refl _
  handles := Nat.le_refl _
  pending _ _ _ h := h
  nextId := Nat.le_refl _
  subscriptions _ h _ := h
  sessions := Nat.le_refl _
  disposed _ h := h
  collections := Nat.le_refl _
  gates := Nat.le_refl _

theorem trans (h : env.Evolves env') (h' : env'.Evolves env'') : env.Evolves env'' where
  files := h'.files.trans h.files
  source := h'.source.trans h.source
  openDocuments := h'.openDocuments.trans h.openDocuments
  calls := h.calls.trans h'.calls
  handles := Nat.le_trans h.handles h'.handles
  pending id lt x hx := h.pending id lt x (h'.pending id (Nat.lt_of_lt_of_le lt h.handles) x hx)
  nextId := Nat.le_trans h.nextId h'.nextId
  subscriptions sub hs lt :=
    h.subscriptions sub (h'.subscriptions sub hs (Nat.lt_of_lt_of_le lt h.nextId)) lt
  sessions := Nat.le_trans h.sessions h'.sessions
  disposed session hd := h'.disposed session (h.disposed session hd)
  collections := Nat.le_trans h.collections h'.collections
  gates := Nat.le_trans h.gates h'.gates

end Evolves
end Environment

namespace Engine
variable {engine : Engine} {session session' : SessionId}

theorem isDisposed_append {sessions : List SessionState} (h : engine.isDisposed session = true)
    (more : List SessionState) (he : engine.sessions = sessions) :
    ((sessions ++ more)[session]?.map (·.disposed)).getD false = true := by
  subst he
  unfold isDisposed at h
  cases found : engine.sessions[session]? with
  | none => simp [found] at h
  | some state =>
    rw [List.getElem?_append_left (List.getElem?_eq_some_iff.mp found).1]
    exact h

theorem isDisposed_dispose (h : session ≠ session') :
    (engine.dispose session').isDisposed session = engine.isDisposed session := by
  simp [isDisposed, dispose, record, Ne.symm h]

theorem isDisposed_dispose_of (h : engine.isDisposed session = true) :
    (engine.dispose session').isDisposed session = true := by
  by_cases he : session = session'
  · subst he
    unfold isDisposed at h ⊢
    cases found : engine.sessions[session]? with
    | none => simp [found] at h
    | some state => simp [dispose, record, found]
  · rwa [isDisposed_dispose he]

end Engine

namespace Environment
variable {scope : Scope} {env env' : Environment}

theorem Edit.evolves (h : Edit scope env env') : env.Evolves env' := by
  have same := Evolves.refl env
  cases h with
  | journal | ledger => exact { same with }
  | engine calls sessions claims =>
    refine { same with
      calls := calls ▸ List.prefix_refl _
      sessions := Nat.le_of_eq (by rw [sessions])
      disposed := ?_ }
    intro session h
    unfold Engine.isDisposed at h ⊢
    rwa [sessions]
  | load => exact { same with calls := List.prefix_append _ _ }
  | create =>
    refine { same with
      calls := List.prefix_append _ _
      sessions := by simp [Engine.record]
      disposed := ?_ }
    intro session h
    exact Engine.isDisposed_append h _ rfl
  | @issue session request names =>
    obtain ⟨granted, permits, he⟩ := env.engine.issue_eq session request
    exact { same with
      calls := by simp [he]
      sessions := by simp [he]
      disposed := by intro session h; simpa [he, Engine.isDisposed] using h }
  | dispose up names =>
    exact { same with
      calls := List.prefix_append _ _
      sessions := by simp [Engine.dispose, Engine.record]
      disposed := fun session h => Engine.isDisposed_dispose_of h }
  | addCollection => exact { same with collections := by simp }
  | setCollection => exact { same with collections := by simp [Environment.setCollection] }
  | addHandle label release =>
    refine { same with handles := by simp [Environment.addHandle, Handles.add], pending := ?_ }
    intro id lt x hx
    simpa only [Environment.addHandle, Handles.pending?_add, Nat.ne_of_lt lt, if_false] using hx
  | retire names =>
    refine { same with handles := by simp [Handles.retire], pending := ?_ }
    intro id lt x hx
    rw [Handles.pending?_retire] at hx
    split at hx
    · cases hx
    · exact hx
  | addGate => exact { same with gates := by simp }
  | setGate => exact { same with gates := by simp [Environment.setGate] }
  | subscribe kind names =>
    refine { same with nextId := Nat.le_succ _, subscriptions := ?_ }
    intro sub hs lt
    rcases List.mem_append.mp hs with hs | hs
    · exact hs
    · rw [List.mem_singleton.mp hs] at lt
      exact absurd lt (Nat.lt_irrefl _)
  | unsubscribe names =>
    refine { same with nextId := Nat.le_refl _, subscriptions := ?_ }
    exact fun sub hs _ => (List.mem_filter.mp hs).1

theorem Edits.evolves (h : Edits scope env env') : env.Evolves env' := by
  induction h with
  | refl => exact .refl env
  | tail _ step ih => exact ih.trans step.evolves

/-- An edit is one in every wider scope. -/
theorem Edit.widen {wider : Scope} (edit : Edit scope env env')
    (changes : ∀ release, scope.changes release → wider.changes release)
    (takes : ∀ release, scope.takes release → wider.takes release)
    (listens : ∀ listener, scope.listens listener → wider.listens listener) :
    Edit wider env env' := by
  cases edit with
  | journal journal => exact .journal env journal
  | ledger ledger => exact .ledger env ledger
  | engine calls sessions claims => exact .engine calls sessions claims
  | load size => exact .load env size
  | create aimed => exact .create aimed
  | addCollection collection => exact .addCollection env collection
  | addHandle label release => exact .addHandle env label release
  | issue request names => exact .issue request (changes _ names)
  | dispose up names => exact .dispose up (changes _ names)
  | setCollection collection names => exact .setCollection collection (changes _ names)
  | retire names => exact .retire fun label release pending => takes _ (names label release pending)
  | addGate empty => exact .addGate empty
  | setGate names holds => exact .setGate (changes _ names) holds
  | subscribe kind names => exact .subscribe kind (listens _ names)
  | unsubscribe names => exact .unsubscribe (changes _ names)

theorem Edits.widen {wider : Scope} (edits : Edits scope env env')
    (changes : ∀ release, scope.changes release → wider.changes release)
    (takes : ∀ release, scope.takes release → wider.takes release)
    (listens : ∀ listener, scope.listens listener → wider.listens listener) :
    Edits wider env env' := by
  induction edits with
  | refl => exact .refl
  | tail _ step ih => exact .tail ih (step.widen changes takes listens)

/-- Edits that concern sessions of some kind only. -/
theorem Edits.sessions {some : SessionId → Prop} (edits : Edits scope env env')
    (names : ∀ session, scope.changes (.session session) → some session) :
    Edits (.sessions some) env env' := by
  refine Edits.widen edits (fun release changed session same => ?_)
    (fun release taken session same => ?_) fun _ _ => trivial
  · exact names session (same ▸ changed)
  · exact names session (same ▸ scope.takes_changes _ taken)

/-! ## Gates hold providers -/

theorem HoldsProviders.mono {gate : FeatureGate} (h : env.HoldsProviders gate)
    (later : env.Evolves env') : env'.HoldsProviders gate := by
  intro id hid
  obtain ⟨lt, provider⟩ := h id hid
  refine ⟨Nat.lt_of_lt_of_le lt later.handles, fun label release hr => ?_⟩
  exact provider label release (later.pending id lt _ hr)

theorem Edit.tidy (edit : Edit scope env env') (h : env.Tidy) : env'.Tidy := by
  have later := edit.evolves
  have kept : ∀ gate ∈ env.gates, env'.HoldsProviders gate.gate :=
    fun gate hg => (h.gates gate hg).mono later
  cases edit with
  | @addGate made empty =>
    refine ⟨fun gate hg => ?_, h.subscriptions⟩
    rcases List.mem_append.mp hg with hg | hg
    · exact kept gate hg
    · rw [List.mem_singleton.mp hg]
      intro id hid
      rw [empty] at hid
      cases hid
  | @setGate id changed names holds =>
    refine ⟨fun gate hg => ?_, h.subscriptions⟩
    obtain ⟨place, at_place⟩ := List.getElem?_of_mem hg
    simp only [Environment.setGate, List.getElem?_modify] at at_place
    obtain ⟨old, found, rfl⟩ := Option.map_eq_some_iff.mp at_place
    split
    · exact holds.mono later
    · exact kept old (List.mem_of_getElem? found)
  | subscribe kind names =>
    refine ⟨kept, fun sub hs => ?_⟩
    rcases List.mem_append.mp hs with hs | hs
    · exact Nat.lt_succ_of_lt (h.subscriptions sub hs)
    · rw [List.mem_singleton.mp hs]
      exact Nat.lt_succ_self _
  | unsubscribe names =>
    exact ⟨kept, fun sub hs => h.subscriptions sub (List.mem_filter.mp hs).1⟩
  | _ => exact ⟨kept, h.subscriptions⟩

theorem Edits.tidy (edits : Edits scope env env') (h : env.Tidy) : env'.Tidy := by
  induction edits with
  | refl => exact h
  | tail _ step ih => exact step.tidy ih

/-- A handle keeps its release as long as that is out of scope. -/
theorem Edit.kept (edit : Edit scope env env') {handle : HandleId} {label : String}
    {release : Release} (away : ¬scope.takes release)
    (hp : env.handles.pending? handle = some (label, release)) :
    env'.handles.pending? handle = some (label, release) := by
  cases edit with
  | addHandle label' release' =>
    have old := Nat.ne_of_lt (Handles.lt_of_pending? hp)
    simpa only [Environment.addHandle, Handles.pending?_add, old, if_false] using hp
  | retire names =>
    rw [Handles.pending?_retire, if_neg ?_]
    · exact hp
    · rintro rfl
      exact away (names label release hp)
  | _ => exact hp

theorem Edits.kept (edits : Edits scope env env') {handle : HandleId} {label : String}
    {release : Release} (away : ¬scope.takes release)
    (hp : env.handles.pending? handle = some (label, release)) :
    env'.handles.pending? handle = some (label, release) := by
  induction edits with
  | refl => exact hp
  | tail _ step ih => exact step.kept away ih

/-- The bus stays as it is if nobody may subscribe or leave. -/
theorem Edit.bus (edit : Edit scope env env') (nobody : ∀ listener, ¬scope.listens listener)
    (nothing : ∀ number, ¬scope.changes (.subscription number)) : env'.bus = env.bus := by
  cases edit with
  | subscribe kind names => exact absurd names (nobody _)
  | unsubscribe names => exact absurd names (nothing _)
  | _ => rfl

theorem Edits.bus (edits : Edits scope env env') (nobody : ∀ listener, ¬scope.listens listener)
    (nothing : ∀ number, ¬scope.changes (.subscription number)) : env'.bus = env.bus := by
  induction edits with
  | refl => rfl
  | tail _ step ih => exact (step.bus nobody nothing).trans ih

/-- Listeners can only leave if nobody may subscribe. -/
theorem Edit.leave (edit : Edit scope env env') (nobody : ∀ listener, ¬scope.listens listener) :
    env'.bus.subscriptions.Sublist env.bus.subscriptions := by
  cases edit with
  | subscribe kind names => exact absurd names (nobody _)
  | unsubscribe names => exact List.filter_sublist
  | _ => exact List.Sublist.refl _

theorem Edits.leave (edits : Edits scope env env') (nobody : ∀ listener, ¬scope.listens listener) :
    env'.bus.subscriptions.Sublist env.bus.subscriptions := by
  induction edits with
  | refl => exact List.Sublist.refl _
  | tail _ step ih => exact (step.leave nobody).trans ih

/-! ## What is out of scope stays -/

/-- Nothing happens to a session: no call about it is recorded or gets under way, and it is neither
disposed nor brought back. -/
structure Quiet (session : SessionId) (env env' : Environment) : Prop where
  calls : env'.engine.callsOf session = env.engine.callsOf session
  claims : (env'.engine.claimsOf session).Sublist (env.engine.claimsOf session)
  disposed : env'.engine.isDisposed session = env.engine.isDisposed session

theorem Quiet.refl (session : SessionId) (env : Environment) : Quiet session env env :=
  ⟨rfl, List.Sublist.refl _, rfl⟩

theorem Quiet.trans {env'' : Environment} {session : SessionId} (h : Quiet session env env')
    (h' : Quiet session env' env'') : Quiet session env env'' :=
  ⟨h'.calls.trans h.calls, h'.claims.trans h.claims, h'.disposed.trans h.disposed⟩

/-- Nothing happens to a session that is out of scope, unless it is just created. -/
theorem Edit.quiet (edit : Edit scope env env') {session : SessionId}
    (born : session < env.engine.sessions.length ∨ env'.engine.sessions.length ≤ session)
    (away : ¬scope.changes (.session session)) : Quiet session env env' := by
  have same := Quiet.refl session env
  cases edit with
  | engine calls sessions claims =>
    exact {
      calls := by unfold Engine.callsOf; rw [calls]
      claims := claims.filter _
      disposed := by unfold Engine.isDisposed; rw [sessions] }
  | load size =>
    exact { same with
      calls := by simp [Engine.callsOf, Engine.record, EngineCall.session?] }
  | @create sink aimed =>
    have other : env.engine.sessions.length ≠ session := by
      rcases born with lt | le
      · exact Nat.ne_of_gt lt
      · simp only [Engine.record, List.length_append, List.length_singleton] at le
        exact Nat.ne_of_lt le
    have same_state : (env.engine.sessions ++ [SessionState.mk false sink])[session]? =
        env.engine.sessions[session]? := by
      by_cases lt : session < env.engine.sessions.length
      · exact List.getElem?_append_left lt
      · rw [List.getElem?_eq_none (Nat.le_of_not_lt lt), List.getElem?_eq_none]
        simp only [List.length_append, List.length_singleton]
        exact Nat.lt_of_le_of_ne (Nat.le_of_not_lt lt) other
    exact { same with
      calls := by simp [Engine.callsOf, Engine.record, EngineCall.session?, other]
      disposed := by simp only [Engine.isDisposed, Engine.record, same_state] }
  | @issue other request names =>
    obtain ⟨granted, permits, he⟩ := env.engine.issue_eq other request
    have ne : other ≠ session := fun he => away (he ▸ names)
    exact {
      calls := by simp [he, Engine.callsOf, EngineCall.session?, ne]
      claims := by simp [Engine.claimsOf, Engine.claims_issue, ne]
      disposed := by simp [he, Engine.isDisposed] }
  | @dispose other up names =>
    have ne : other ≠ session := fun he => away (he ▸ names)
    exact { same with
      calls := by simp [Engine.callsOf, Engine.dispose, Engine.record, EngineCall.session?, ne]
      disposed := Engine.isDisposed_dispose (Ne.symm ne) }
  | _ => exact { same with }

theorem Edits.quiet (edits : Edits scope env env') {session : SessionId}
    (born : session < env.engine.sessions.length ∨ env'.engine.sessions.length ≤ session)
    (away : ¬scope.changes (.session session)) : Quiet session env env' := by
  induction edits with
  | refl => exact .refl session env
  | tail before step ih =>
    have earlier := (Edits.evolves before).sessions
    have later := step.evolves.sessions
    rcases born with lt | le
    · exact (ih (.inl lt)).trans (step.quiet (.inl (Nat.lt_of_lt_of_le lt earlier)) away)
    · exact (ih (.inr (Nat.le_trans later le))).trans (step.quiet (.inr le) away)

end Environment

/-- Whether a release names nothing that belongs to an activation. -/
def Release.Avoids (release : Release) (id : ActivationId) (activation : Activation)
    (env : Environment) : Prop :=
  match release with
  | .session other => other ≠ activation.session
  | .diagnostics other => other ≠ activation.collection
  | .provider _ => True
  | .subscription number => ∀ sub ∈ env.bus.subscriptions, sub.id = number →
      sub.listener ≠ .activation id
  | .gate other => other ≠ activation.gate

/-- What an activation works with exists. -/
structure Activation.Within (activation : Activation) (env : Environment) : Prop where
  session : activation.session < env.engine.sessions.length
  collection : activation.collection < env.collections.length
  gate : activation.gate < env.gates.length

namespace Environment
variable {scope : Scope} {env env' env'' : Environment} {id : ActivationId}
  {activation : Activation}

/-- What belongs to an activation is as it was, and the handles that will end it are still there. -/
structure Spares (id : ActivationId) (activation : Activation) (env env' : Environment) : Prop where
  quiet : Quiet activation.session env env'
  gate : env'.gates[activation.gate]? = env.gates[activation.gate]?
  collection : env'.collection activation.collection = env.collection activation.collection
  subscriptions : env'.bus.subscriptions.filter (·.listener = .activation id) =
    env.bus.subscriptions.filter (·.listener = .activation id)
  kept : ∀ handle label release, release = .session activation.session ∨
    release = .gate activation.gate → env.handles.pending? handle = some (label, release) →
      env'.handles.pending? handle = some (label, release)

theorem Spares.refl (id : ActivationId) (activation : Activation) (env : Environment) :
    Spares id activation env env :=
  ⟨.refl _ env, rfl, rfl, rfl, fun _ _ _ _ h => h⟩

theorem Spares.trans (h : Spares id activation env env') (h' : Spares id activation env' env'') :
    Spares id activation env env'' where
  quiet := h.quiet.trans h'.quiet
  gate := h'.gate.trans h.gate
  collection := h'.collection.trans h.collection
  subscriptions := h'.subscriptions.trans h.subscriptions
  kept handle label release own hp :=
    h'.kept handle label release own (h.kept handle label release own hp)

theorem Evolves.within (later : env.Evolves env') (h : activation.Within env) :
    activation.Within env' where
  session := Nat.lt_of_lt_of_le h.session later.sessions
  collection := Nat.lt_of_lt_of_le h.collection later.collections
  gate := Nat.lt_of_lt_of_le h.gate later.gates

theorem Spares.avoids (h : Spares id activation env env') {release : Release}
    (avoids : release.Avoids id activation env) : release.Avoids id activation env' := by
  cases release with
  | subscription number =>
    intro sub hs he own
    have own' : sub ∈ env'.bus.subscriptions.filter (·.listener = .activation id) :=
      List.mem_filter.mpr ⟨hs, decide_eq_true own⟩
    rw [h.subscriptions] at own'
    exact avoids sub (List.mem_filter.mp own').1 he own
  | _ => exact avoids

/-- **An edit spares whatever its scope avoids.** -/
theorem Edit.spares (edit : Edit scope env env') (within : activation.Within env)
    (avoids : ∀ release, scope.changes release → release.Avoids id activation env)
    (others : ∀ listener, scope.listens listener → listener ≠ .activation id) :
    Spares id activation env env' := by
  have quiet := edit.quiet (.inl within.session) fun names => avoids _ names rfl
  have kept : ∀ handle label release, release = .session activation.session ∨
      release = .gate activation.gate → env.handles.pending? handle = some (label, release) →
        env'.handles.pending? handle = some (label, release) := by
    refine fun handle label release own hp => edit.kept (fun names => ?_) hp
    rcases own with rfl | rfl <;> exact avoids _ (scope.takes_changes _ names) rfl
  have same := Spares.refl id activation env
  cases edit with
  | addCollection collection =>
    exact { same with
      quiet, kept
      collection := by
        simp [Environment.collection, List.getElem?_append_left within.collection] }
  | @setCollection number collection names =>
    have other : number ≠ activation.collection := avoids _ names
    exact { same with
      quiet, kept
      collection := by
        simp [Environment.collection, Environment.setCollection, List.getElem?_set_ne other] }
  | addGate empty =>
    exact { same with quiet, kept, gate := List.getElem?_append_left within.gate }
  | @setGate number changed names holds =>
    have other : number ≠ activation.gate := avoids _ names
    exact { same with quiet, kept, gate := by simp [Environment.setGate, other] }
  | @subscribe listener kind names =>
    have other : listener ≠ .activation id := others _ names
    exact { same with quiet, kept, subscriptions := by simp [EventBus.subscribe, other] }
  | @unsubscribe number names =>
    refine { same with quiet, kept, subscriptions := ?_ }
    rw [EventBus.unsubscribe, List.filter_filter]
    refine List.filter_congr fun sub hs => ?_
    by_cases own : sub.listener = .activation id
    · have away : sub.id ≠ number := fun he => avoids _ names sub hs he own
      simp [own, away]
    · simp [own]
  | _ => exact { same with quiet, kept }

theorem Edits.spares (edits : Edits scope env env') (within : activation.Within env)
    (avoids : ∀ release, scope.changes release → release.Avoids id activation env)
    (others : ∀ listener, scope.listens listener → listener ≠ .activation id) :
    Spares id activation env env' := by
  induction edits with
  | refl => exact .refl id activation env
  | tail before step ih =>
    exact ih.trans (step.spares ((Edits.evolves before).within within)
      (fun release hr => ih.avoids (avoids release hr)) others)

end Environment
end EngineSync
