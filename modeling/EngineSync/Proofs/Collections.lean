import EngineSync.Proofs.Accounts
import EngineSync.Proofs.Forefront
import EngineSync.Proofs.Reports

/-!
# What happens to collections

Diagnostics change when they are reported, when a listener has closed their document, and when their
activation is torn down.  A step clears in each collection just what a listener has closed in it
(`World.Alters.hop`), and otherwise neither a step nor a call that is given up nor a move of the
surroundings touches a collection (`World.Still`).
-/
namespace EngineSync

namespace DiagnosticsCollection

/-- Drops the diagnostics of documents one after another. -/
def clearEach (collection : DiagnosticsCollection) (uris : List Uri) : DiagnosticsCollection :=
  uris.foldl clear collection

theorem clearEach_append (collection : DiagnosticsCollection) (uris uris' : List Uri) :
    collection.clearEach (uris ++ uris') = (collection.clearEach uris).clearEach uris' :=
  List.foldl_append

theorem get_clearEach (collection : DiagnosticsCollection) (uris : List Uri) (uri : Uri) :
    (collection.clearEach uris).get uri = if uri ∈ uris then [] else collection.get uri := by
  induction uris generalizing collection with
  | nil => simp [clearEach]
  | cons first rest ih =>
    have cleared := ih (collection.clear first)
    rw [get_clear] at cleared
    refine cleared.trans ?_
    by_cases here : first = uri
    · simp [here]
    · simp [here, Ne.symm here]

end DiagnosticsCollection

namespace Environment
variable {scope : Scope} {env env' : Environment} {id : CollectionId}

/-- A collection that is out of scope stays as it is. -/
theorem Edit.collection (edit : Edit scope env env') (lt : id < env.collections.length)
    (away : ¬scope.changes (.diagnostics id)) : env'.collection id = env.collection id := by
  cases edit with
  | addCollection => simp [Environment.collection, List.getElem?_append_left lt]
  | @setCollection number collection names =>
    have other : number ≠ id := fun same => away (same ▸ names)
    simp [Environment.collection, Environment.setCollection, List.getElem?_set_ne other]
  | _ => rfl

theorem Edits.collection (edits : Edits scope env env') (lt : id < env.collections.length)
    (away : ¬scope.changes (.diagnostics id)) : env'.collection id = env.collection id := by
  induction edits with
  | refl => rfl
  | tail before step ih =>
    exact (step.collection (Nat.lt_of_lt_of_le lt (Edits.evolves before).collections) away).trans ih
end Environment

namespace World

/-- Every collection has become what a relation allows, but for those of activations that hold
nothing any more; and whoever holds something, held it before. -/
structure Alters (allowed : CollectionId → DiagnosticsCollection → DiagnosticsCollection → Prop)
    (world world' : World) : Prop where
  length : world.activations.length ≤ world'.activations.length
  collections : world.env.collections.length ≤ world'.env.collections.length
  belongs : ∀ id < world.activations.length,
    (world'.activation id).collection = (world.activation id).collection
  holds : ∀ id < world.activations.length, (world.activation id).owner.held = [] →
    (world'.activation id).owner.held = []
  collection : ∀ number < world.env.collections.length,
    allowed number (world.env.collection number) (world'.env.collection number) ∨
      ∃ id < world'.activations.length, (world'.activation id).collection = number ∧
        (world'.activation id).owner.held = []

/-- No collection is touched. -/
abbrev Still : World → World → Prop :=
  Alters fun _ before after => after = before

variable {allowed allowed' allowed'' :
    CollectionId → DiagnosticsCollection → DiagnosticsCollection → Prop}
  {world world' world'' : World} {call : Call} {calls calls' : List Call} {id : ActivationId}
  {env : Environment} {scope : Scope}

theorem Alters.comp (h : Alters allowed world world') (h' : Alters allowed' world' world'')
    (both : ∀ {number before between after}, allowed number before between →
      allowed' number between after → allowed'' number before after) :
    Alters allowed'' world world'' where
  length := Nat.le_trans h.length h'.length
  collections := Nat.le_trans h.collections h'.collections
  belongs id lt := (h'.belongs id (Nat.lt_of_lt_of_le lt h.length)).trans (h.belongs id lt)
  holds id lt none := h'.holds id (Nat.lt_of_lt_of_le lt h.length) (h.holds id lt none)
  collection number lt := by
    rcases h.collection number lt with first | ⟨id, there, own, none⟩
    · exact (h'.collection number (Nat.lt_of_lt_of_le lt h.collections)).imp_left (both first)
    · exact .inr ⟨id, Nat.lt_of_lt_of_le there h'.length, (h'.belongs id there).trans own,
        h'.holds id there none⟩

theorem Still.alters (h : Still world world')
    (plain : ∀ number collection, allowed number collection collection) :
    Alters allowed world world' :=
  ⟨h.length, h.collections, h.belongs, h.holds, fun number lt => by
    refine (h.collection number lt).imp_left fun same => ?_
    rw [same]
    exact plain number _⟩

namespace Still
variable {world world' world'' : World} {call : Call} {calls : List Call} {id : ActivationId}
  {env : Environment} {scope : Scope}

theorem refl (world : World) : Still world world :=
  ⟨Nat.le_refl _, Nat.le_refl _, fun _ _ => rfl, fun _ _ none => none, fun _ _ => .inl rfl⟩

theorem trans (h : Still world world') (h' : Still world' world'') : Still world world'' :=
  h.comp h' fun first later => later.trans first

/-- Nothing but the environment is changed, and no collection. -/
theorem of_edits (edits : Environment.Edits scope world.env env)
    (away : ∀ number, ¬scope.changes (.diagnostics number)) : Still world { world with env } :=
  ⟨Nat.le_refl _, (Environment.Edits.evolves edits).collections, fun _ _ => rfl, fun _ _ none => none,
    fun number lt => .inl (Environment.Edits.collection edits lt (away number))⟩

theorem plain (edits : Environment.Edits .plain world.env env) : Still world { world with env } :=
  of_edits edits fun number names => by
    rcases names with no | ⟨kind, no⟩
    · exact no
    · cases no

theorem session {session : SessionId}
    (edits : Environment.Edits (.changing (· = .session session)) world.env env) :
    Still world { world with env } :=
  of_edits edits fun number names => by rcases names with no | ⟨kind, no⟩ <;> cases no

/-- Only the collections matter, and what activations hold. -/
theorem of_eq (activations : world'.activations = world.activations)
    (collections : world'.env.collections = world.env.collections) : Still world world' := by
  have same (id : ActivationId) : world'.activation id = world.activation id := by
    rw [World.activation, activations]
    rfl
  refine ⟨Nat.le_of_eq (by rw [activations]), Nat.le_of_eq (by rw [collections]),
    fun id _ => by rw [same], fun id _ none => by rwa [same], fun number _ => .inl ?_⟩
  rw [Environment.collection, collections]
  rfl

/-- Work that touches no collection. -/
theorem works (works : Works id world world')
    (collections : world'.env.collections = world.env.collections) : Still world world' := by
  refine ⟨Nat.le_of_eq works.calm.length.symm, Nat.le_of_eq (by rw [collections]),
    fun id' _ => congrArg (·.2.2.2) (lasting_belongings.works works id'),
    fun id' _ none => by rwa [works.calm.owner], fun number _ => .inl ?_⟩
  rw [Environment.collection, collections]
  rfl

theorem setBarrier (world : World) (id : ActivationId) (barrier : Barrier) :
    Still world (world.setBarrier id barrier) := by
  have same {β : Type} (view : Activation → β)
      (plain : ∀ activation barrier, view { activation with barrier } = view activation)
      (other : ActivationId) :
      view ((world.setBarrier id barrier).activation other) = view (world.activation other) :=
    Lasting.setBarrier world (.inr plain) barrier
  refine ⟨Nat.le_of_eq (Sound.length_setBarrier world id barrier).symm, Nat.le_refl _,
    fun other _ => same Activation.collection (fun _ _ => rfl) other, fun other _ none => ?_,
    fun number _ => .inl rfl⟩
  rw [same Activation.owner (fun _ _ => rfl) other]
  exact none

/-- A teardown touches only the collection of its activation, which holds nothing then. -/
theorem teardown (h : Sound world calls) (lt : id < world.activations.length) :
    Still world (world.teardown id).1 := by
  have edits := h.owned.teardown_edits (Sound.core_eq lt)
  have torn : ((world.teardown id).1.activation id).owner.held = [] := by
    refine congrArg (·.owner.held) ((activation_setActivation _ id id _).trans (if_pos ⟨rfl, lt⟩))
  have length := (Sound.length_teardown world id).symm
  refine ⟨Nat.le_of_eq length, (Environment.Edits.evolves edits).collections,
    fun id' _ => congrArg (·.2.2.2) (lasting_belongings.teardown world id' id),
    fun id' _ none => ?_, fun number there => ?_⟩
  · by_cases here : id' = id
    · rw [here]
      exact torn
    · refine (congrArg (·.owner.held) ((activation_setActivation _ id id' _).trans ?_)).trans none
      rw [if_neg fun both => here both.1]
      rfl
  · by_cases own : number = (world.activation id).collection
    · refine .inr ⟨id, length ▸ lt, ?_, torn⟩
      rw [own]
      exact congrArg (·.2.2.2) (lasting_belongings.teardown world id id)
    · exact .inl (Environment.Edits.collection edits there own)

theorem drop (h : Sound world calls) (name : String) : Still world (world.drop name) := by
  unfold World.drop
  cases found : world.live? name with
  | none => exact .refl world
  | some id => exact (teardown h (h.live_lt found)).trans (.of_eq rfl rfl)

theorem deactivate (h : Sound world calls) (name : String) :
    Still world (world.deactivate name) := by
  unfold World.deactivate
  cases found : world.live? name with
  | none => exact .refl world
  | some id => exact (teardown h (h.live_lt found)).trans (.of_eq rfl rfl)

theorem welcome (h : Sound world calls) (collection : CollectionId) (session : SessionId)
    (settings : Settings) : Still world (world.welcome collection session settings) := by
  have edits := Activation.install_edits world.language world.activations.length session collection
    settings.formatting h.tidy
  have old {id : ActivationId} (lt : id < world.activations.length) :
      (world.welcome collection session settings).activation id = world.activation id := by
    rw [activation_welcome, if_neg (Nat.ne_of_lt lt)]
  refine ⟨?_, (Environment.Edits.evolves edits).collections, fun id lt => by rw [old lt],
    fun id lt none => by rwa [old lt], fun number lt => .inl ?_⟩
  · rw [World.welcome, List.length_append]
    exact Nat.le_add_right _ _
  · refine Environment.Edits.collection edits lt fun names => ?_
    rcases names with no | ⟨kind, no⟩ <;> cases no

variable {name : String} {settings : Settings} {replay : Replay} {total : Nat}

theorem abandon (h : Sound world (.activate name (.replaying id settings replay) :: calls)) :
    Still world (world.abandon id) := by
  obtain ⟨moved, lt, -⟩ := h.abandoning
  exact (setBarrier world id .abandoned).trans (teardown moved lt)

theorem finishActivate
    (h : Sound world (.activate name (.replaying id settings replay) :: calls)) :
    Still world (world.finishActivate name id settings total) := by
  have ready : Still world (world.readied id settings total) :=
    (setBarrier world id .open).trans (.of_eq rfl rfl)
  exact (ready.trans (drop (h.readied total) name)).trans (.of_eq rfl rfl)

/-- The way of a document to the engine, up to what follows from its result. -/
theorem putSync (world : World) (id : ActivationId) (forwarding : Forwarding) :
    Still world (world.putSync id ((world.sync id).poll forwarding).1) :=
  works (works_putSync (Sync.becomes_poll forwarding (Activation.work_session _))) rfl

/-- Changes of the configuration are not about diagnostics. -/
theorem routing (h : Sound world calls) (id : ActivationId) (call : RouteCall) :
    Still world (world.pollRouting id call).1 := by
  let scope : Scope := .changing fun release =>
    release = .session (world.activation id).session ∨ release = .gate (world.activation id).gate
  have session : scope.changes (.session (world.activation id).session) := .inl (.inl rfl)
  have gate : scope.changes (.gate (world.activation id).gate) := .inl (.inr rfl)
  refine of_edits ((world.activation id).router.poll_edits h.tidy session gate call)
    fun number names => ?_
  rcases names with (no | no) | ⟨kind, no⟩ <;> cases no

theorem routeNow (h : Sound world calls) (id : ActivationId) (change : ConfigChange) :
    Still world (world.routeNow id change).1 := by
  have routes := routing h id (.arriving change)
  unfold pollRouting at routes
  unfold World.routeNow
  revert routes
  rcases (world.activation id).router.poll world.env (.arriving change) with
    ⟨env, call | result⟩ <;> intro routes
  · exact routes.trans (plain (Router.cancel_edits env call))
  · exact routes

theorem cancel (h : Sound world (call :: calls)) : Still world (world.cancel call) := by
  match call with
  | .activate name .arriving | .publish (.arriving event)
  | .publish (.delivering ⟨event, none, waiting⟩)
  | .publish (.delivering ⟨event, some (.outside number), waiting⟩) => exact .refl world
  | .activate name (.configuring collection session settings ticket) => exact of_eq rfl rfl
  | .activate name (.replaying id settings replay) =>
    have lt : id < world.activations.length := h.lt_of_ids List.mem_cons_self
    have replays := works_cancelSync world id (.replay replay)
    exact (works replays rfl).trans (abandon (h.works lt replays))
  | .publish (.delivering ⟨event, some (.activation id stage), waiting⟩) =>
    refine works (works_cancelListener world id stage) ?_
    cases stage with
    | arriving | forwarding => rfl
    | routing call => cases call <;> rfl
  | .sync id call => exact works (works_cancelSync world id call) rfl

theorem surround (h : Sound world calls) {move : WorldMove} (silent : move.isReport = false) :
    Still world (world.surround move) := by
  cases move with
  | release | grant | refuse | files | source | documents | listen | answer => exact of_eq rfl rfl
  | report => cases silent
  | unlisten number =>
    simp only [World.surround]
    split <;> exact of_eq rfl rfl
  | deactivate name => exact deactivate h name
  | drop name => exact drop h name
  | disposeSession name =>
    simp only [World.surround]
    cases world.live? name with
    | none => exact .refl world
    | some id => exact Still.session (Environment.disposeSession_edits _ (.inl rfl))
  | route name change =>
    simp only [World.surround]
    cases world.live? name with
    | none => exact .refl world
    | some id => exact routeNow h id change

end Still

/-! ## Documents that are closed -/

/-- The diagnostics that a listener drops if its document has the chance to go on: those of a
document that the engine has closed. -/
def closing (world : World) (id : ActivationId) (forwarding : Forwarding) :
    List (CollectionId × Uri) :=
  match forwarding.closes, ((world.sync id).poll forwarding).2 with
  | true, .finished (.ok true) => [((world.activation id).collection, forwarding.doc.uri)]
  | _, _ => []

/-- The diagnostics that the next step of a call drops. -/
def closingAt (world : World) : Call → List (CollectionId × Uri)
  | .publish (.delivering ⟨_, some (.activation id (.forwarding forwarding)), _⟩) =>
    world.closing id forwarding
  | _ => []

/-- The documents that are closed in one collection. -/
def closedIn (number : CollectionId) (closed : List (CollectionId × Uri)) : List Uri :=
  (closed.filter (·.1 = number)).map (·.2)

theorem mem_closedIn {number : CollectionId} {uri : Uri} {closed : List (CollectionId × Uri)} :
    uri ∈ closedIn number closed ↔ (number, uri) ∈ closed := by
  simp [closedIn]

/-- What is closed in a collection is cleared in it, one after another, and that is all. -/
def Clears (closed : List (CollectionId × Uri)) (number : CollectionId)
    (before after : DiagnosticsCollection) : Prop :=
  after = before.clearEach (closedIn number closed)

namespace Alters
variable {closed closed' : List (CollectionId × Uri)}

/-- What is cleared step by step is cleared in order. -/
theorem trans (h : Alters (Clears closed) world world') (h' : Alters (Clears closed') world' world'') :
    Alters (Clears (closed ++ closed')) world world'' :=
  h.comp h' fun {number before between after} first later => by
    have split : closedIn number (closed ++ closed') =
        closedIn number closed ++ closedIn number closed' := by
      simp [closedIn]
    rw [Clears, split, DiagnosticsCollection.clearEach_append, ← first]
    exact later

theorem still (h : Still world world') : Alters (Clears []) world world' :=
  h.alters fun _ _ => rfl

/-- A document that the engine has closed loses its diagnostics in the collection of its listener,
and nothing else happens to any collection. -/
theorem forwarding (h : Sound world (call :: calls)) (own : id ∈ call.ids)
    (forwarding : Forwarding) :
    Alters (Clears (world.closing id forwarding)) world (world.pollForwarding id forwarding).1 := by
  have polled := Still.putSync world id forwarding
  have there := (h.within (h.lt_of_ids own)).collection
  have same := polled.belongs id (h.lt_of_ids own)
  unfold pollForwarding closing
  revert polled same
  rcases (world.sync id).poll forwarding with ⟨sync, next | failure | taken⟩ <;> intro polled same
  · cases forwarding.closes <;> exact still polled
  · cases forwarding.closes <;> exact still polled
  · cases closes : forwarding.closes with
    | false => simpa [concludeForwarding, closes] using still polled
    | true =>
      cases taken with
      | false => simpa [concludeForwarding, closes] using still polled
      | true =>
        refine (still polled).trans ?_
        simp only [concludeForwarding, closes, Bool.and_self, if_true]
        refine ⟨Nat.le_refl _, Nat.le_of_eq (List.length_set ..).symm, fun _ _ => rfl,
          fun _ _ none => none, fun number lt => .inl ?_⟩
        rw [same]
        by_cases here : (world.activation id).collection = number
        · subst here
          simp [Clears, closedIn, DiagnosticsCollection.clearEach, Environment.clearDiagnostics,
            Environment.setCollection, Environment.collection, lt]
        · simp [Clears, closedIn, DiagnosticsCollection.clearEach, Environment.clearDiagnostics,
            Environment.setCollection, Environment.collection, List.getElem?_set_ne here, here]

/-- **A step clears what it closes**, and touches no collection otherwise, as long as its activation
holds anything. -/
theorem hop {notes : List WorldNote} {progress : Progress Call CallResult}
    (h : Sound world (call :: calls)) (hop : Hop world call notes world' progress) :
    Alters (Clears (world.closingAt call)) world world' := by
  cases hop with
  | refused opened =>
    refine still (.plain ?_)
    exact Relation.ReflTransGen.trans (Environment.makeCollection_edits _)
      (Relation.ReflTransGen.trans (Environment.snapshot_edits _)
        (Environment.openSession_refused opened))
  | began opened applied => exact still (.session (began_edits opened applied))
  | @rejected name collection session settings ticket env failure collected =>
    exact still ((Still.plain (Environment.collectProfile?_edits collected)).trans
      (.session (Environment.disposeSession_edits env (.inl rfl))))
  | subscribed collected =>
    exact still ((Still.plain (Environment.collectProfile?_edits collected)).trans
      (.welcome (h.collects collected) ..))
  | replay polled => exact still (.works (works_pollReplay polled) rfl)
  | @ready name id settings replay sync count polled =>
    have lt : id < world.activations.length := h.lt_of_ids List.mem_cons_self
    have replays := works_pollReplay polled
    exact still ((Still.works replays rfl).trans (.finishActivate (h.works lt replays)))
  | @failed name id settings replay sync failure polled =>
    have lt : id < world.activations.length := h.lt_of_ids List.mem_cons_self
    have replays := works_pollReplay polled
    exact still ((Still.works replays rfl).trans (.abandon (h.works lt replays)))
  | publish | finish => exact still (.of_eq rfl rfl)
  | call event next waiting =>
    unfold startListener
    cases next.listener <;> exact still (.of_eq rfl rfl)
  | listen hop =>
    cases hop with
    | pass | take => exact still (.refl world)
    | answered => exact still (.refl world)
    | forward id doc => exact forwarding h List.mem_cons_self doc
    | route id call => exact still (.routing h id call)
  | sync id call => exact still (.works (works_sync world id call) rfl)

end Alters

/-! ## Collections in use -/

/-- A collection is in use by a session that comes up or by an activation that holds something. -/
def Collects (number : CollectionId) (world : World) (calls : List Call) : Prop :=
  (∃ session, (number, session) ∈ calls.filterMap Call.newborn?) ∨
    ∃ id < world.activations.length, (world.activation id).collection = number ∧
      (world.activation id).owner.held ≠ []

section
variable {number : CollectionId}

/-- A collection in use is there. -/
theorem Collects.lt (used : Collects number world calls) (h : Sound world calls) :
    number < world.env.collections.length := by
  rcases used with ⟨session, newborn⟩ | ⟨id, lt, rfl, -⟩
  · exact (h.owned.newborn_within _ newborn).1
  · exact (h.within lt).collection

/-- The activation of a collection in use holds something. -/
theorem Collects.holds (used : Collects number world calls) (h : Sound world calls)
    (lt : id < world.activations.length) (own : (world.activation id).collection = number) :
    (world.activation id).owner.held ≠ [] := by
  intro none
  rcases used with ⟨session, newborn⟩ | ⟨id', lt', own', holds⟩
  · exact absurd own.symm (h.owned.newborn_ne (Sound.core_mem lt) newborn).1
  · by_cases here : id' = id
    · exact absurd none (here ▸ holds)
    · have apart := h.owned.collection_ne (Sound.core_eq lt) (Sound.core_eq lt') here
      exact absurd (own'.trans own.symm) apart

/-- A collection in use has become what the relation allows. -/
theorem Alters.used (h : Alters allowed world world') (sound : Sound world' calls)
    (used : Collects number world' calls) (lt : number < world.env.collections.length) :
    allowed number (world.env.collection number) (world'.env.collection number) :=
  (h.collection number lt).resolve_right fun ⟨_, there, own, nothing⟩ =>
    used.holds sound there own nothing

end

end World
end EngineSync
