import EngineSync.Proofs.KeyPaths
import EngineSync.Proofs.Releases
import EngineSync.Proofs.Requests
import EngineSync.Proofs.Silence

/-!
# One reaction to each change

A change that is routed has one reaction, and what it touches is decided by its keys alone.  If it
touches the profile, the engine is asked once, for the profile that the settings name when the
change is looked at first, and no gate or provider is touched then or later.  If it touches only the
formatting toggle, the gate is set to what the settings say, and the engine hears nothing of it.
Here the chances of every change are followed through all runs of a router, whatever the settings,
the gate and the engine do in between.
-/
namespace EngineSync

/-- What a request does to a gate that is found in some state. -/
def FeatureGate.transitionTo (gate : FeatureGate) (enabled : Bool) : Transition :=
  if gate.isEnabled = enabled then .unchanged else if enabled then .registered else .disposed

/-- Two changes name the same keys, in any order and any number of times. -/
def ConfigChange.SameKeys (change change' : ConfigChange) : Prop :=
  ∀ key, key ∈ change.keys ↔ key ∈ change'.keys

/-- The recognized keys that a change touches. -/
def ConfigChange.touched (change : ConfigChange) : ConfigChange :=
  ⟨[profileKey, formattingKey].filter change.affects⟩

/-- A changed key is the key itself, or inside it, or around it. -/
def ConfigChange.Names (change : ConfigChange) (key : String) : Prop :=
  ∃ changed ∈ change.keys, changed = key ∨ (∃ rest, changed.toList = key.toList ++ '.' :: rest) ∨
    ∃ rest, key.toList = changed.toList ++ '.' :: rest

/-- A change on its way, by what it touches. -/
def RouteCall.touched : RouteCall → RouteCall
  | .arriving change => .arriving change.touched
  | .applying profile ticket => .applying profile ticket

namespace ConfigChange

theorem affects_iff_names {change : ConfigChange} {key : String} :
    change.affects key = true ↔ change.Names key := by
  simp only [affects, List.any_eq_true, Bool.or_eq_true, isSameOrInside_iff, Names,
    String.toList_inj]
  refine exists_congr fun changed => and_congr_right fun _ => ?_
  constructor
  · rintro ((same | inside) | (same | around))
    · exact .inl same
    · exact .inr (.inl inside)
    · exact .inl same.symm
    · exact .inr (.inr around)
  · rintro (same | inside | around)
    · exact .inl (.inl same)
    · exact .inl (.inr inside)
    · exact .inr (.inr around)

theorem affects_congr {change change' : ConfigChange} (same : change.SameKeys change')
    (key : String) : change.affects key = change'.affects key := by
  rw [Bool.eq_iff_iff, affects_iff_names, affects_iff_names]
  exact exists_congr fun changed => and_congr_left fun _ => same changed

theorem touched_congr {change change' : ConfigChange} (same : change.SameKeys change') :
    change.touched = change'.touched := by
  simp only [touched, funext (affects_congr same)]

theorem affects_touched_profile (change : ConfigChange) :
    change.touched.affects profileKey = change.affects profileKey := by
  cases profile : change.affects profileKey <;> cases formatting : change.affects formattingKey <;>
    simp only [touched, List.filter, profile, formatting] <;> decide +kernel

theorem affects_touched_formatting (change : ConfigChange) :
    change.touched.affects formattingKey = change.affects formattingKey := by
  cases profile : change.affects profileKey <;> cases formatting : change.affects formattingKey <;>
    simp only [touched, List.filter, profile, formatting] <;> decide +kernel

end ConfigChange

namespace Environment

/-- Only the engine and the journal may be others. -/
structure OnlyEngine (env env' : Environment) : Prop where
  files : env'.files = env.files
  source : env'.source = env.source
  bus : env'.bus = env.bus
  openDocuments : env'.openDocuments = env.openDocuments
  handles : env'.handles = env.handles
  gates : env'.gates = env.gates
  collections : env'.collections = env.collections
  ledger : env'.ledger = env.ledger

/-- Only providers, their handles and one gate may be others, and the journal. -/
structure OnlyGate (id : GateId) (env env' : Environment) : Prop where
  engine : env'.engine = env.engine
  files : env'.files = env.files
  source : env'.source = env.source
  bus : env'.bus = env.bus
  openDocuments : env'.openDocuments = env.openDocuments
  collections : env'.collections = env.collections
  gates : ∀ other, other ≠ id → env'.gate other = env.gate other

/-- Without its journal. -/
def silent (env : Environment) : Environment :=
  { env with journal := [] }

/-! ## What nobody reads -/

theorem mere_environment (env : Environment) (journal : Journal) :
    (Past.mere journal id).environment env = { env with journal := journal ++ env.journal } := by
  simp only [Past.environment, Past.engine, Past.table, Past.bus, Past.ledgerAfter,
    World.mere_shift, Shift.zero_engineCall, Shift.zero_ticketAt, Shift.zero_sessionState,
    Shift.zero_handleAt, Shift.zero_subscription, Shift.zero_formattingGate, List.map_id]
  simp [Past.mere, Shift.zero, Ledger.empty]

/-- An environment is what it is without its journal, behind a past of nothing but that. -/
theorem mere_silent (env : Environment) :
    (Past.mere env.journal id).environment env.silent = env := by
  rw [mere_environment]
  simp [silent]

theorem silent_mere (env : Environment) (journal : Journal) :
    ((Past.mere journal id).environment env).silent = env.silent := by
  rw [mere_environment]
  rfl

theorem silent_setEnabled (env : Environment) (gate : GateId) (enabled : Bool) :
    (env.setEnabled gate enabled).1.silent = (env.silent.setEnabled gate enabled).1.silent := by
  have sets := (Past.mere env.journal id).env_setEnabled env.silent gate enabled
  rw [env.mere_silent, World.mere_shift, show Shift.zero.gate = 0 from rfl, Nat.zero_add] at sets
  rw [sets]
  exact silent_mere _ _

variable {env env' env'' : Environment} {id : GateId}

/-! ## What may be touched -/

theorem OnlyEngine.trans (h : env.OnlyEngine env') (h' : env'.OnlyEngine env'') :
    env.OnlyEngine env'' where
  files := h'.files.trans h.files
  source := h'.source.trans h.source
  bus := h'.bus.trans h.bus
  openDocuments := h'.openDocuments.trans h.openDocuments
  handles := h'.handles.trans h.handles
  gates := h'.gates.trans h.gates
  collections := h'.collections.trans h.collections
  ledger := h'.ledger.trans h.ledger

theorem OnlyEngine.tidy (h : env.OnlyEngine env') (tidy : env.Tidy) : env'.Tidy where
  gates gate mem := by
    unfold HoldsProviders
    rw [h.handles]
    exact tidy.gates gate (h.gates ▸ mem)
  subscriptions := by
    rw [h.bus]
    exact tidy.subscriptions

theorem OnlyGate.trans (h : env.OnlyGate id env') (h' : env'.OnlyGate id env'') :
    env.OnlyGate id env'' where
  engine := h'.engine.trans h.engine
  files := h'.files.trans h.files
  source := h'.source.trans h.source
  bus := h'.bus.trans h.bus
  openDocuments := h'.openDocuments.trans h.openDocuments
  collections := h'.collections.trans h.collections
  gates other ne := (h'.gates other ne).trans (h.gates other ne)

/-! ## What setting a gate touches -/

theorem setEnabled_transition (env : Environment) (id : GateId) (enabled : Bool) :
    (env.setEnabled id enabled).2 = (env.gate id).transitionTo enabled := by
  unfold setEnabled FeatureGate.transitionTo
  by_cases wanted : enabled = true
  · subst wanted
    rw [if_pos rfl]
    unfold enableGate
    by_cases isOpen : (env.gate id).isEnabled = true
    · simp [isOpen]
    · have none : ((env.registerProviders (env.formattingGate id).language
          ProviderKind.formatting).1.gate id).active = none := by
        rw [gate_of_gates (registerProviders_gates env _ _)]
        simpa [FeatureGate.isEnabled] using isOpen
      simp [isOpen, FeatureGate.offer, none]
  · have closing : enabled = false := by simpa using wanted
    subst closing
    unfold disableGate FeatureGate.takeActive
    cases active : (env.gate id).active <;> simp [FeatureGate.isEnabled, active]

/-- A handle that can release nothing but a provider. -/
theorem onlyGate_disposePlain {handle : HandleId} (names : Names .plain env handle) :
    env.OnlyGate id (env.disposePlain handle).1 := by
  unfold disposePlain
  cases taken : env.take? handle with
  | none => exact ⟨rfl, rfl, rfl, rfl, rfl, rfl, fun _ _ => rfl⟩
  | some outcome =>
    obtain ⟨after, release⟩ := outcome
    obtain ⟨label, pending, rfl⟩ := take?_eq taken
    obtain ⟨kind, rfl⟩ := names.2 label release pending
    exact ⟨rfl, rfl, rfl, rfl, rfl, rfl, fun _ _ => rfl⟩

theorem onlyGate_disposeEach {handles : List HandleId}
    (names : ∀ handle ∈ handles, Names .plain env handle) :
    env.OnlyGate id (disposeEach disposePlain env handles).1 := by
  induction handles generalizing env with
  | nil => exact ⟨rfl, rfl, rfl, rfl, rfl, rfl, fun _ _ => rfl⟩
  | cons handle rest ih =>
    have own := names handle List.mem_cons_self
    have later := Edits.evolves (disposePlain_edits own)
    have first : env.OnlyGate id (env.disposePlain handle).1 := onlyGate_disposePlain own
    refine first.trans (ih fun other mem => ?_)
    exact (names other (List.mem_cons_of_mem _ mem)).mono later

/-- Setting a gate touches no other gate, and the engine hears nothing of it. -/
theorem onlyGate_setEnabled (tidy : env.Tidy) (enabled : Bool) :
    env.OnlyGate id (env.setEnabled id enabled).1 := by
  have sets (gate : FeatureGate) : env.OnlyGate id (env.setGate id gate) :=
    ⟨rfl, rfl, rfl, rfl, rfl, rfl, fun other ne => by simp [gate_setGate, ne]⟩
  cases enabled with
  | true =>
    by_cases isOpen : (env.gate id).isEnabled = true
    · have idle : env.enableGate id = (env, .unchanged) := by simp [enableGate, isOpen]
      rw [setEnabled, if_pos rfl, idle]
      exact ⟨rfl, rfl, rfl, rfl, rfl, rfl, fun _ _ => rfl⟩
    · obtain ⟨journal, opened⟩ := enableGate_eq (by simpa using isOpen)
      have others := (sets { env.gate id with active := some env.nextPair }).gates
      rw [setEnabled, if_pos rfl, opened]
      exact ⟨rfl, rfl, rfl, rfl, rfl, rfl, others⟩
  | false =>
    rw [setEnabled, if_neg (by decide)]
    cases active : (env.gate id).active with
    | none =>
      rw [disableGate_closed_eq (by simp [FeatureGate.isEnabled, active])]
      exact ⟨rfl, rfl, rfl, rfl, rfl, rfl, fun _ _ => rfl⟩
    | some held =>
      -- taking the handles out leaves the table as it is, so they still name providers
      have names : ∀ handle ∈ held.reverse,
          Names .plain (env.setGate id { env.gate id with active := none }) handle := by
        intro handle mem
        have own : handle ∈ (env.gate id).held := by
          simpa [FeatureGate.held, active] using mem
        exact (gate_holds env id tidy).names own
      have disposed := (sets _).trans (onlyGate_disposeEach names)
      unfold disableGate FeatureGate.takeActive
      rw [active]
      exact { disposed with }

end Environment

/-- What happens around a router: the settings are changed, the engine answers or refuses, and
somebody else sets the gate. -/
inductive RouterMove where
  | source (source : SettingsSource)
  | files (files : FileTree)
  | release (key : String)
  | grant (ticket : TicketId)
  | refuse (refusals : Refusals)
  | gate (enabled : Bool)

/-- A chance that a change had: what it found, what it left, and how far it came. -/
structure RouteChance where
  before : Environment
  after : Environment
  progress : Progress RouteCall RouteResult

/-- What the engine was asked in a chance. -/
def RouteChance.asked (chance : RouteChance) : List EngineCall :=
  chance.after.engine.calls.drop chance.before.engine.calls.length

namespace Router

/-- What the surroundings do. -/
def surround (router : Router) (env : Environment) : RouterMove → Environment
  | .source source => { env with source }
  | .files files => { env with files }
  | .release key => { env with engine := env.engine.release key }
  | .grant ticket => { env with engine := env.engine.grant ticket }
  | .refuse refusals => { env with engine := { env.engine with refusals } }
  | .gate enabled => (env.setEnabled router.gate enabled).1

/-- Changes on their way through a router. -/
def machine (router : Router) :
    Machine Environment RouteCall RouteResult ConfigChange RouterMove where
  poll := router.poll
  drop := cancel
  accept _ change := some (.arriving change)
  move := router.surround

/-- What a chance shows. -/
def chance (router : Router) (env : Environment) (call : RouteCall) : List RouteChance :=
  [⟨env, (router.poll env call).1, (router.poll env call).2⟩]

/-- A router whose gate was made and whose session is not disposed, where gates hold providers and
requests have their numbers. -/
structure Ready (router : Router) (env : Environment) : Prop where
  tidy : env.Tidy
  gate : router.gate < env.gates.length
  live : env.engine.isDisposed router.session = false
  counted : env.engine.Counted

/-- The engine is asked in the first chance for the profile of that moment and never again, no
chance touches anything else, and the change comes to what the engine answers. -/
structure Applies (router : Router) (first : RouteChance) (later : List RouteChance) : Prop where
  once : first.asked = [.request router.session (.configure first.before.profile.2)]
  never_again : ∀ chance ∈ later, chance.asked = []
  spares : ∀ chance ∈ first :: later, chance.before.OnlyEngine chance.after
  answers : ∀ chance ∈ first :: later, ∀ result, chance.progress = .finished result →
    result = (chance.before.engine.answer (.configure first.before.profile.2)).map fun _ =>
      some (.profile first.before.profile.2)

/-- The gate is set to the toggle of that moment, and nothing but the gate and its providers is
touched. -/
structure Sets (router : Router) (only : RouteChance) : Prop where
  gate : (only.after.gate router.gate).isEnabled = only.before.formatting.2
  reports : only.progress = .finished (.ok (some (.formatting
    ((only.before.gate router.gate).transitionTo only.before.formatting.2))))
  spares : only.before.OnlyGate router.gate only.after

/-- Nothing is done but to note the keys. -/
structure Ignores (change : ConfigChange) (only : RouteChance) : Prop where
  after : only.after = only.before.log [.routeIgnored change.keys]
  reports : only.progress = .finished (.ok none)

/-- The chances of a change show the one reaction that its keys call for. -/
def Reacts (router : Router) (change : ConfigChange) : List RouteChance → Prop
  | [] => True
  | first :: later =>
    if change.affects ConfigChange.profileKey then router.Applies first later
    else later = [] ∧ if change.affects ConfigChange.formattingKey then router.Sets first
      else Ignores change first

/-- What a change has shown when it is so far on its way. -/
def Course (router : Router) (change : ConfigChange) (env : Environment) :
    Option RouteCall → List RouteChance → Prop
  | some (.arriving waiting), chances => waiting = change ∧ chances = []
  | some (.applying profile ticket), chances =>
    change.affects ConfigChange.profileKey = true ∧ ∃ first later, chances = first :: later ∧
      router.Applies first later ∧ profile = first.before.profile.2 ∧
      env.engine.made[ticket]? = some (router.session, .configure profile)
  | none, chances => router.Reacts change chances

/-- The engine's answer to a profile was looked for. -/
structure Looked (env : Environment) (profile : Profile) (ticket : TicketId) (after : Environment)
    (progress : Progress RouteCall RouteResult) : Prop where
  spares : env.OnlyEngine after
  calls : after.engine.calls = env.engine.calls
  sessions : after.engine.sessions = env.engine.sessions
  counted : after.engine.Counted
  waits : ∀ next, progress = .pending next → next = .applying profile ticket
  answers : ∀ session, env.engine.made[ticket]? = some (session, .configure profile) →
    ∀ result, progress = .finished result →
      result = (env.engine.answer (.configure profile)).map fun _ => some (.profile profile)

end Router

namespace Router
variable {router : Router} {env env' : Environment} {change : ConfigChange} {profile : Profile}
  {ticket : TicketId} {progress : Progress RouteCall RouteResult}

theorem silent_poll (router : Router) (env : Environment) (call : RouteCall) :
    (router.poll env call).map Environment.silent id =
      (router.poll env.silent call).map Environment.silent id := by
  have polled := (Past.mere env.journal id).router_poll env.silent router call
  rw [env.mere_silent, World.mere_shift, Shift.zero_route, id,
    show Shift.zero.router router = router by simp [Shift.router, Shift.zero]] at polled
  rw [polled]
  exact Prod.ext (Environment.silent_mere _ _) (Progress.map_self _)

/-! ## One chance -/

theorem looked (counted : env.engine.Counted) (profile : Profile) (ticket : TicketId) :
    Looked env profile ticket (pollApplying env profile ticket).1
      (pollApplying env profile ticket).2 := by
  cases collected : env.engine.collect? ticket with
  | none =>
    have waits : pollApplying env profile ticket = (env, .pending (.applying profile ticket)) := by
      simp only [pollApplying, Environment.collectProfile?_unanswered collected]
    rw [waits]
    exact ⟨⟨rfl, rfl, rfl, rfl, rfl, rfl, rfl, rfl⟩, rfl, rfl, counted,
      fun next pending => (Progress.pending.inj pending).symm, nofun⟩
  | some outcome =>
    obtain ⟨engine, answer⟩ := outcome
    have ends : pollApplying env profile ticket =
        (Environment.log { env with engine } (Session.appliedEntries profile answer),
          .finished (answer.map fun _ => some (.profile profile))) := by
      simp only [pollApplying, Environment.collectProfile?_answered collected]
    have kept := counted.collect? collected
    obtain ⟨own, mem, rfl, -, rfl, rfl⟩ := Engine.collect?_eq collected
    rw [ends]
    refine ⟨⟨rfl, rfl, rfl, rfl, rfl, rfl, rfl, rfl⟩, rfl, rfl, kept, nofun, ?_⟩
    intro session asked result finished
    -- the request that has the number is the one that was answered
    have claimed := counted.places own.claim (List.mem_map_of_mem mem)
    have same : own.claim.2 = (session, .configure profile) :=
      Option.some.inj (claimed.symm.trans asked)
    rw [← Progress.finished.inj finished, show own.request = .configure profile from
      congrArg Prod.snd same]

/-- A change of the profile hands the profile as it is now to the engine and looks for the answer. -/
theorem routeProfile_eq (live : env.engine.isDisposed router.session = false) :
    ∃ journal, router.routeProfile env = pollApplying
      { env with
        engine := (env.engine.issue router.session (.configure env.profile.2)).1
        journal } env.profile.2 (env.engine.issue router.session (.configure env.profile.2)).2 := by
  have still : (env.profile.1.log [.routeProfile ConfigChange.profileKey
      env.profile.2]).engine.isDisposed router.session = false := live
  simp only [routeProfile, Environment.applyProfile, Session.applyProfile, Session.request, still,
    Bool.false_eq_true, if_false]
  exact ⟨_, rfl⟩

/-- A session that was disposed is not asked to apply anything. -/
theorem routeProfile_refused (disposed : env.engine.isDisposed router.session = true) :
    ∃ journal, router.routeProfile env = ({ env with journal }, .finished (.error .disposed)) := by
  have still : (env.profile.1.log [.routeProfile ConfigChange.profileKey
      env.profile.2]).engine.isDisposed router.session = true := disposed
  simp only [routeProfile, Environment.applyProfile, Session.applyProfile, Session.request, still,
    if_true]
  exact ⟨_, rfl⟩

namespace Ready

/-- A new session and a new gate. -/
theorem of_new {engine : Engine} {session : SessionId} (tidy : env.Tidy)
    (counted : env.engine.Counted) (created : env.engine.create none = .ok (engine, session))
    (language : String) :
    Ready ⟨session, env.gates.length⟩ (Environment.makeGate { env with engine } language).1 := by
  unfold Engine.create at created
  split at created
  · cases created
  · obtain ⟨rfl, rfl⟩ := Prod.mk.inj (Except.ok.inj created)
    have made : (env.engine.record (.create env.engine.sessions.length)).made = env.engine.made := by
      simp [Engine.made, Engine.record, EngineCall.asking?]
    refine ⟨⟨?_, tidy.subscriptions⟩, ?_, ?_, ⟨?_, counted.grow, ?_⟩⟩
    · intro gate mem
      rcases List.mem_append.mp mem with old | new
      · exact tidy.gates gate old
      · rw [List.mem_singleton.mp new]
        intro handles active
        contradiction
    · simp [Environment.makeGate]
    · simp [Environment.makeGate, Engine.isDisposed, Engine.record]
    · exact counted.next.trans (congrArg List.length made.symm)
    · intro claim mem
      exact (congrArg (·[claim.1]?) made).trans (counted.places claim mem)

theorem onlyEngine (ready : router.Ready env) (same : env.OnlyEngine env')
    (sessions : env'.engine.sessions = env.engine.sessions) (counted : env'.engine.Counted) :
    router.Ready env' where
  tidy := same.tidy ready.tidy
  gate := same.gates ▸ ready.gate
  live := by
    unfold Engine.isDisposed
    rw [sessions]
    exact ready.live
  counted := counted

theorem looked (ready : router.Ready env)
    (looked : Looked env profile ticket env' progress) : router.Ready env' :=
  ready.onlyEngine looked.spares looked.sessions looked.counted

theorem log (ready : router.Ready env) (journal : Journal) : router.Ready (env.log journal) :=
  ready.onlyEngine ⟨rfl, rfl, rfl, rfl, rfl, rfl, rfl, rfl⟩ rfl ready.counted

theorem issued (ready : router.Ready env) (profile : Profile) (journal : Journal) :
    router.Ready { env with
      engine := (env.engine.issue router.session (.configure profile)).1
      journal } :=
  ready.onlyEngine ⟨rfl, rfl, rfl, rfl, rfl, rfl, rfl, rfl⟩ (Engine.issue_sessions _ _ _)
    (ready.counted.issue _ _)

theorem setEnabled (ready : router.Ready env) (enabled : Bool) :
    router.Ready (env.setEnabled router.gate enabled).1 := by
  have edits : Environment.Edits .all env (env.setEnabled router.gate enabled).1 :=
    Environment.setEnabled_edits enabled ready.tidy trivial
  have same : env.OnlyGate router.gate (env.setEnabled router.gate enabled).1 :=
    Environment.onlyGate_setEnabled ready.tidy enabled
  refine ⟨Environment.Edits.tidy edits ready.tidy, ?_, ?_, ?_⟩
  · exact Nat.lt_of_lt_of_le ready.gate (Environment.Edits.evolves edits).gates
  · rw [same.engine]
    exact ready.live
  · rw [same.engine]
    exact ready.counted

end Ready

/-- What the first chance of a change of the profile comes to. -/
theorem route_profile (ready : router.Ready env)
    (touches : change.affects ConfigChange.profileKey = true)
    (polled : router.poll env (.arriving change) = (env', progress)) :
    router.Applies ⟨env, env', progress⟩ [] ∧ router.Ready env' ∧
      ∀ next, progress = .pending next → ∃ ticket, next = .applying env.profile.2 ticket ∧
        env'.engine.made[ticket]? = some (router.session, .configure env.profile.2) := by
  obtain ⟨journal, routed⟩ := routeProfile_eq ready.live
  have issued := ready.issued env.profile.2 journal
  have number := ready.counted.made_number router.session (.configure env.profile.2)
  have looks := Router.looked issued.counted env.profile.2
    (env.engine.issue router.session (.configure env.profile.2)).2
  have first : env.OnlyEngine { env with
      engine := (env.engine.issue router.session (.configure env.profile.2)).1
      journal } := ⟨rfl, rfl, rfl, rfl, rfl, rfl, rfl, rfl⟩
  simp only [poll, route, touches, if_true] at polled
  rw [← routed, polled] at looks
  have calls : env'.engine.calls =
      env.engine.calls ++ [.request router.session (.configure env.profile.2)] :=
    looks.calls.trans (Engine.issue_calls _ _ _)
  refine ⟨⟨?_, List.forall_mem_nil _, ?_, ?_⟩, issued.looked looks, ?_⟩
  · simp only [RouteChance.asked, calls, List.drop_left]
  · intro chance mem
    rw [List.mem_singleton.mp mem]
    exact first.trans looks.spares
  · intro chance mem result finished
    rw [List.mem_singleton.mp mem] at finished ⊢
    rw [looks.answers router.session number result finished]
    exact congrArg _ (Engine.issue_answer _ _ _ _)
  · intro next pending
    refine ⟨_, looks.waits next pending, ?_⟩
    rw [Engine.made, looks.calls]
    exact number

theorem route_formatting (ready : router.Ready env)
    (other : change.affects ConfigChange.profileKey = false)
    (touches : change.affects ConfigChange.formattingKey = true)
    (polled : router.poll env (.arriving change) = (env', progress)) :
    router.Sets ⟨env, env', progress⟩ ∧ router.Ready env' := by
  have read : router.Ready (env.formatting.1.log
      [.routeFormatting ConfigChange.formattingKey env.formatting.2]) :=
    ready.onlyEngine ⟨rfl, rfl, rfl, rfl, rfl, rfl, rfl, rfl⟩ rfl ready.counted
  have first : env.OnlyGate router.gate (env.formatting.1.log
      [.routeFormatting ConfigChange.formattingKey env.formatting.2]) :=
    ⟨rfl, rfl, rfl, rfl, rfl, rfl, fun _ _ => rfl⟩
  simp only [poll, route, other, touches, Bool.false_eq_true, if_false, if_true] at polled
  obtain ⟨rfl, rfl⟩ := Prod.mk.inj polled
  refine ⟨⟨?_, ?_, ?_⟩, read.setEnabled env.formatting.2⟩
  · exact Environment.setEnabled_isEnabled env.formatting.2 read.gate
  · simp only [routeFormatting, Environment.setEnabled_transition]
    rfl
  · exact first.trans (Environment.onlyGate_setEnabled read.tidy env.formatting.2)

theorem route_ignored (other : change.affects ConfigChange.profileKey = false)
    (neither : change.affects ConfigChange.formattingKey = false)
    (polled : router.poll env (.arriving change) = (env', progress)) :
    Ignores change ⟨env, env', progress⟩ := by
  simp only [poll, route, other, neither, Bool.false_eq_true, if_false] at polled
  obtain ⟨rfl, rfl⟩ := Prod.mk.inj polled
  exact ⟨rfl, rfl⟩

/-! ## The way of a change -/

theorem Ready.poll (ready : router.Ready env) (call : RouteCall) :
    router.Ready (router.poll env call).1 := by
  rcases polled : router.poll env call with ⟨env', progress⟩
  cases call with
  | applying profile ticket =>
    have looks := Router.looked ready.counted profile ticket
    rw [show pollApplying env profile ticket = _ from polled] at looks
    exact ready.looked looks
  | arriving change =>
    by_cases profile : change.affects ConfigChange.profileKey = true
    · exact (route_profile ready profile polled).2.1
    · have other : change.affects ConfigChange.profileKey = false := by simpa using profile
      by_cases formatting : change.affects ConfigChange.formattingKey = true
      · exact (route_formatting ready other formatting polled).2
      · have ignores := route_ignored other (by simpa using formatting) polled
        show router.Ready env'
        rw [show env' = _ from ignores.after]
        exact ready.log _

theorem Ready.cancel (ready : router.Ready env) (call : RouteCall) :
    router.Ready (cancel env call) := by
  cases call with
  | arriving change => exact ready
  | applying profile ticket =>
    have counted := ready.counted.cancel ticket
    obtain ⟨tickets, permits, cancelled, -⟩ := env.engine.cancel_eq ticket
    have sessions : (env.engine.cancel ticket).sessions = env.engine.sessions := by rw [cancelled]
    exact ready.onlyEngine ⟨rfl, rfl, rfl, rfl, rfl, rfl, rfl, rfl⟩ sessions counted

theorem Ready.surround (ready : router.Ready env) (move : RouterMove) :
    router.Ready (router.surround env move) := by
  cases move with
  | source | files => exact { ready with tidy := { ready.tidy with } }
  | release key =>
    have counted := (Engine.Still.release env.engine key).counted ready.counted
    obtain ⟨tickets, permits, released, -⟩ := env.engine.release_eq key
    have sessions : (env.engine.release key).sessions = env.engine.sessions := by rw [released]
    exact ready.onlyEngine ⟨rfl, rfl, rfl, rfl, rfl, rfl, rfl, rfl⟩ sessions counted
  | grant ticket =>
    have counted := (Engine.Still.grant env.engine ticket).counted ready.counted
    exact ready.onlyEngine ⟨rfl, rfl, rfl, rfl, rfl, rfl, rfl, rfl⟩ rfl counted
  | refuse refusals =>
    exact ready.onlyEngine ⟨rfl, rfl, rfl, rfl, rfl, rfl, rfl, rfl⟩ rfl { ready.counted with }
  | gate enabled => exact ready.setEnabled enabled

theorem ready_keeps (router : Router) : router.machine.Keeps fun env _ => router.Ready env where
  perm _ ready := ready
  accept ready _ := ready
  poll ready := ready.poll _
  drop ready := ready.cancel _
  move way ready := ready.surround way

theorem calls_cancel (env : Environment) (call : RouteCall) :
    (cancel env call).engine.calls = env.engine.calls := by
  cases call with
  | arriving change => rfl
  | applying profile ticket =>
    obtain ⟨tickets, permits, cancelled, -⟩ := env.engine.cancel_eq ticket
    show (env.engine.cancel ticket).calls = _
    rw [cancelled]

theorem calls_surround (tidy : env.Tidy) (move : RouterMove) :
    (router.surround env move).engine.calls = env.engine.calls := by
  cases move with
  | release key =>
    obtain ⟨tickets, permits, released, -⟩ := env.engine.release_eq key
    show (env.engine.release key).calls = _
    rw [released]
  | gate enabled =>
    have same : env.OnlyGate router.gate (env.setEnabled router.gate enabled).1 :=
      Environment.onlyGate_setEnabled tidy enabled
    exact congrArg Engine.calls same.engine
  | source | files | grant | refuse => rfl

theorem calls_poll (router : Router) (tidy : env.Tidy) (call : RouteCall) :
    env.engine.calls <+: (router.poll env call).1.engine.calls := by
  have edits : Environment.Edits .all env (router.poll env call).1 :=
    router.poll_edits tidy trivial trivial call
  exact (Environment.Edits.evolves edits).calls

/-- The engine is asked in chances and at no other time. -/
theorem calls_tells (router : Router) (start : Environment) :
    router.machine.Tells router.chance fun env _ history =>
      router.Ready env ∧
        env.engine.calls = start.engine.calls ++ history.flatMap RouteChance.asked where
  perm _ h := h
  accept h _ := h
  poll {env call calls history} h := by
    obtain ⟨ready, same⟩ := h
    obtain ⟨more, grown⟩ := router.calls_poll ready.tidy call
    refine ⟨ready.poll call, ?_⟩
    show (router.poll env call).1.engine.calls = _
    simp only [chance, List.flatMap_append, List.flatMap_singleton, RouteChance.asked, ← grown,
      List.drop_left]
    rw [← List.append_assoc, ← same]
  drop h := ⟨h.1.cancel _, (calls_cancel _ _).trans h.2⟩
  move way h := ⟨h.1.surround way, (calls_surround h.1.tidy way).trans h.2⟩

theorem Course.later {own : Option RouteCall} {chances : List RouteChance}
    (course : router.Course change env own chances)
    (grows : env.engine.calls <+: env'.engine.calls) : router.Course change env' own chances := by
  match own with
  | none | some (.arriving _) => exact course
  | some (.applying profile ticket) =>
    obtain ⟨touches, first, further, split, applies, same, asked⟩ := course
    refine ⟨touches, first, further, split, applies, same, ?_⟩
    have made : env.engine.made <+: env'.engine.made := grows.filterMap EngineCall.asking?
    obtain ⟨more, made⟩ := made
    rw [← made, List.getElem?_append_left (List.getElem?_eq_some_iff.mp asked).1]
    exact asked

/-- Wherever a change is on its way, it has shown one reaction or nothing. -/
theorem Course.reacts {own : Option RouteCall} {chances : List RouteChance}
    (course : router.Course change env own chances) : router.Reacts change chances := by
  match own with
  | none => exact course
  | some (.arriving waiting) =>
    obtain ⟨-, rfl⟩ := course
    trivial
  | some (.applying profile ticket) =>
    obtain ⟨touches, first, further, rfl, applies, -⟩ := course
    simpa only [Reacts, touches, if_true] using applies

/-- A further chance of a change of the profile only looks for the answer. -/
theorem Applies.further {first : RouteChance} {further : List RouteChance} {after : Environment}
    (applies : router.Applies first further)
    (looked : Looked env first.before.profile.2 ticket after progress)
    (asked : env.engine.made[ticket]? = some (router.session, .configure first.before.profile.2)) :
    router.Applies first (further ++ [⟨env, after, progress⟩]) where
  once := applies.once
  never_again chance mem := by
    rcases List.mem_append.mp mem with old | new
    · exact applies.never_again chance old
    · rw [List.mem_singleton.mp new, RouteChance.asked, looked.calls, List.drop_length]
  spares chance mem := by
    rw [← List.cons_append] at mem
    rcases List.mem_append.mp mem with old | new
    · exact applies.spares chance old
    · rw [List.mem_singleton.mp new]
      exact looked.spares
  answers chance mem result finished := by
    rw [← List.cons_append] at mem
    rcases List.mem_append.mp mem with old | new
    · exact applies.answers chance old result finished
    · rw [List.mem_singleton.mp new] at finished ⊢
      exact looked.answers router.session asked result finished

theorem course_applying (ready : router.Ready env) {chances : List RouteChance}
    (course : router.Course change env (some (.applying profile ticket)) chances)
    (polled : router.poll env (.applying profile ticket) = (env', progress)) :
    router.Course change env' progress.rest.head? (chances ++ [⟨env, env', progress⟩]) := by
  obtain ⟨touches, first, further, rfl, applies, rfl, asked⟩ := course
  have looks := Router.looked ready.counted first.before.profile.2 ticket
  rw [show pollApplying env first.before.profile.2 ticket = _ from polled] at looks
  have more : router.Applies first (further ++ [⟨env, env', progress⟩]) :=
    applies.further looks asked
  cases progress with
  | pending next =>
    obtain rfl := looks.waits next rfl
    refine ⟨touches, first, _, rfl, more, rfl, ?_⟩
    rw [Engine.made, looks.calls]
    exact asked
  | finished result =>
    show router.Reacts change (first :: (further ++ _))
    simpa only [Reacts, touches, if_true] using more

theorem course_arriving (ready : router.Ready env)
    (polled : router.poll env (.arriving change) = (env', progress)) :
    router.Course change env' progress.rest.head? [⟨env, env', progress⟩] := by
  by_cases profile : change.affects ConfigChange.profileKey = true
  · obtain ⟨applies, -, waits⟩ := route_profile ready profile polled
    cases progress with
    | pending next =>
      obtain ⟨ticket, rfl, made⟩ := waits next rfl
      exact ⟨profile, _, [], rfl, applies, rfl, made⟩
    | finished result =>
      show router.Reacts change [_]
      simpa only [Reacts, profile, if_true] using applies
  · have other : change.affects ConfigChange.profileKey = false := by simpa using profile
    by_cases formatting : change.affects ConfigChange.formattingKey = true
    · obtain ⟨sets, -⟩ := route_formatting ready other formatting polled
      have ended : progress.rest = [] := by rw [show progress = _ from sets.reports]; rfl
      rw [ended]
      show router.Reacts change [_]
      simpa only [Reacts, other, formatting, Bool.false_eq_true, if_false, if_true, true_and]
        using sets
    · have ignores := route_ignored other (by simpa using formatting) polled
      have ended : progress.rest = [] := by rw [show progress = _ from ignores.reports]; rfl
      rw [ended]
      show router.Reacts change [_]
      simpa only [Reacts, other, formatting, Bool.false_eq_true, if_false, true_and] using ignores

/-- **What one change shows** in any run. -/
theorem course_follows (router : Router) (change : ConfigChange) :
    router.machine.Follows router.chance (fun env _ => router.Ready env)
      (router.Course change) where
  own {env call calls chances} ready course := by
    cases call with
    | applying profile ticket => exact course_applying ready course rfl
    | arriving waiting =>
      obtain ⟨rfl, rfl⟩ := course
      exact course_arriving ready rfl
  poll ready course := course.later (router.calls_poll ready.tidy _)
  drop _ course := course.later (calls_cancel _ _ ▸ List.prefix_refl _)
  move way ready course := course.later (calls_surround ready.tidy way ▸ List.prefix_refl _)

/-- A change that is routed shows one reaction, whatever comes before it and after it. -/
theorem reacts_run (ready : router.Ready env) (before later : List (Action ConfigChange RouterMove))
    (change : ConfigChange) :
    router.Reacts change (Machine.notesOf (router.machine.run (.idle env) before).started
      (router.machine.chronicle router.chance (.idle env) (before ++ .start change :: later))) := by
  have first : router.Ready (Work.idle env : Work Environment RouteCall RouteResult).state := ready
  have ready' := router.ready_keeps.perform (router.ready_keeps.run first before) (.start change)
  have numbered := Machine.numbered_run (m := router.machine) (.idle env) before
  have started : router.machine.perform (router.machine.run (.idle env) before)
      (.start change) = _ := Machine.perform_start rfl
  have own : (router.machine.perform (router.machine.run (.idle env) before)
      (.start change)).call? (router.machine.run (.idle env) before).started =
        some (.arriving change) := Machine.call?_start_own numbered rfl
  have course : router.Course change (router.machine.perform
      (router.machine.run (.idle env) before) (.start change)).state
      ((router.machine.perform (router.machine.run (.idle env) before)
        (.start change)).call? (router.machine.run (.idle env) before).started) [] := by
    rw [own]
    exact ⟨rfl, rfl⟩
  have shown := (router.course_follows change).run_any router.ready_keeps
    (fun _ course => course.reacts) ready' (Machine.numbered_perform numbered (.start change))
    (by rw [started]; exact Nat.lt_succ_self _) course later
  rw [Machine.notesOf_from (.idle env) _ (Nat.le_refl _)]
  exact shown.reacts

/-! ## The keys of a change -/

theorem route_touched (router : Router) (env : Environment) (change : ConfigChange) :
    (router.poll env (.arriving change)).map Environment.silent id =
      (router.poll env (.arriving change.touched)).map Environment.silent id := by
  simp only [poll, route, ConfigChange.affects_touched_profile,
    ConfigChange.affects_touched_formatting]
  split
  · rfl
  · split <;> rfl

/-- Nobody reads the journal, and of a change only the recognized keys that it touches. -/
theorem blind (router : Router) :
    router.machine.Blind Environment.silent RouteCall.touched ConfigChange.touched where
  poll {env env' call call'} silent touched := by
    have alone (env : Environment) (call : RouteCall) :
        (router.poll env call).map Environment.silent id =
          (router.poll env.silent call.touched).map Environment.silent id := by
      cases call with
      | applying profile ticket => exact router.silent_poll env _
      | arriving change =>
        exact (router.route_touched env change).trans (router.silent_poll env _)
    have other := alone env' call'
    rw [← silent, ← touched] at other
    exact congrArg (Prod.map id (Progress.map RouteCall.touched id))
      ((alone env call).trans other.symm)
  drop {env env' call call'} silent touched := by
    have alone (env : Environment) (call : RouteCall) :
        (cancel env call).silent = (cancel env.silent call.touched).silent := by
      cases call <;> rfl
    have other := alone env' call'
    rw [← silent, ← touched] at other
    exact (alone env call).trans other.symm
  accept _ touched := congrArg (fun change => some (RouteCall.arriving change)) touched
  move {env env'} move silent := by
    have alone (env : Environment) :
        (router.surround env move).silent = (router.surround env.silent move).silent := by
      cases move with
      | gate enabled => exact env.silent_setEnabled router.gate enabled
      | source | files | release | grant | refuse => rfl
    have other := alone env'
    rw [← silent] at other
    exact (alone env).trans other.symm

end Router

/-- **One reaction to each change.**  However changes, settings, answers, refusals and other
requests to the gate are mixed, each chance is one of a change that was routed, and the engine is
asked in those chances and at no other time.  A change with a key that is the profile's, inside it or
around it asks the engine once, for the profile of the settings at its first chance, and leaves the
gate and the providers alone for good; if not, one with a key so related to the formatting toggle
sets the gate to the toggle at its only chance and tells what that did; any other does nothing.  What
comes of all this depends neither on the order of changed keys nor on their repetition. -/
theorem one_reaction_per_change (router : Router) (env : Environment) (ready : router.Ready env)
    (actions : List (Action ConfigChange RouterMove)) :
    let work := router.machine.run (.idle env) actions
    let chronicle := router.machine.chronicle router.chance (.idle env) actions
    (work.state.engine.calls =
        env.engine.calls ++ (chronicle.map (·.2)).flatMap RouteChance.asked ∧
      ∀ entry ∈ chronicle, ∃ before change later, actions = before ++ .start change :: later ∧
        (router.machine.run (.idle env) before).started = entry.1) ∧
    (∀ before change later, actions = before ++ .start change :: later →
      let number := (router.machine.run (.idle env) before).started
      let chances := Machine.notesOf number chronicle
      work.resultsOf number = chances.flatMap (·.progress.result) ∧
      ∀ first further, chances = first :: further →
        (change.Names ConfigChange.profileKey → router.Applies first further) ∧
        (¬change.Names ConfigChange.profileKey → change.Names ConfigChange.formattingKey →
          further = [] ∧ router.Sets first) ∧
        (¬change.Names ConfigChange.profileKey → ¬change.Names ConfigChange.formattingKey →
          further = [] ∧ Router.Ignores change first)) ∧
    ∀ actions', List.Forall₂ (Action.Alike ConfigChange.SameKeys) actions actions' →
      let work' := router.machine.run (.idle env) actions'
      work'.results = work.results ∧ work'.state.silent = work.state.silent := by
  intro work chronicle
  refine ⟨⟨?_, ?_⟩, ?_, ?_⟩
  · let idle : Work Environment RouteCall RouteResult := .idle env
    have start : router.Ready idle.state ∧ idle.state.engine.calls =
        env.engine.calls ++ ([] : List RouteChance).flatMap RouteChance.asked :=
      ⟨ready, (List.append_nil _).symm⟩
    exact ((router.calls_tells env).run start actions).2
  · intro entry mem
    exact Machine.start_of_number (Nat.zero_le _) (Machine.chronicle_started (.idle env) mem)
  · rintro before change later rfl number chances
    have reacts := Router.reacts_run ready before later change
    refine ⟨Machine.resultsOf_run (fun _ _ => (List.append_nil _).symm) number _, ?_⟩
    intro first further split
    rw [show Machine.notesOf _ _ = _ from split] at reacts
    simp only [← ConfigChange.affects_iff_names, Bool.not_eq_true]
    refine ⟨fun profile => ?_, fun other formatting => ?_, fun other neither => ?_⟩
    · simpa only [Router.Reacts, profile, if_true] using reacts
    · simpa only [Router.Reacts, other, formatting, if_true, Bool.false_eq_true, if_false] using reacts
    · simpa only [Router.Reacts, other, neither, Bool.false_eq_true, if_false] using reacts
  · intro actions' alike work'
    have touched := Action.map_eq_of_alike alike fun _ _ => ConfigChange.touched_congr
    have same := router.blind.run (rfl : (Work.idle env : Work _ _ RouteResult).map _ _ = _) touched
    obtain ⟨state, -, -, results⟩ := Work.mk.inj same
    exact ⟨results.symm, state.symm⟩

/-- A change of the whole section while the engine refuses profiles: the engine is asked for the one
that is not recognized, and the gate stays closed until a change inside the toggle opens it. -/
theorem one_reaction_per_change_of_refused_profile :
    let host : Environment := .initial
      (.initial ⟨false, false, false⟩ ⟨false, false, true, []⟩ ["configure@edge"]) ⟨.directory []⟩
      (.memory ⟨.unrecognized "edge", true⟩) []
    let engine : Engine := { host.engine with calls := [.create 0], sessions := [⟨false, none⟩] }
    let env := (Environment.makeGate { host with engine } "qsharp").1
    let router : Router := ⟨0, 0⟩
    let whole : ConfigChange := ⟨["qside.enableFormatting", "qside", "qside"]⟩
    let inside : ConfigChange := ⟨["qside.enableFormatting.onSave"]⟩
    let actions : List (Action ConfigChange RouterMove) :=
      [.start whole, .start ⟨["editor"]⟩, .poll 0, .poll 0, .start inside, .poll 1, .poll 1,
        .move (.release "configure@edge"), .poll 0]
    let work := router.machine.run (.idle env) actions
    router.Ready env ∧ whole.Names ConfigChange.profileKey ∧
      work.results.map (·.1) = [1, 2, 0] ∧ work.resultsOf 2 = [.ok (some (.formatting .registered))] ∧
      work.state.engine.calls = [.create 0, .request 0 (.configure (.unrecognized "edge"))] ∧
      ∃ first further, Machine.notesOf 0 (router.machine.chronicle router.chance (.idle env) actions) =
        first :: further ∧ router.Applies first further := by
  intro host engine env router whole inside actions work
  have counted : host.engine.Counted := ⟨rfl, .nil, List.forall_mem_nil _⟩
  have ready : router.Ready env := Router.Ready.of_new
    ⟨List.forall_mem_nil _, List.forall_mem_nil _⟩ counted rfl "qsharp"
  have named : whole.Names ConfigChange.profileKey :=
    ConfigChange.affects_iff_names.mp (by decide +kernel)
  obtain ⟨-, changes, -⟩ := one_reaction_per_change router env ready actions
  obtain ⟨-, reacts⟩ := changes [] whole _ rfl
  refine ⟨ready, named, by decide +kernel, by decide +kernel, by decide +kernel, _, _, rfl, ?_⟩
  exact (reacts _ _ rfl).1 named

end EngineSync
