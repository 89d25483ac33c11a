import EngineSync.Proofs.Finality
import EngineSync.Proofs.Fences

/-!
# Activations that fail

An activation can fail in five ways: the module cannot be read, it cannot be loaded, no session is
created, the first profile is refused, or one of the open documents is.  Each is the last step of
the chance that brings the failure back, and what the steps before it have built is gone again.
Whatever belongs to somebody else is as it was (`Elsewhere`), and the session, if there was one, has
recorded its disposal as the last thing it will ever record.
-/
namespace EngineSync
namespace World

/-- Everything is as it was that does not belong to one activation: the other listeners, the other
activations and their gates. -/
structure Elsewhere (id : ActivationId) (world world' : World) : Prop where
  bus : world'.env.bus.subscriptions.filter (·.listener ≠ .activation id) =
    world.env.bus.subscriptions.filter (·.listener ≠ .activation id)
  cores : world'.cores.eraseIdx id = world.cores.eraseIdx id
  gates : ∀ core ∈ world.cores.eraseIdx id, world'.env.gate core.gate = world.env.gate core.gate

namespace Elsewhere
variable {world between world' : World} {call : Call} {calls : List Call} {id : ActivationId}
  {base : List ProviderKind} {name : String} {settings : Settings} {replay : Replay}

theorem refl (id : ActivationId) (world : World) : Elsewhere id world world :=
  ⟨rfl, rfl, fun _ _ => rfl⟩

theorem trans (h : Elsewhere id world between) (h' : Elsewhere id between world') :
    Elsewhere id world world' :=
  ⟨h'.bus.trans h.bus, h'.cores.trans h.cores, fun core mem =>
    (h'.gates core (h.cores ▸ mem)).trans (h.gates core mem)⟩

/-- Neither the bus nor gates nor activations have changed, lanes and barriers apart. -/
theorem of_eq (bus : world'.env.bus = world.env.bus) (gates : world'.env.gates = world.env.gates)
    (cores : world'.cores = world.cores) : Elsewhere id world world' :=
  ⟨by rw [bus], by rw [cores], fun core _ => Environment.gate_of_gates gates core.gate⟩

/-- What is left of the providers when those of one activation are gone. -/
theorem others (h : Elsewhere id world world') :
    Environment.Stock.others world'.env world'.cores id =
      Environment.Stock.others world.env world.cores id := by
  unfold Environment.Stock.others
  rw [h.cores]
  exact List.flatMap_congr fun core mem => Environment.Stock.providersOf_gate (h.gates core mem)

/-- An activation is torn down. -/
theorem teardown (sound : Sound world calls) (square : world.Square base)
    (lt : id < world.activations.length) (holds : (world.activation id).owner.held ≠ []) :
    Elsewhere id world (world.teardown id).1 := by
  have own := Sound.core_eq lt
  obtain ⟨first, stocked, row⟩ := Environment.Stock.stocked square own holds
  obtain ⟨handles, journal, -, torn⟩ := Environment.disposeAll_stripped stocked
  have env : (world.teardown id).1.env =
      (world.env.disposeAll (world.activation id).core.owner).1 := rfl
  rw [torn] at env
  refine ⟨?_, ?_, fun core mem => ?_⟩
  · have leaves := Environment.Stock.leave_row sound.owned own stocked row
    have bus : (world.teardown id).1.env.bus.subscriptions =
        world.env.bus.subscriptions.filter (·.listener ≠ .activation id) := by
      rw [env]
      exact leaves
    rw [bus, List.filter_filter]
    simp
  · rw [Square.cores_teardown, List.eraseIdx_set_eq]
  · obtain ⟨id', ne, found⟩ := List.mem_eraseIdx_iff_getElem?.mp mem
    have apart : core.gate ≠ (world.activation id).core.gate := sound.owned.gate_ne own found ne
    have gates : (world.teardown id).1.env.gates =
        world.env.holding (world.activation id).core.gate none := by
      rw [env]
      rfl
    rw [Environment.Stock.gate_holding gates, if_neg fun here => apart here.1]

theorem abandon (sound : Sound world (.activate name (.replaying id settings replay) :: calls))
    (square : world.Square base) : Elsewhere id world (world.abandon id) := by
  have holds := (sound.orderly.replaying id List.mem_cons_self).2
  obtain ⟨moved, lt, own⟩ := sound.abandoning
  have still : Elsewhere id world (world.setBarrier id .abandoned) :=
    .of_eq rfl rfl (Sound.cores_setBarrier world id .abandoned)
  exact still.trans
    (teardown moved (square.setBarrier id .abandoned) lt (by rw [own]; exact holds))

theorem welcome (sound : Sound world calls) (collection : CollectionId) (session : SessionId)
    (settings : Settings) :
    Elsewhere world.activations.length world (world.welcome collection session settings) := by
  obtain ⟨journal, installed⟩ := Activation.install_eq world.language world.activations.length
    session collection settings.formatting world.env
  have env : (world.welcome collection session settings).env = _ := congrArg Prod.fst installed
  have length : world.cores.length = world.activations.length := List.length_map _
  refine ⟨?_, ?_, fun core mem => ?_⟩
  · rw [env]
    simp [Subscription.row, EventKind.all]
  · have cores : (world.welcome collection session settings).cores = world.cores ++
        [(Activation.install world.env world.language world.activations.length session collection
          settings.formatting).2] := List.map_append
    rw [cores, ← length, List.eraseIdx_append_of_length_le (Nat.le_refl _),
      List.eraseIdx_of_length_le (Nat.le_refl _)]
    simp
  · have lt := (sound.owned.within core (List.mem_of_mem_eraseIdx mem)).gate
    rw [env]
    simp [Environment.gate, Environment.formattingGate, List.getElem?_append_left lt]

/-- The open documents make some way. -/
theorem putSync (world : World) (id id' : ActivationId) (sync : Sync) :
    Elsewhere id world (world.putSync id' sync) :=
  .of_eq rfl rfl (Sound.cores_set world id' rfl)

theorem refused {env : Environment} {failure : StartFailure}
    (opened : world.prepared.openSession world.modulePath (some world.env.collections.length) =
      (env, .error failure)) : Elsewhere id world { world with env } := by
  have edits : Environment.Edits .plain world.prepared env :=
    Environment.openSession_refused opened
  have shelf := Environment.shelf_openSession world.prepared world.modulePath
    (some world.env.collections.length)
  rw [opened] at shelf
  have bus := Environment.Edits.bus edits (fun _ no => no) fun number names => by
    rcases names with no | ⟨kind, no⟩ <;> cases no
  exact .of_eq bus shelf.gates rfl

theorem began {env env' : Environment} {session : SessionId} {profile : Profile}
    {ticket : TicketId}
    (opened : world.prepared.openSession world.modulePath (some world.env.collections.length) =
      (env, .ok session))
    (applied : env.applyProfile session profile = (env', .ok ticket)) :
    Elsewhere id world { world with env := env' } := by
  obtain ⟨-, -, size, granted, permits, journal, rfl⟩ := began_eq opened applied
  exact .of_eq rfl rfl rfl

theorem collected {env : Environment} {profile : Profile} {ticket : TicketId}
    {answer : Except EngineFailure Unit}
    (collected : world.env.collectProfile? profile ticket = some (env, answer)) :
    Elsewhere id world { world with env } := by
  obtain ⟨⟨engine, answer'⟩, -, same⟩ := Option.map_eq_some_iff.mp collected
  cases same
  exact .of_eq rfl rfl rfl

theorem disposeSession (world : World) (id : ActivationId) (session : SessionId) :
    Elsewhere id world { world with env := (world.env.disposeSession session).1 } :=
  .of_eq rfl rfl rfl

end Elsewhere

/-! ## Nothing is left -/

/-- Nothing of an activation is left in the world: the others are as they were. -/
structure Undone (base : List ProviderKind) (id : ActivationId) (world after : World) : Prop where
  /-- Its subscriptions are gone, and the others keep their order. -/
  bus : after.env.bus.subscriptions =
    world.env.bus.subscriptions.filter (·.listener ≠ .activation id)
  /-- Live are those that were there from the start and those of the others. -/
  live : after.env.ledger.live.Perm
    (base ++ Environment.Stock.others world.env world.cores id)
  /-- If it ever had a gate, that one holds nothing, and no handle is held by anybody. -/
  gate : id < after.activations.length →
    (after.env.gate (after.activation id).gate).active = none
  held : (after.activation id).owner.held = []

variable {world between after : World} {call : Call} {calls : List Call} {id : ActivationId}
  {base : List ProviderKind} {name : String} {settings : Settings} {replay : Replay}

/-- What left everything else alone before makes no difference. -/
theorem Undone.before (h : Undone base id between after) (same : Elsewhere id world between) :
    Undone base id world after :=
  ⟨h.bus.trans same.bus, same.others ▸ h.live, h.gate, h.held⟩

theorem Elsewhere.undone (h : Elsewhere id world after) (square : after.Square base)
    (gate : id < after.activations.length →
      (after.env.gate (after.activation id).gate).active = none)
    (held : (after.activation id).owner.held = []) : Undone base id world after := by
  have length : after.cores.length = after.activations.length := List.length_map _
  have gone (core : Activation) (own : after.cores[id]? = some core) :
      (after.activation id).core = core := by
    have lt := length ▸ (List.getElem?_eq_some_iff.mp own).1
    exact Option.some.inj ((Sound.core_eq lt).symm.trans own)
  refine ⟨?_, ?_, gate, held⟩
  · have none := square.gone id fun core own => gone core own ▸ held
    rw [← h.bus, eq_comm, List.filter_eq_self]
    intro sub mem
    have away := List.filter_eq_nil_iff.mp none sub mem
    simpa using away
  · rw [← h.others]
    by_cases lt : id < after.activations.length
    · have none : after.env.providersOf (after.activation id).core = [] := by
        have closed : (after.env.gate (after.activation id).core.gate).isEnabled = false := by
          show (after.env.gate (after.activation id).gate).active.isSome = false
          rw [gate lt]
          rfl
        have released : (after.activation id).core.owner.held = [] := held
        unfold Environment.providersOf
        rw [closed, if_pos released]
        rfl
      have live := Environment.Stock.live_own square (Sound.core_eq lt)
      rwa [none, List.nil_append] at live
    · have all : after.cores.eraseIdx id = after.cores :=
        List.eraseIdx_of_length_le (length ▸ Nat.le_of_not_lt lt)
      unfold Environment.Stock.others
      rw [all]
      exact square.live

/-- An activation that was not made yet has nothing. -/
theorem Elsewhere.undone_unborn (h : Elsewhere world.activations.length world after)
    (square : after.Square base) (activations : after.activations = world.activations) :
    Undone base world.activations.length world after := by
  refine h.undone square (fun lt => ?_) ?_
  · rw [activations] at lt
    exact absurd lt (Nat.lt_irrefl _)
  · simp only [World.activation, activations, List.getElem?_eq_none (Nat.le_refl _)]
    rfl

/-- An activation that is torn down holds nothing. -/
theorem teardown_gone (square : world.Square base)
    (lt : id < world.activations.length) (holds : (world.activation id).owner.held ≠ []) :
    ((world.teardown id).1.env.gate ((world.teardown id).1.activation id).gate).active = none ∧
      ((world.teardown id).1.activation id).owner.held = [] := by
  have own : (world.teardown id).1.activation id =
      { world.activation id with owner := .empty } :=
    (activation_setActivation _ id id _).trans (if_pos ⟨rfl, lt⟩)
  obtain ⟨first, stocked, row⟩ := Environment.Stock.stocked square (Sound.core_eq lt) holds
  obtain ⟨handles, journal, -, torn⟩ := Environment.disposeAll_stripped stocked
  rw [own]
  refine ⟨?_, rfl⟩
  show ((world.env.disposeAll (world.activation id).core.owner).1.gate _).active = none
  rw [torn]
  exact Environment.Stock.gate_holding_none rfl

theorem undone_abandon
    (sound : Sound world (.activate name (.replaying id settings replay) :: calls))
    (square : world.Square base) : Undone base id world (world.abandon id) := by
  have holds := (sound.orderly.replaying id List.mem_cons_self).2
  obtain ⟨-, lt, own⟩ := sound.abandoning
  obtain ⟨closed, held⟩ := teardown_gone (square.setBarrier id .abandoned) lt
    (by rw [own]; exact holds)
  exact (Elsewhere.abandon sound square).undone (square.abandon sound) (fun _ => closed) held

/-! ## Whose activation, whose session -/

/-- The activation of a call that activates: the one whose documents it sends, or the next one. -/
def activationOf (world : World) : Call → ActivationId
  | .activate _ (.replaying id _ _) => id
  | _ => world.activations.length

/-- The session of a call that activates: the one that it has, or the next one. -/
def sessionOf (world : World) : Call → SessionId
  | .activate _ (.configuring _ session _ _) => session
  | .activate _ (.replaying id _ _) => (world.activation id).session
  | _ => world.env.engine.sessions.length

/-- The settings of a call that activates: the snapshot that it has taken, or will take. -/
def settingsOf (world : World) : Call → Settings
  | .activate _ (.configuring _ _ settings _) => settings
  | .activate _ (.replaying _ settings _) => settings
  | _ => world.env.snapshot.2

/-- Whatever happens, no more calls about a session are recorded. -/
def Silent (session : SessionId) (work : Work World Call CallResult) : Prop :=
  ∀ later, (World.machine.run work later).state.env.engine.callsOf session =
    work.state.env.engine.callsOf session

/-- Why an activation has failed, and what the engine has heard of it until then; of its session it
will hear no more. -/
inductive Failed (history : List WorldNote) (world : World) :
    Call → Work World Call CallResult → Failure → Prop where
  /-- The module could not be read, and the engine was not asked. -/
  | unread {name : String} {after : Work World Call CallResult} {kind : IoKind}
      (read : world.env.files.read world.modulePath = .error kind)
      (engine : after.state.env.engine = world.env.engine) :
      Failed history world (.activate name .arriving) after
        (.start (.read world.modulePath kind.failure))
  /-- The module could not be loaded. -/
  | unloaded {name : String} {after : Work World Call CallResult} {bytes : List UInt8}
      {failure : EngineFailure} (read : world.env.files.read world.modulePath = .ok bytes)
      (load : world.env.engine.load bytes.length = .error failure)
      (engine : after.state.env.engine = world.env.engine) :
      Failed history world (.activate name .arriving) after (.start (.instantiate failure))
  /-- The module was loaded, and there was no session for it. -/
  | uncreated {name : String} {after : Work World Call CallResult} {bytes : List UInt8}
      {failure : EngineFailure} (read : world.env.files.read world.modulePath = .ok bytes)
      (create : (world.env.engine.record (.load bytes.length)).create
        (some world.env.collections.length) = .error failure)
      (engine : after.state.env.engine = world.env.engine.record (.load bytes.length)) :
      Failed history world (.activate name .arriving) after (.start (.session failure))
  /-- The session got its first profile and was disposed: nothing was registered for it. -/
  | unconfigured {call : Call} {after : Work World Call CallResult} {failure : EngineFailure}
      (unborn : after.state.activations.length ≤ world.activationOf call)
      (calls : after.state.env.engine.callsOf (world.sessionOf call) =
        opening (world.sessionOf call) (world.settingsOf call) ++
          [.dispose (world.sessionOf call)])
      (silent : Silent (world.sessionOf call) after) :
      Failed history world call after (.start (.configure failure))
  /-- The session got the open documents up to some document, and was disposed. -/
  | unsent {call : Call} {after : Work World Call CallResult} {failure : EngineFailure}
      {docs sent : List Document}
      (noted : .subscribed (world.activationOf call) docs ∈ history)
      (early : sent <+: docs.filter
        (after.state.activation (world.activationOf call)).filter.tracks)
      (calls : after.state.env.engine.callsOf (world.sessionOf call) =
        opening (world.sessionOf call) (world.settingsOf call) ++
          sent.map (·.updateCall (world.sessionOf call)) ++ [.dispose (world.sessionOf call)])
      (silent : Silent (world.sessionOf call) after) :
      Failed history world call after (.engine failure)

/-- A session that nobody has is silent. -/
theorem silent_of_ghost {work : Work World Call CallResult} {ghost : Call}
    {pair : CollectionId × SessionId} (h : Sound work.state (ghost :: work.calls))
    (newborn : ghost.newborn? = some pair) : Silent pair.2 work :=
  fun later => (ghost_run h newborn later).calls

/-- The session of an activation that was abandoned is silent. -/
theorem silent_of_abandoned {work : Work World Call CallResult} (h : Sound work.state work.calls)
    (abandoned : (work.state.activation id).barrier = .abandoned) :
    Silent (work.state.activation id).session work :=
  fun later => (abandoned_run h abandoned later).quiet.calls

/-- A session that is up records its disposal. -/
theorem callsOf_disposeSession {env : Environment} {session : SessionId}
    (up : env.engine.isDisposed session = false) :
    (env.disposeSession session).1.engine.callsOf session =
      env.engine.callsOf session ++ [.dispose session] := by
  simp [Environment.disposeSession, Session.dispose, up, Environment.log, Engine.dispose,
    Engine.record, Engine.callsOf, EngineCall.session?]

variable {history : List WorldNote} {work : Work World Call CallResult}

theorem Failed.refused {env : Environment} {failure : StartFailure}
    (opened : world.prepared.openSession world.modulePath (some world.env.collections.length) =
      (env, .error failure)) (state : work.state = { world with env }) :
    Failed history world (.activate name .arriving) work (.start failure) := by
  have engine : work.state.env.engine = env.engine := by rw [state]
  unfold Environment.openSession at opened
  cases read : world.prepared.files.read world.modulePath with
  | error kind =>
    rw [read] at opened
    cases opened
    exact .unread read engine
  | ok bytes =>
    simp only [read] at opened
    cases load : world.prepared.engine.load bytes.length with
    | error failure =>
      rw [load] at opened
      cases opened
      exact .unloaded read load engine
    | ok loaded =>
      simp only [load] at opened
      have recorded : loaded = world.env.engine.record (.load bytes.length) := by
        unfold Engine.load at load
        split at load
        · cases load
        · cases load
          rfl
      subst recorded
      cases create : (world.env.engine.record (.load bytes.length)).create
        (some world.env.collections.length) with
      | error failure =>
        rw [create] at opened
        cases opened
        exact .uncreated read create engine
      | ok created =>
        rw [create] at opened
        cases opened

theorem Failed.rejected {collection : CollectionId} {session : SessionId} {ticket : TicketId}
    {env : Environment} {failure : EngineFailure}
    (sound : Sound world
      (.activate name (.configuring collection session settings ticket) :: calls))
    (told : Configuring world history session settings ticket)
    (collected : world.env.collectProfile? settings.profile ticket = some (env, .error failure))
    (state : work.state = { world with env := (env.disposeSession session).1 })
    (perm : work.calls.Perm calls) :
    Failed history world (.activate name (.configuring collection session settings ticket)) work
      (.start (.configure failure)) := by
  have ready := sound.collects collected
  obtain ⟨⟨engine, answer⟩, found, same⟩ := Option.map_eq_some_iff.mp collected
  obtain ⟨recorded, -, disposed⟩ := @Engine.collect?_keeps _ _ session _ _ found
  have lt := (ready.owned.newborn_within _ List.mem_cons_self).2
  cases same
  refine .unconfigured (by rw [state]; exact Nat.le_refl _) ?_ ?_
  · rw [state]
    refine (callsOf_disposeSession (disposed.trans told.disposed)).trans ?_
    exact congrArg (· ++ [EngineCall.dispose session]) (recorded.trans told.calls)
  · have gone := ready.session lt (Environment.disposeSession_edits _ (.inl rfl))
    rw [← state] at gone
    exact silent_of_ghost (gone.perm (perm.symm.cons _)) rfl

theorem Failed.failed {sync : Sync} {failure : EngineFailure}
    (sound : Sound world (.activate name (.replaying id settings replay) :: calls))
    (told : Replaying world history id settings replay)
    (polled : (world.sync id).pollReplay replay = (sync, .finished (.error failure)))
    (state : work.state = (world.putSync id sync).abandon id) (perm : work.calls.Perm calls) :
    Failed history world (.activate name (.replaying id settings replay)) work
      (.engine failure) := by
  have lt : id < world.activations.length := sound.lt_of_ids List.mem_cons_self
  have works := works_pollReplay polled
  have after : Sound ((world.putSync id sync).abandon id) calls := (sound.works lt works).abandon
  have abandoned : (((world.putSync id sync).abandon id).activation id).barrier = .abandoned :=
    Sound.barrier_abandon (works.calm.length ▸ lt)
  have same : (((world.putSync id sync).abandon id).activation id).belongings =
      (world.activation id).belongings :=
    (lasting_belongings.abandon _ (.inr fun _ _ => rfl)).trans (lasting_belongings.works works id)
  simp only [Activation.belongings, Prod.mk.injEq] at same
  obtain ⟨docs, -, noted, logged⟩ := told.failed sound polled
  dsimp only [Logged] at logged
  rw [abandoned] at logged
  obtain ⟨sent, early, recorded⟩ := logged
  rw [← state] at after abandoned same early recorded
  have silent := silent_of_abandoned (after.perm perm.symm) abandoned
  rw [same.1] at silent recorded
  exact .unsent noted early recorded silent

/-- What an activation goes by stays the same from one step to the next. -/
theorem Failed.before {call' : Call} {failure : Failure}
    (h : Failed history between call' work failure)
    (late : ∀ name, call' ≠ .activate name .arriving)
    (activation : between.activationOf call' = world.activationOf call)
    (session : between.sessionOf call' = world.sessionOf call)
    (settings : between.settingsOf call' = world.settingsOf call) :
    Failed history world call work failure := by
  cases h with
  | unread | unloaded | uncreated => exact absurd rfl (late _)
  | unconfigured unborn calls silent =>
    rw [session] at calls silent
    rw [settings] at calls
    exact .unconfigured (activation ▸ unborn) calls silent
  | unsent noted early calls silent =>
    rw [session] at calls silent
    rw [settings] at calls
    rw [activation] at noted early
    exact .unsent noted early calls silent

/-- What is undone and why, once a call that activates has failed. -/
def Fails (base : List ProviderKind) (history : List WorldNote) (world : World) (call : Call)
    (calls : List Call) (after : World) (failure : Failure) : Prop :=
  Undone base (world.activationOf call) world after ∧
    ∀ work : Work World Call CallResult, work.state = after → work.calls.Perm calls →
      Failed history world call work failure

/-- The step that fails. -/
theorem fails_finish {stage : ActivateStage} {notes : List WorldNote} {failure : Failure}
    (sound : Sound world (.activate name stage :: calls))
    (told : Told world history (.activate name stage)) (square : world.Square base)
    (hop : Hop world (.activate name stage) notes after (.finished (.failed failure))) :
    Fails base (history ++ notes) world (.activate name stage) calls after failure := by
  have squared := square.hop sound hop
  cases hop with
  | refused opened =>
    exact ⟨(Elsewhere.refused opened).undone_unborn squared rfl,
      fun work state perm => .refused opened state⟩
  | @rejected _ collection session settings ticket env failure collected =>
    have same : Elsewhere world.activations.length world
        { world with env := (env.disposeSession session).1 } :=
      (Elsewhere.collected collected).trans (.disposeSession _ _ session)
    refine ⟨same.undone_unborn squared rfl, fun work state perm =>
      .rejected sound ?_ collected state perm⟩
    rw [List.append_nil]
    exact told
  | @failed _ id settings replay sync failure polled =>
    have lt : id < world.activations.length := sound.lt_of_ids List.mem_cons_self
    have worked := sound.works lt (works_pollReplay polled)
    refine ⟨(undone_abandon worked (square.putSync id sync)).before (.putSync world id id sync),
      fun work state perm => .failed sound ?_ polled state perm⟩
    rw [List.append_nil]
    exact told

theorem fails_step {stage : ActivateStage} {notes notes' : List WorldNote} {call' : Call}
    {failure : Failure} (sound : Sound world (.activate name stage :: calls))
    (hop : Hop world (.activate name stage) notes between (.pending call'))
    (later : Fails base ((history ++ notes) ++ notes') between call' calls after failure) :
    Fails base (history ++ (notes ++ notes')) world (.activate name stage) calls after failure := by
  obtain ⟨undone, failed⟩ := later
  rw [List.append_assoc] at failed
  cases hop with
  | began opened applied =>
    obtain ⟨created, -⟩ := began_eq opened applied
    exact ⟨undone.before (.began opened applied),
      fun work state perm => (failed work state perm).before nofun rfl created rfl⟩
  | @subscribed _ collection session settings ticket env collected =>
    have first : Elsewhere world.activations.length world { world with env } :=
      .collected collected
    have next := Elsewhere.welcome (sound.collects collected) collection session settings
    refine ⟨undone.before (first.trans next),
      fun work state perm => (failed work state perm).before nofun rfl ?_ rfl⟩
    show ((World.welcome { world with env } collection session settings).activation
      world.activations.length).session = session
    rw [activation_welcome, if_pos rfl]
    rfl
  | @replay _ id settings replay sync replay' polled =>
    refine ⟨undone.before (.putSync world id id sync),
      fun work state perm => (failed work state perm).before nofun rfl ?_ rfl⟩
    exact congrArg Prod.fst (lasting_belongings.works (works_pollReplay polled) id)

/-- **A chance that fails**: what its steps have built is gone at its end. -/
theorem fails_chain {notes : List WorldNote} {progress : Progress Call CallResult}
    {failure : Failure} (chain : Chain Hop world call notes after progress)
    (ends : progress = .finished (.failed failure))
    (activates : ∃ name stage, call = .activate name stage)
    (told : Sound world (call :: calls) ∧ ∀ next ∈ call :: calls, Told world history next)
    (square : world.Square base) :
    Fails base (history ++ notes) world call calls after failure := by
  induction chain generalizing history with
  | rest => cases ends
  | finish hop =>
    cases ends
    obtain ⟨name, stage, rfl⟩ := activates
    exact fails_finish told.1 (told.2 _ List.mem_cons_self) square hop
  | @step world call notes between call' notes' after progress hop more ih =>
    obtain ⟨name, stage, rfl⟩ := activates
    have next := told_tells.hop told hop
    refine fails_step told.1 hop (ih ends ?_ next (square.hop told.1 hop))
    cases hop <;> exact ⟨_, _, rfl⟩

theorem told_host (outset : Outset) (ledger : Ledger)
    (actions : List (Action WorldRequest WorldMove)) :
    let work := World.machine.run (outset.host ledger) actions
    let history := (World.machine.chronicle World.notes (outset.host ledger) actions).map (·.2)
    Sound work.state work.calls ∧ ∀ call ∈ work.calls, Told work.state history call :=
  @Machine.Tells.run _ _ _ _ _ _ _ _ _ told_tells.machine (outset.host ledger) []
    ⟨sound_host outset ledger, List.forall_mem_nil _⟩ actions

end World

/-- **A failed activation leaves nothing behind.**  Whatever was done before and whoever else is
there: when an activation fails, its subscriptions are gone and all other ones stay, live are the
providers that were live from the start and those of other activations, and its gate holds nothing.
The failure tells the stage that failed, the engine has not heard of any later one, and a session
that was created has recorded its disposal as the last thing it will ever record. -/
theorem failed_activation (outset : Outset) (ledger : Ledger)
    (actions : List (Action WorldRequest WorldMove)) :
    let work := World.machine.run (outset.host ledger) actions
    ∀ (place : Nat) job name stage failure, work.jobs[place]? = some job →
      job.call = .activate name stage →
      (work.state.poll job.call).2 = .finished (.failed failure) →
      let after := World.machine.perform work (.poll place)
      let history := (World.machine.chronicle World.notes (outset.host ledger)
        (actions ++ [.poll place])).map (·.2)
      (job.number, .failed failure) ∈ after.results ∧
        World.Undone ledger.live (work.state.activationOf job.call) work.state after.state ∧
        World.Failed history work.state job.call after failure := by
  intro work place job name stage failure at_place activates ends after history
  obtain ⟨sound, square⟩ := World.square_run outset ledger actions
  obtain ⟨before, behind, split, rfl⟩ := Machine.split_at_place at_place
  have here := World.told_tells.machine.perm (by
    show work.calls.Perm (job.call :: (before ++ behind).map (·.call))
    simp [Work.calls, split, List.perm_middle]) (World.told_host outset ledger actions)
  have chain := World.poll_hops sound.tidy job.call
  obtain ⟨undone, failed⟩ :=
    World.fails_chain chain ends ⟨name, stage, activates⟩ here square
  have state : after.state = (work.state.poll job.call).1 := Machine.state_poll split
  have calls : after.calls = (before ++ behind).map (·.call) := by
    have ends' : (World.machine.poll work.state job.call).2 = .finished (.failed failure) := ends
    simp only [after, Work.calls]
    rw [Machine.perform_poll split, ends']
    simp
  refine ⟨Machine.result_poll split ends, state ▸ undone, ?_⟩
  rw [← Machine.chronicle_poll split] at failed
  exact failed after state (calls ▸ .refl _)

/-- Two documents are open, and the engine changes its mind about the second one while the text of
the first is held back: the activation fails when the first has arrived, and only the provider that
was live before and the listener outside are still there. -/
theorem failed_activation_of_refused_text :
    let doc (name : String) : Document := ⟨⟨"file:///" ++ name ++ ".qs"⟩, "qsharp", 1, name, false⟩
    let outset : Outset := ⟨⟨false, false, false⟩, ⟨false, false, false, []⟩, ["file:///a.qs@1"],
      ⟨.directory [("engine.wasm", .file [0])]⟩, .memory .standard, [doc "a", doc "b", doc "c"],
      "qsharp", "engine.wasm"⟩
    let ledger : Ledger := ⟨[.registered .hover], [⟨.hover, "qsharp"⟩]⟩
    let actions : List (Action WorldRequest WorldMove) :=
      [.move (.listen .documentOpened 7), .start (.activate "a"), .poll 0,
        .move (.refuse ⟨false, false, false, ["file:///b.qs"]⟩), .move (.release "file:///a.qs@1")]
    let work := World.machine.run (outset.host ledger) actions
    let after := World.machine.perform work (.poll 0)
    let history := (World.machine.chronicle World.notes (outset.host ledger)
      (actions ++ [.poll 0])).map (·.2)
    let failure : Failure := .engine (.rejected "updateDocument" "refused")
    let sending : Forwarding := ⟨doc "a", false, .calling 0 0 1⟩
    let job : Job Call :=
      ⟨0, .activate "a" (.replaying 0 .standard ⟨some sending, [doc "b", doc "c"], 0, 3⟩)⟩
    work.jobs[0]? = some job ∧ (0, .failed failure) ∈ after.results ∧
      World.Undone ledger.live 0 work.state after.state ∧
      World.Failed history work.state job.call after failure ∧
      work.state.env.bus.subscriptions.length = 5 ∧
      after.state.env.bus.subscriptions.map (·.listener) = [.outside 7] ∧
      after.state.env.ledger.live = [.hover] ∧
      after.state.env.engine.callsOf 0 = World.opening 0 .standard ++
        [(doc "a").updateCall 0, (doc "b").updateCall 0, .dispose 0] := by
  intro doc outset ledger actions work after history failure sending job
  have at_place : work.jobs[0]? = some job := by decide +kernel
  have ends : (work.state.poll job.call).2 = .finished (.failed failure) := by decide +kernel
  obtain ⟨result, undone, failed⟩ :=
    failed_activation outset ledger actions 0 job "a" _ failure at_place rfl ends
  exact ⟨at_place, result, undone, failed, by decide +kernel, by decide +kernel,
    by decide +kernel, by decide +kernel⟩

end EngineSync
