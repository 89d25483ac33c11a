import EngineSync.Proofs.Claims

/-!
# How far calls have still to go

Every step takes a call that has run once further: what it has still to do, counted in
`Call.effort`, grows less, and the only chances that change nothing are those of calls that wait.
What a call can wait for is one of four things (`World.Waits`): an answer of the engine, the lane of
a document, the barrier of an activation, or a listener outside.
-/
namespace EngineSync

/-! ## On the way to a session -/

/-- What documents that are sent one after another have still to do. -/
def Replay.effort (replay : Replay) : Nat :=
  ((replay.current.map (·.weight)).getD 0) + 4 * replay.waiting.length + 1

/-- What a call on the way to a session has still to do. -/
def SyncCall.effort : SyncCall → Nat
  | .forward forwarding => forwarding.weight
  | .replay docs => docs.effort

theorem Forwarding.weight_pos (forwarding : Forwarding) : 0 < forwarding.weight := by
  unfold weight
  cases forwarding.stage <;> exact Nat.succ_pos _

theorem Forwarding.weight_le (forwarding : Forwarding) : forwarding.weight ≤ 3 := by
  unfold weight
  cases forwarding.stage <;> simp

/-- Steps that change nothing or take a call further make a chance that does so. -/
theorem Chain.further {σ κ ρ ε : Type} {Hop : σ → κ → List ε → σ → Progress κ ρ → Prop}
    {effort : κ → Nat}
    (step : ∀ {state call notes after progress}, Hop state call notes after progress →
      ∀ next ∈ progress.rest, effort next < effort call)
    {state after : σ} {call : κ} {notes : List ε} {progress : Progress κ ρ}
    (chain : Chain Hop state call notes after progress) :
    after = state ∧ progress = .pending call ∨
      ∀ next ∈ progress.rest, effort next < effort call := by
  induction chain with
  | rest => exact .inl ⟨rfl, rfl⟩
  | finish hop => exact .inr (step hop)
  | step hop more ih =>
    have less := step hop _ List.mem_cons_self
    rcases ih with ⟨-, rfl⟩ | later
    · exact .inr fun next mem => List.mem_singleton.mp mem ▸ less
    · exact .inr fun next mem => Nat.lt_trans (later next mem) less

namespace Sync
variable {sync after : Sync} {forwarding : Forwarding} {replay : Replay} {moves : List LaneMove}

theorem Hop.further {progress : Progress Forwarding ForwardingResult}
    (hop : Hop sync forwarding moves after progress) :
    ∀ next ∈ progress.rest, next.weight < forwarding.weight := by
  intro next mem
  cases hop with
  | skip | refuse | collect => cases mem
  | reach arriving =>
    rw [List.mem_singleton.mp mem]
    simp [Forwarding.weight, arriving]
  | issue queued =>
    rw [List.mem_singleton.mp mem]
    simp [Forwarding.weight, queued]

theorem poll_further (sync : Sync) (forwarding : Forwarding) :
    sync.poll forwarding = (sync, .pending forwarding) ∨
      ∀ next ∈ (sync.poll forwarding).2.rest, next.weight < forwarding.weight :=
  ((sync.poll_hops forwarding).further Hop.further).imp_left fun same => Prod.ext same.1 same.2

theorem ReplayHop.further {progress : Progress Replay (Except EngineFailure Nat)}
    (hop : ReplayHop sync replay moves after progress) :
    ∀ next ∈ progress.rest, next.effort < replay.effort := by
  intro next mem
  cases hop with
  | next doc rest forwarded total =>
    rw [List.mem_singleton.mp mem]
    have weight := (Forwarding.update doc).weight_le
    simp only [Replay.effort, Option.map_some, Option.map_none, Option.getD_some, Option.getD_none,
      List.length_cons]
    omega
  | @go forwarding rest forwarded total moves after outcome hop =>
    have less := hop.further
    have positive := forwarding.weight_pos
    rcases outcome with forwarding' | failure | taken
    · rw [List.mem_singleton.mp mem]
      have further := less forwarding' List.mem_cons_self
      simp only [Replay.effort, Option.map_some, Option.getD_some]
      omega
    · cases mem
    · rw [List.mem_singleton.mp mem]
      simp only [Replay.effort, Option.map_some, Option.map_none, Option.getD_some,
        Option.getD_none]
      omega
  | done => cases mem

theorem pollReplay_further (sync : Sync) (replay : Replay) :
    sync.pollReplay replay = (sync, .pending replay) ∨
      ∀ next ∈ (sync.pollReplay replay).2.rest, next.effort < replay.effort :=
  ((sync.pollReplay_hops replay).further ReplayHop.further).imp_left fun same =>
    Prod.ext same.1 same.2

theorem pollCall_further (sync : Sync) (call : SyncCall) :
    sync.pollCall call = (sync, .pending call) ∨
      ∀ next ∈ (sync.pollCall call).2.rest, next.effort < call.effort := by
  cases call with
  | forward forwarding =>
    simp only [pollCall, Progress.rest_map, List.mem_map]
    rcases sync.poll_further forwarding with waits | less
    · exact .inl (by rw [waits]; rfl)
    · refine .inr ?_
      rintro _ ⟨next, mem, rfl⟩
      exact less next mem
  | replay replay =>
    simp only [pollCall, Progress.rest_map, List.mem_map]
    rcases sync.pollReplay_further replay with waits | less
    · exact .inl (by rw [waits]; rfl)
    · refine .inr ?_
      rintro _ ⟨next, mem, rfl⟩
      exact less next mem

/-! ### What is waited for -/

/-- A forwarding waits for its lane or for the answer of the engine. -/
inductive Waits (sync : Sync) (forwarding : Forwarding) : Prop where
  | lane {lane turn} (queued : forwarding.stage = .queued lane turn)
      (taken : sync.lanes.holds lane turn = false)
  | engine {lane turn ticket} (calling : forwarding.stage = .calling lane turn ticket)
      (unanswered : sync.engine.collect? ticket = none)

theorem pollCalling_pending {lane : LaneId} {turn : TurnId} {ticket : TicketId}
    {next : Forwarding}
    (pending : (sync.pollCalling forwarding lane turn ticket).2 = .pending next) :
    sync.engine.collect? ticket = none ∧ next.stage = .calling lane turn ticket := by
  unfold pollCalling at pending
  cases collected : sync.engine.collect? ticket with
  | none =>
    rw [collected] at pending
    cases pending
    exact ⟨rfl, rfl⟩
  | some outcome =>
    rw [collected] at pending
    cases pending

theorem pollQueued_pending {lane : LaneId} {turn : TurnId} {next : Forwarding}
    (pending : (sync.pollQueued forwarding lane turn).2 = .pending next) :
    sync.lanes.holds lane turn = false ∧ next.stage = .queued lane turn ∨
      ∃ ticket, next.stage = .calling lane turn ticket := by
  simp only [pollQueued] at pending
  cases holds : sync.lanes.holds lane turn with
  | false =>
    rw [holds] at pending
    cases pending
    exact .inl ⟨rfl, rfl⟩
  | true =>
    -- whoever holds its lane calls the engine
    rw [holds, if_pos rfl] at pending
    revert pending
    rcases Session.request _ _ _ with ⟨engine, journal, failure | ticket⟩ <;> intro pending
    · cases pending
    · exact .inr ⟨ticket, (pollCalling_pending pending).2⟩

/-- A forwarding that a chance leaves where it is waits for something. -/
theorem waits_of_idle (idle : (sync.poll forwarding).2 = .pending forwarding) :
    sync.Waits forwarding := by
  cases stage : forwarding.stage with
  | calling lane turn ticket =>
    rw [poll, stage] at idle
    exact .engine stage (pollCalling_pending idle).1
  | queued lane turn =>
    rw [poll, stage] at idle
    rcases pollQueued_pending idle with ⟨taken, -⟩ | ⟨ticket, calling⟩
    · exact .lane stage taken
    · cases stage.symm.trans calling
  | arriving =>
    rw [poll, stage] at idle
    simp only [pollArriving] at idle
    split at idle
    · rcases pollQueued_pending idle with ⟨-, queued⟩ | ⟨ticket, calling⟩
      · cases stage.symm.trans queued
      · cases stage.symm.trans calling
    · cases idle

theorem pollReplayFrom_shorter {docs : List Document} {total forwarded : Nat} {next : Replay}
    (pending : (sync.pollReplayFrom total forwarded docs).2 = .pending next) :
    next.waiting.length < docs.length := by
  induction docs generalizing sync forwarded with
  | nil => cases pending
  | cons doc rest ih =>
    rw [pollReplayFrom] at pending
    revert pending
    rcases sync.poll (.update doc) with ⟨after, forwarding | failure | taken⟩ <;> intro pending
    · cases pending
      exact Nat.lt_succ_self _
    · cases pending
    · exact Nat.lt_succ_of_lt (ih pending)

/-- So do documents that are sent one after another, at the one that is on its way. -/
theorem waits_of_idle_replay (idle : (sync.pollReplay replay).2 = .pending replay) :
    ∃ forwarding, replay.current = some forwarding ∧ sync.Waits forwarding := by
  obtain ⟨_ | forwarding, waiting, forwarded, total⟩ := replay
  · exact absurd (pollReplayFrom_shorter idle) (Nat.lt_irrefl _)
  · refine ⟨forwarding, rfl, waits_of_idle ?_⟩
    simp only [pollReplay] at idle
    revert idle
    rcases sync.poll forwarding with ⟨after, next | failure | taken⟩ <;> intro idle
    · cases idle
      rfl
    · cases idle
    · exact absurd (pollReplayFrom_shorter idle) (Nat.lt_irrefl _)

theorem waits_of_idle_call {call : SyncCall} (idle : (sync.pollCall call).2 = .pending call) :
    ∃ forwarding, call.current? = some forwarding ∧ sync.Waits forwarding := by
  cases call with
  | forward forwarding =>
    refine ⟨forwarding, rfl, waits_of_idle ?_⟩
    simp only [pollCall] at idle
    revert idle
    rcases sync.poll forwarding with ⟨after, next | result⟩ <;> intro idle <;> cases idle
    rfl
  | replay replay =>
    refine waits_of_idle_replay ?_
    simp only [pollCall] at idle
    revert idle
    rcases sync.pollReplay replay with ⟨after, next | result⟩ <;> intro idle <;> cases idle
    rfl

end Sync
/-! ## Changes of the configuration -/

theorem Router.pollApplying_idle (env : Environment) (asked : Profile) (ticket : TicketId) :
    Router.pollApplying env asked ticket = (env, .pending (.applying asked ticket)) ∨
      (Router.pollApplying env asked ticket).2.rest = [] := by
  unfold Router.pollApplying
  cases env.collectProfile? asked ticket with
  | none => exact .inl rfl
  | some outcome => exact .inr rfl

/-- A change that was looked at is with the engine or has been reacted to. -/
theorem Router.route_goes (router : Router) (env : Environment) (change : ConfigChange) :
    ∀ next ∈ (router.route env change).2.rest, ∃ asked ticket, next = .applying asked ticket := by
  intro next mem
  simp only [Router.route] at mem
  split at mem
  · unfold Router.routeProfile at mem
    dsimp only at mem
    revert mem
    rcases (env.profile.1.log _).applyProfile router.session _ with ⟨env', failure | ticket⟩ <;>
      intro mem
    · cases mem
    · rcases Router.pollApplying_idle env' env.profile.2 ticket with waits | none
      · simp only [waits] at mem
        exact ⟨_, _, List.mem_singleton.mp mem⟩
      · simp only [none] at mem
        cases mem
  · split at mem <;> cases mem

theorem Router.poll_further (router : Router) (env : Environment) (route : RouteCall) :
    router.poll env route = (env, .pending route) ∨
      ∀ next ∈ (router.poll env route).2.rest, next.weight < route.weight := by
  cases route with
  | applying asked ticket =>
    refine (Router.pollApplying_idle env asked ticket).imp_right fun none next mem => ?_
    have gone : next ∈ [] := none ▸ mem
    cases gone
  | arriving change =>
    refine .inr fun next mem => ?_
    obtain ⟨asked, ticket, rfl⟩ := router.route_goes env change next mem
    exact Nat.lt_succ_self 1

/-! ## In a world -/

theorem ListenerCall.weight_pos (listener : ListenerCall) : 0 < listener.weight := by
  match listener with
  | .activation _ .arriving | .outside _ | .activation _ (.routing (.arriving _))
  | .activation _ (.routing (.applying _ _)) => exact Nat.succ_pos _
  | .activation _ (.forwarding forwarding) => exact forwarding.weight_pos

namespace Call

/-- What a call that has run has still to do, if so many documents are open. -/
def effort (documents : Nat) : Call → Nat
  | .activate _ .arriving | .publish (.arriving _) => 0
  | .activate _ (.configuring ..) => 4 * documents + 2
  | .activate _ (.replaying _ _ replay) => replay.effort
  | .publish (.delivering delivery) =>
    ((delivery.current.map (·.weight)).getD 0) + 5 * delivery.waiting.length + 1
  | .sync _ call => call.effort

/-- A call has had a chance. -/
def HasRun : Call → Prop
  | .activate _ .arriving | .publish (.arriving _) => False
  | _ => True

/-- The document that a call is about to bring to the session of an activation. -/
def standing? : Call → Option (ActivationId × Forwarding)
  | .activate _ (.replaying id _ replay) => replay.current.map (id, ·)
  | .publish (.delivering ⟨_, some (.activation id (.forwarding forwarding)), _⟩) =>
    some (id, forwarding)
  | .sync id call => call.current?.map (id, ·)
  | _ => none

end Call

namespace World
variable {world world' : World} {call : Call} {calls : List Call} {id : ActivationId}
  {notes : List WorldNote} {progress : Progress Call CallResult}

theorem putSync_sync (world : World) (id : ActivationId) :
    world.putSync id (world.sync id) = world := by
  have same := set_activation world id
  simp only [putSync, World.sync, Activation.sync, setActivation]
  rw [same]

theorem pollForwarding_further (world : World) (id : ActivationId) (forwarding : Forwarding) :
    world.pollForwarding id forwarding =
        (world, .pending (.activation id (.forwarding forwarding))) ∨
      ∀ next ∈ (world.pollForwarding id forwarding).2.rest, next.weight < forwarding.weight := by
  unfold pollForwarding
  rcases (world.sync id).poll_further forwarding with waits | less
  · rw [waits]
    exact .inl (congrArg (·, _) (putSync_sync world id))
  · revert less
    rcases (world.sync id).poll forwarding with ⟨sync, forwarding' | result⟩ <;> intro less
    · refine .inr fun next mem => ?_
      rw [List.mem_singleton.mp mem]
      exact less forwarding' List.mem_cons_self
    · exact .inr nofun

theorem pollRouting_further (world : World) (id : ActivationId) (route : RouteCall) :
    world.pollRouting id route = (world, .pending (.activation id (.routing route))) ∨
      ∀ next ∈ (world.pollRouting id route).2.rest, next.weight < route.weight := by
  unfold pollRouting
  rcases (world.activation id).router.poll_further world.env route with waits | less
  · rw [waits]
    exact .inl rfl
  · refine .inr fun next mem => ?_
    rw [Progress.rest_map] at mem
    obtain ⟨route', there, rfl⟩ := List.mem_map.mp mem
    exact less route' there

/-- What becomes of a publication when its listener is taken further. -/
theorem delivered_further {documents : Nat} {event : Event} {listener : ListenerCall}
    {waiting : List (Subscription Listener)}
    {outcome : Progress ListenerCall (Except EngineFailure Unit)}
    (less : ∀ next ∈ outcome.rest, next.weight < listener.weight) :
    ∀ next ∈ (delivered event waiting outcome).rest, next.effort documents <
      (Call.publish (.delivering ⟨event, some listener, waiting⟩)).effort documents := by
  intro next mem
  rcases outcome with listener' | failure | ⟨⟩
  · rw [List.mem_singleton.mp mem]
    have further := less listener' List.mem_cons_self
    simp only [Call.effort, Option.map_some, Option.getD_some]
    omega
  · cases mem
  · rw [List.mem_singleton.mp mem]
    have positive := listener.weight_pos
    simp only [Call.effort, Option.map_some, Option.map_none, Option.getD_some, Option.getD_none]
    omega

/-- **A step changes nothing or takes its call further.** -/
theorem further_hop (run : call.HasRun) (hop : Hop world call notes world' progress) :
    world' = world ∧ progress = .pending call ∨ ∀ next ∈ progress.rest,
      next.effort world.env.openDocuments.length < call.effort world.env.openDocuments.length := by
  cases hop with
  | refused | began | publish => exact run.elim
  | rejected | ready | failed | finish => exact .inr fun next mem => nomatch mem
  | subscribed collected =>
    refine .inr fun next mem => ?_
    rw [List.mem_singleton.mp mem]
    simp only [Call.effort, Replay.effort, Replay.start, Option.map_none, Option.getD_none]
    omega
  | @replay name id settings replay sync replay' polled =>
    rcases (world.sync id).pollReplay_further replay with waits | less
    · cases polled.symm.trans waits
      exact .inl ⟨putSync_sync world id, rfl⟩
    · refine .inr fun next mem => ?_
      rw [List.mem_singleton.mp mem]
      exact less replay' (by rw [polled]; exact List.mem_cons_self)
  | call event next waiting =>
    refine .inr fun next' mem => ?_
    rw [List.mem_singleton.mp mem]
    have le : (world.startListener next.listener).2.weight ≤ 4 := by
      unfold startListener
      cases next.listener <;> simp [ListenerCall.start, ListenerCall.weight, ListenerStage.weight]
    simp only [Call.effort, Option.map_some, Option.map_none, Option.getD_some, Option.getD_none,
      List.length_cons]
    omega
  | @listen event listener waiting _ _ outcome hop =>
    cases hop with
    | pass | answered => exact .inr (delivered_further (List.forall_mem_nil _))
    | take released =>
      refine .inr (delivered_further fun next mem => ?_)
      rw [List.mem_singleton.mp mem]
      cases event <;> simp [ListenerCall.weight, ListenerStage.weight, ListenerStage.taking,
        Forwarding.weight, Forwarding.update, Forwarding.close, RouteCall.weight]
    | forward id forwarding =>
      rcases pollForwarding_further world id forwarding with waits | less
      · rw [waits]
        exact .inl ⟨rfl, rfl⟩
      · exact .inr (delivered_further less)
    | route id route =>
      rcases pollRouting_further world id route with waits | less
      · rw [waits]
        exact .inl ⟨rfl, rfl⟩
      · exact .inr (delivered_further less)
  | sync id call =>
    simp only [World.poll]
    rcases (world.sync id).pollCall_further call with waits | less
    · rw [waits]
      exact .inl ⟨putSync_sync world id, rfl⟩
    · refine .inr fun next mem => ?_
      rw [Progress.rest_map] at mem
      obtain ⟨call', there, rfl⟩ := List.mem_map.mp mem
      exact less call' there

/-- Whoever has run once has. -/
theorem hasRun_hop (hop : Hop world call notes world' progress) :
    ∀ next ∈ progress.rest, next.HasRun := by
  intro next mem
  cases hop with
  | refused | rejected | ready | failed | finish => cases mem
  | began | subscribed | replay | publish | call => exact List.mem_singleton.mp mem ▸ trivial
  | @listen event listener waiting _ _ outcome hop =>
    rcases outcome with listener' | failure | ⟨⟩
    · exact List.mem_singleton.mp mem ▸ trivial
    · cases mem
    · exact List.mem_singleton.mp mem ▸ trivial
  | sync id call =>
    rw [World.poll, Progress.rest_map] at mem
    obtain ⟨call', -, rfl⟩ := List.mem_map.mp mem
    trivial

theorem further_chain (chain : Chain Hop world call notes world' progress)
    (sound : Sound world (call :: calls)) (run : call.HasRun) :
    world' = world ∧ progress = .pending call ∨ ∀ next ∈ progress.rest,
      next.effort world.env.openDocuments.length < call.effort world.env.openDocuments.length := by
  induction chain with
  | rest => exact .inl ⟨rfl, rfl⟩
  | finish hop => exact .inr fun next mem => nomatch mem
  | step hop more ih =>
    have later := ih (sound.hop hop) (hasRun_hop hop _ List.mem_cons_self)
    rw [(Environment.Edits.evolves (sound.sessions_hop hop)).openDocuments] at later
    rcases further_hop run hop with ⟨rfl, same⟩ | less
    · cases same
      exact later
    · have first := less _ List.mem_cons_self
      rcases later with ⟨-, rfl⟩ | further
      · exact .inr fun next mem => List.mem_singleton.mp mem ▸ first
      · exact .inr fun next mem => Nat.lt_trans (further next mem) first

/-- **A chance changes nothing or takes its call further.** -/
theorem poll_further (sound : Sound world (call :: calls)) (run : call.HasRun) :
    world.poll call = (world, .pending call) ∨ ∀ next ∈ (world.poll call).2.rest,
      next.effort world.env.openDocuments.length < call.effort world.env.openDocuments.length :=
  (further_chain (poll_hops sound.tidy call) sound run).imp_left fun same =>
    Prod.ext same.1 same.2

theorem hasRun_poll (sound : Sound world (call :: calls)) (run : call.HasRun) :
    ∀ next ∈ (world.poll call).2.rest, next.HasRun := by
  have kept := (poll_hops sound.tidy call).carries (fun _ rest => ∀ next ∈ rest, next.HasRun)
    (fun _ hop => hasRun_hop hop)
    (fun next mem => List.mem_singleton.mp mem ▸ run)
  exact kept

/-! ## What is waited for -/

/-- What a call waits for. -/
inductive Waits (world : World) : Call → Prop
  | engine {call ticket} (mem : ticket ∈ call.tickets)
      (unanswered : world.env.engine.collect? ticket = none) : Waits world call
  | lane {call id forwarding lane turn} (stands : call.standing? = some (id, forwarding))
      (queued : forwarding.stage = .queued lane turn)
      (taken : (world.activation id).lanes.holds lane turn = false) : Waits world call
  | barrier {event id waiting} (closed : (world.activation id).barrier = .replaying) :
      Waits world (.publish (.delivering ⟨event, some (.activation id .arriving), waiting⟩))
  | listener {event number waiting}
      (unanswered : world.outsideAnswers.lookup number = none) :
      Waits world (.publish (.delivering ⟨event, some (.outside number), waiting⟩))

theorem waits_of_standing {forwarding : Forwarding}
    (stands : call.standing? = some (id, forwarding))
    (tickets : call.tickets = forwarding.tickets) (waits : (world.sync id).Waits forwarding) :
    Waits world call := by
  rcases waits with @⟨lane, turn, queued, taken⟩ | @⟨lane, turn, ticket, calling, unanswered⟩
  · exact .lane stands queued taken
  · refine .engine ?_ unanswered
    rw [tickets, Sync.tickets_calling calling]
    exact List.mem_cons_self

theorem deliver_shorter {event : Event} {waiting : List (Subscription Listener)}
    (pending : (world.deliver event waiting).2 = .pending call) :
    ∃ listener behind, call = .publish (.delivering ⟨event, some listener, behind⟩) ∧
      behind.length < waiting.length := by
  induction waiting generalizing world with
  | nil => cases pending
  | cons next waiting ih =>
    rw [deliver] at pending
    revert pending
    rcases world.startListener next.listener with ⟨started, listener⟩
    dsimp only
    rcases started.pollListener event listener with ⟨world', listener' | failure | ⟨⟩⟩ <;>
      intro pending
    · cases pending
      exact ⟨listener', waiting, rfl, Nat.lt_succ_self _⟩
    · cases pending
    · obtain ⟨listener, behind, rfl, shorter⟩ := ih pending
      exact ⟨listener, behind, rfl, Nat.lt_succ_of_lt shorter⟩

theorem pollForwarding_goes {forwarding : Forwarding} {listener : ListenerCall}
    (pending : (world.pollForwarding id forwarding).2 = .pending listener) :
    ∃ next, listener = .activation id (.forwarding next) ∧
      ((world.sync id).poll forwarding).2 = .pending next := by
  unfold pollForwarding at pending
  revert pending
  rcases (world.sync id).poll forwarding with ⟨sync, next | result⟩ <;> intro pending
  · cases pending
    exact ⟨next, rfl, rfl⟩
  · cases pending

/-- A listener that a chance leaves where it is waits for something. -/
theorem waits_of_idle_listener {event : Event} {listener : ListenerCall}
    {waiting : List (Subscription Listener)}
    (idle : (world.pollListener event listener).2 = .pending listener) :
    Waits world (.publish (.delivering ⟨event, some listener, waiting⟩)) := by
  match listener with
  | .outside number =>
    refine .listener ?_
    simp only [pollListener] at idle
    cases found : world.outsideAnswers.lookup number with
    | none => rfl
    | some answer =>
      rw [found] at idle
      cases idle
  | .activation id .arriving =>
    simp only [pollListener] at idle
    cases barrier : (world.activation id).barrier with
    | replaying => exact .barrier barrier
    | abandoned =>
      rw [barrier] at idle
      cases idle
    | «open» =>
      -- past the barrier it is no longer where it was
      rw [barrier] at idle
      cases event with
      | opened doc | changed doc | closed doc =>
        obtain ⟨next, same, -⟩ := pollForwarding_goes idle
        cases same
      | configuration change =>
        obtain ⟨stage, same, moved⟩ := Sound.pollRouting_pending idle
        cases same
        exact absurd rfl moved
  | .activation id (.forwarding forwarding) =>
    obtain ⟨next, same, polled⟩ := pollForwarding_goes idle
    cases same
    exact waits_of_standing rfl rfl (Sync.waits_of_idle polled)
  | .activation id (.routing route) =>
    simp only [pollListener, pollRouting] at idle
    cases route with
    | applying asked ticket =>
      refine .engine (List.mem_singleton_self ticket) ?_
      simp only [Router.poll, Router.pollApplying, Environment.collectProfile?] at idle
      cases collected : world.env.engine.collect? ticket with
      | none => rfl
      | some outcome =>
        rw [collected] at idle
        cases idle
    | arriving change =>
      -- a change that was looked at is no longer where it was
      have goes := (world.activation id).router.route_goes world.env change
      simp only [Router.poll] at idle
      revert idle goes
      rcases (world.activation id).router.route world.env change with ⟨env, next | result⟩ <;>
        intro idle goes
      · obtain ⟨asked, ticket, same⟩ := goes next List.mem_cons_self
        rw [same] at idle
        cases idle
      · cases idle

theorem pollReplaying_goes {name : String} {settings : Settings} {replay : Replay}
    (pending : (world.pollReplaying name id settings replay).2 = .pending call) :
    ∃ next, call = .activate name (.replaying id settings next) ∧
      ((world.sync id).pollReplay replay).2 = .pending next := by
  unfold pollReplaying at pending
  revert pending
  rcases (world.sync id).pollReplay replay with ⟨sync, next | failure | count⟩ <;> intro pending
  · cases pending
    exact ⟨next, rfl, rfl⟩
  · cases pending
  · cases pending

/-- A call whose first profile is with the engine waits for the answer or replays documents. -/
theorem pollConfiguring_goes {name : String} {collection : CollectionId} {session : SessionId}
    {settings : Settings} {ticket : TicketId}
    (pending : (world.pollConfiguring name collection session settings ticket).2 = .pending call) :
    world.env.engine.collect? ticket = none ∧
        call = .activate name (.configuring collection session settings ticket) ∨
      ∃ id replay, call = .activate name (.replaying id settings replay) := by
  unfold pollConfiguring Environment.collectProfile? at pending
  cases collected : world.env.engine.collect? ticket with
  | none =>
    rw [collected] at pending
    cases pending
    exact .inl ⟨rfl, rfl⟩
  | some outcome =>
    obtain ⟨engine, failure | ⟨⟩⟩ := outcome
    · rw [collected] at pending
      cases pending
    · rw [collected] at pending
      obtain ⟨next, rfl, -⟩ := pollReplaying_goes pending
      exact .inr ⟨_, next, rfl⟩

theorem startActivate_goes {name : String}
    (pending : (world.startActivate name).2 = .pending call) : call.HasRun := by
  simp only [startActivate] at pending
  split at pending
  · cases pending
  · split at pending
    · cases pending
    · rcases pollConfiguring_goes pending with ⟨-, rfl⟩ | ⟨id, replay, rfl⟩ <;> trivial

/-- **A call that a chance leaves where it is waits for something.** -/
theorem waits_of_idle (idle : (world.poll call).2 = .pending call) : Waits world call := by
  match call with
  | .activate name .arriving => exact (startActivate_goes idle).elim
  | .activate name (.configuring collection session settings ticket) =>
    rcases pollConfiguring_goes idle with ⟨unanswered, -⟩ | ⟨id, replay, same⟩
    · exact .engine (List.mem_singleton_self ticket) unanswered
    · cases same
  | .activate name (.replaying id settings replay) =>
    obtain ⟨next, same, polled⟩ := pollReplaying_goes idle
    cases same
    obtain ⟨forwarding, current, waits⟩ := Sync.waits_of_idle_replay polled
    refine waits_of_standing (by simp [Call.standing?, current]) ?_ waits
    simp [Call.tickets, SyncCall.tickets, SyncCall.current?, current]
  | .publish (.arriving event) =>
    obtain ⟨listener, behind, same, -⟩ := deliver_shorter idle
    cases same
  | .publish (.delivering ⟨event, none, waiting⟩) =>
    obtain ⟨listener, behind, same, -⟩ := deliver_shorter idle
    cases same
  | .publish (.delivering ⟨event, some listener, waiting⟩) =>
    refine waits_of_idle_listener ?_
    simp only [World.poll, pollPublish] at idle
    revert idle
    rcases world.pollListener event listener with ⟨world', next | failure | ⟨⟩⟩ <;> intro idle
    · cases idle
      rfl
    · cases idle
    · obtain ⟨listener, behind, same, shorter⟩ := deliver_shorter idle
      cases same
      exact absurd shorter (Nat.lt_irrefl _)
  | .sync id call =>
    simp only [World.poll] at idle
    obtain ⟨forwarding, current, waits⟩ : ∃ forwarding, call.current? = some forwarding ∧
        (world.sync id).Waits forwarding := by
      refine Sync.waits_of_idle_call ?_
      revert idle
      rcases (world.sync id).pollCall call with ⟨sync, next | result⟩ <;> intro idle <;> cases idle
      rfl
    refine waits_of_standing (by simp [Call.standing?, current]) ?_ waits
    simp [Call.tickets, SyncCall.tickets, current]

end World
end EngineSync
