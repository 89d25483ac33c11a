import EngineSync.Proofs.Accounts
import EngineSync.Proofs.Barriers
import EngineSync.Proofs.Holdings
import EngineSync.Proofs.Requests

/-!
# Whose requests are under way

In every world that can be reached each request under way belongs to one of the calls under way,
and each call waits for a request of its own (`World.Attended`).  No request is lost when a call
comes to its end or is given up, and none is left behind.  What calls and surroundings do besides
makes no request; the only configurations that are handed to the engine are those of the settings
as they are at that moment.
-/
namespace EngineSync

/-- The requests that a listener waits for. -/
def ListenerCall.tickets : ListenerCall → List TicketId
  | .activation _ (.forwarding forwarding) => forwarding.tickets
  | .activation _ (.routing call) => call.tickets
  | _ => []

/-- The requests that a call waits for. -/
def Call.tickets : Call → List TicketId
  | .activate _ (.configuring _ _ _ ticket) => [ticket]
  | .activate _ (.replaying _ _ replay) => (SyncCall.replay replay).tickets
  | .publish (.delivering ⟨_, some listener, _⟩) => listener.tickets
  | .sync _ call => call.tickets
  | _ => []

/-- The profile is as the files and the source say. -/
theorem Environment.profile_evolves {env env' : Environment} (later : env.Evolves env') :
    env'.profile.2 = env.profile.2 := by
  unfold Environment.profile
  rw [later.files, later.source]

namespace World

/-- The profile as it is now. -/
def profile (world : World) : Profile :=
  world.env.profile.2

/-- The requests under way are those of the calls. -/
def Attended (world : World) (calls : List Call) : Prop :=
  world.env.engine.Serves (calls.flatMap Call.tickets)

variable {world world' : World} {call : Call} {calls rest : List Call} {id id' : ActivationId}
  {notes : List WorldNote} {progress : Progress Call CallResult} {name : String}
  {settings : Settings} {replay : Replay} {total : Nat} {others : List TicketId} {base : Engine}

/-! ## What makes no request -/

theorem still_teardown (world : World) (id : ActivationId) :
    world.env.engine.Still (world.teardown id).1.env.engine :=
  Environment.still_disposeAll world.env (world.activation id).owner

theorem still_drop (world : World) (name : String) :
    world.env.engine.Still (world.drop name).env.engine := by
  unfold World.drop
  cases world.live? name with
  | none => exact .refl _
  | some id => exact still_teardown world id

theorem still_deactivate (world : World) (name : String) :
    world.env.engine.Still (world.deactivate name).env.engine := by
  unfold World.deactivate
  cases world.live? name with
  | none => exact .refl _
  | some id => exact still_teardown world id

theorem still_abandon (world : World) (id : ActivationId) :
    world.env.engine.Still (world.abandon id).env.engine :=
  still_teardown (world.setBarrier id .abandoned) id

theorem still_finishActivate (world : World) (name : String) (id : ActivationId)
    (settings : Settings) :
    world.env.engine.Still (world.finishActivate name id settings total).env.engine :=
  still_drop (world.readied id settings total) name

theorem still_welcome (world : World) (collection : CollectionId) (session : SessionId)
    (settings : Settings) :
    world.env.engine.Still (world.welcome collection session settings).env.engine := by
  obtain ⟨journal, installed⟩ := Activation.install_eq world.language world.activations.length
    session collection settings.formatting world.env
  unfold World.welcome
  rw [installed]
  exact .refl _

theorem still_concludeForwarding (world : World) (id : ActivationId) (forwarding : Forwarding)
    (result : ForwardingResult) :
    world.env.engine.Still (world.concludeForwarding id forwarding result).1.env.engine := by
  rcases result with failure | taken
  · exact .refl _
  · simp only [concludeForwarding]
    split <;> exact .refl _

/-- A module that is not up may have been loaded, but no session was asked for anything. -/
theorem still_refused {env env' : Environment} {path : String} {sink : Option CollectionId}
    {failure : StartFailure} (opened : env.openSession path sink = (env', .error failure)) :
    env.engine.Still env'.engine := by
  unfold Environment.openSession Engine.load Engine.create at opened
  split at opened
  · cases opened
    exact .refl _
  · split at opened
    · cases opened
      exact .refl _
    · rename_i loaded
      split at loaded
      · cases loaded
      · cases loaded
        split at opened
        · cases opened
          exact ⟨by simp [Engine.made, Engine.record, EngineCall.asking?], rfl, rfl⟩
        · cases opened

theorem still_opened {env env' : Environment} {path : String} {sink : Option CollectionId}
    {session : SessionId} (opened : env.openSession path sink = (env', .ok session)) :
    env.engine.Still env'.engine := by
  obtain ⟨-, size, journal, rfl⟩ := Environment.openSession_eq opened
  exact ⟨by simp [Engine.made, EngineCall.asking?], rfl, rfl⟩

/-! ## Steps -/

theorem forwarding_served {profile : Profile} {forwarding : Forwarding} {event : Event}
    {waiting : List (Subscription Listener)} (id : ActivationId)
    (h : world.env.engine.Served profile base (forwarding.tickets ++ others)) :
    (world.pollForwarding id forwarding).1.env.engine.Served profile base
      ((delivered event waiting (world.pollForwarding id forwarding).2).rest.flatMap Call.tickets ++
        others) := by
  have polled := @Sync.poll_served (world.sync id) forwarding others base profile h
  unfold pollForwarding
  revert polled
  rcases (world.sync id).poll forwarding with ⟨sync, forwarding' | result⟩ <;> intro polled
  · exact polled
  · have concludes := still_concludeForwarding (world.putSync id sync) id forwarding result
    refine Engine.Served.still ?_ concludes
    rcases result with failure | taken
    · exact polled
    · simp only [concludeForwarding]
      split <;> exact polled

theorem listens_served {event : Event} {listener : ListenerCall}
    {waiting : List (Subscription Listener)}
    {outcome : Progress ListenerCall (Except EngineFailure Unit)}
    (h : world.env.engine.Served world.profile base (listener.tickets ++ others))
    (hop : ListenerHop event world listener notes world' outcome) :
    world'.env.engine.Served world.profile base
      ((delivered event waiting outcome).rest.flatMap Call.tickets ++ others) := by
  cases hop with
  | pass abandoned => exact h
  | take released => cases event <;> exact h
  | @answered number answer found => rcases answer with failure | ⟨⟩ <;> exact h
  | forward id forwarding => exact forwarding_served id h
  | route id route =>
    have routed := Environment.routing_served (world.activation id).router h
    unfold pollRouting
    revert routed
    rcases (world.activation id).router.poll world.env route with ⟨env, route' | failure | reaction⟩
      <;> intro routed
    · exact routed
    · exact routed
    · exact routed

/-- **A step makes requests for its own call only**, and configures nothing but the profile as it is
now. -/
theorem served_hop (h : world.env.engine.Served world.profile base (call.tickets ++ others))
    (hop : Hop world call notes world' progress) :
    world'.env.engine.Served world.profile base (progress.rest.flatMap Call.tickets ++ others) := by
  cases hop with
  | @refused name env failure opened =>
    have loads : world.env.engine.Still env.engine :=
      @still_refused world.prepared env _ _ failure opened
    exact h.still loads
  | @began name env session env' ticket opened applied =>
    have opens : world.env.engine.Still env.engine :=
      @still_opened world.prepared env _ _ session opened
    have applies := @Environment.applyProfile_served env base world.profile others session
      (h.still opens)
    have asked : env.applyProfile session world.profile = (env', .ok ticket) := applied
    rw [asked] at applies
    exact applies
  | rejected collected =>
    refine Engine.Served.still ?_ (.dispose _ _)
    exact h.collect? (Environment.collectProfile?_engine collected)
  | @subscribed name collection session settings ticket env collected =>
    have answered := h.collect? (Environment.collectProfile?_engine collected)
    exact answered.still (still_welcome { world with env } collection session settings)
  | @replay name id settings replay sync replay' polled =>
    have replays := @Sync.pollReplay_served (world.sync id) others base world.profile replay h
    rw [polled, Progress.rest_pending, List.flatMap_singleton] at replays
    rw [Progress.rest_pending, List.flatMap_singleton]
    exact replays
  | @ready name id settings replay sync count polled =>
    have replays := @Sync.pollReplay_served (world.sync id) others base world.profile replay h
    rw [polled] at replays
    exact replays.still (still_finishActivate (world.putSync id sync) name id settings)
  | @failed name id settings replay sync failure polled =>
    have replays := @Sync.pollReplay_served (world.sync id) others base world.profile replay h
    rw [polled] at replays
    exact replays.still (still_abandon (world.putSync id sync) id)
  | publish event => exact h
  | call event next waiting =>
    unfold startListener
    cases next.listener <;> exact h
  | listen hop => exact listens_served h hop
  | finish event => exact h
  | sync id call =>
    have polled := @Sync.pollCall_served (world.sync id) others base world.profile call h
    simp only [World.poll, Progress.rest_map, List.flatMap_map]
    exact polled

/-- Whoever is given up waits for nothing any more. -/
theorem served_cancel {profile : Profile}
    (h : world.env.engine.Served profile base (call.tickets ++ others)) :
    (world.cancel call).env.engine.Served profile base others := by
  match call with
  | .activate name .arriving | .publish (.arriving event)
  | .publish (.delivering ⟨event, none, waiting⟩)
  | .publish (.delivering ⟨event, some (.outside number), waiting⟩)
  | .publish (.delivering ⟨event, some (.activation id .arriving), waiting⟩) => exact h
  | .activate name (.configuring collection session settings ticket) => exact h.cancel
  | .activate name (.replaying id settings replay) =>
    have gone := @Sync.cancelCall_served (world.sync id) others base profile (.replay replay) h
    exact gone.still (still_abandon (world.putSync id ((world.sync id).cancelReplay replay)) id)
  | .publish (.delivering ⟨event, some (.activation id (.forwarding forwarding)), waiting⟩) =>
    exact @Sync.cancel_served (world.sync id) forwarding others base profile h
  | .publish (.delivering ⟨event, some (.activation id (.routing route)), waiting⟩) =>
    exact Environment.cancelRoute_served h
  | .sync id call => exact @Sync.cancelCall_served (world.sync id) others base profile call h

/-- A change that is routed at once leaves no request under way. -/
theorem served_routeNow (h : world.env.engine.Served world.profile base others)
    (id : ActivationId) (change : ConfigChange) :
    (world.routeNow id change).1.env.engine.Served world.profile base others := by
  have routed := @Environment.routing_served world.env base others (world.activation id).router
    (.arriving change) h
  unfold routeNow
  revert routed
  rcases (world.activation id).router.poll world.env (.arriving change) with
    ⟨env, call | result⟩ <;> intro routed
  · rw [Progress.rest_pending, List.flatMap_singleton] at routed
    exact Environment.cancelRoute_served routed
  · exact routed

theorem served_surround (h : world.env.engine.Served world.profile base others)
    (move : WorldMove) :
    (world.surround move).env.engine.Served world.profile base others := by
  cases move with
  | release key => exact h.still (.release _ key)
  | grant ticket => exact h.still (.grant _ ticket)
  | refuse refusals => exact h.still ⟨rfl, rfl, rfl⟩
  | files | source | documents | listen | answer => exact h
  | report uri version diagnostics =>
    refine h.still ?_
    simp only [World.surround, Environment.publishDiagnostics]
    split <;> exact .refl _
  | unlisten number =>
    simp only [World.surround]
    split <;> exact h
  | deactivate name => exact h.still (still_deactivate world name)
  | drop name => exact h.still (still_drop world name)
  | disposeSession name =>
    simp only [World.surround]
    cases world.live? name with
    | none => exact h
    | some id => exact h.still (.dispose _ _)
  | route name change =>
    simp only [World.surround]
    cases world.live? name with
    | none => exact h
    | some id => exact served_routeNow h id change

/-- A call that is accepted waits for nothing yet. -/
theorem tickets_accepted {request : WorldRequest} (accepted : world.accept request = some call) :
    call.tickets = [] := by
  cases request with
  | activate name | publish event =>
    cases accepted
    rfl
  | sync id request =>
    simp only [World.accept] at accepted
    split at accepted
    · cases accepted
      cases request <;> rfl
    · cases accepted

/-! ## Any run -/

theorem Attended.hop (h : Attended world (call :: calls))
    (hop : Hop world call notes world' progress) : Attended world' (progress.rest ++ calls) := by
  unfold Attended
  rw [List.flatMap_append]
  exact (served_hop (Engine.Serves.start h) hop).toServes

theorem Attended.accepts (h : Attended world calls) {request : WorldRequest}
    (accepted : world.accept request = some call) : Attended world (call :: calls) := by
  unfold Attended
  rw [List.flatMap_cons, tickets_accepted accepted]
  exact h

theorem Attended.cancels (h : Attended world (call :: calls)) :
    Attended (world.cancel call) calls :=
  (served_cancel (@Engine.Serves.start _ _ world.profile h)).toServes

theorem Attended.surrounds (h : Attended world calls) (move : WorldMove) :
    Attended (world.surround move) calls :=
  (served_surround (Engine.Serves.start h) move).toServes

/-- Nothing is under way before the first call. -/
theorem attended_host (outset : Outset) (ledger : Ledger) :
    Attended (outset.host ledger).state [] :=
  ⟨⟨rfl, .nil, fun _ mem => absurd mem List.not_mem_nil⟩, .refl _⟩

/-- **Each request under way belongs to a call** in every world that is reached. -/
theorem attended_tells : Tells fun world calls _ => Sound world calls ∧ Attended world calls where
  tidy h := h.1.tidy
  perm hp h := ⟨h.1.perm hp, Engine.Serves.perm h.2 (hp.flatMap_right _)⟩
  accept h accepted := ⟨h.1.accepts accepted, h.2.accepts accepted⟩
  hop h hop := ⟨h.1.hop hop, h.2.hop hop⟩
  cancel h := ⟨h.1.cancels, h.2.cancels⟩
  surround move h := ⟨h.1.surrounds move, h.2.surrounds move⟩

/-- A step leaves the profile of the settings as it is. -/
theorem profile_hop (sound : Sound world (call :: calls))
    (hop : Hop world call notes world' progress) : world'.profile = world.profile :=
  Environment.profile_evolves (Environment.Edits.evolves (sound.sessions_hop hop))

/-- **What an action has made of the engine**: it configures nothing but the profile as it was. -/
theorem served_perform {work : Work World Call CallResult} (sound : Sound work.state work.calls)
    (attended : work.state.Attended work.calls) (action : Action WorldRequest WorldMove) :
    (World.machine.perform work action).state.env.engine.Served work.state.profile
      work.state.env.engine
      ((World.machine.perform work action).calls.flatMap Call.tickets) := by
  have attended' : (World.machine.perform work action).state.Attended
      (World.machine.perform work action).calls :=
    (attended_tells.keeps.perform ⟨sound, attended⟩ action).2
  suffices ∃ tickets, (World.machine.perform work action).state.env.engine.Served
      work.state.profile work.state.env.engine tickets by
    obtain ⟨tickets, served⟩ := this
    exact { served with toServes := attended' }
  cases action with
  | start request =>
    refine ⟨work.calls.flatMap Call.tickets, ?_⟩
    simp only [Machine.perform]
    cases World.machine.accept work.state request <;> exact attended.start
  | move move => exact ⟨_, served_surround attended.start move⟩
  | cancel place =>
    cases at_place : work.jobs[place]? with
    | none =>
      rw [Machine.perform_cancel_none at_place]
      exact ⟨_, attended.start⟩
    | some job =>
      obtain ⟨before, after, split, rfl⟩ := Machine.split_at_place at_place
      have first := attended_tells.keeps.at_place ⟨sound, attended⟩ split
      rw [Machine.perform_cancel split]
      exact ⟨_, served_cancel (Engine.Serves.start first.2)⟩
  | poll place =>
    cases at_place : work.jobs[place]? with
    | none =>
      rw [Machine.perform_poll_none at_place]
      exact ⟨_, attended.start⟩
    | some job =>
      obtain ⟨before, after, split, rfl⟩ := Machine.split_at_place at_place
      have first := attended_tells.keeps.at_place ⟨sound, attended⟩ split
      rw [Machine.state_poll split]
      have served := (poll_hops sound.tidy job.call).carries
        (fun world rest => Sound world (rest ++ (before ++ after).map (·.call)) ∧
          world.profile = work.state.profile ∧
          world.env.engine.Served work.state.profile work.state.env.engine
            (rest.flatMap Call.tickets ++ ((before ++ after).map (·.call)).flatMap Call.tickets))
        (fun {_ _ _ _ _} h hop => by
          obtain ⟨sound, same, served⟩ := h
          refine ⟨sound.hop hop, (profile_hop sound hop).trans same, ?_⟩
          rw [← same] at served ⊢
          exact served_hop (by simpa using served) hop)
        ⟨first.1, rfl, by simpa using Engine.Serves.start first.2⟩
      exact ⟨_, served.2.2⟩

end World
end EngineSync
