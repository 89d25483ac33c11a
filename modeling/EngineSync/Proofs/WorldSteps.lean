import EngineSync.Proofs.Forwarding
import EngineSync.Proofs.Newcomer
import EngineSync.World

/-!
# The steps of a world

A call that gets the chance to go on may bring up a session, register an activation and send
documents, or it may walk along the listeners of an event, all at once.  `World.Hop` is one step of
such a chance, and `World.poll_hops` takes every chance apart into steps.  A step concerns one
activation at most, so what others do to an activation can be read off one step.

Four things are worth a note: an activation has a session now, it has subscribed, its listener has
taken up an event, and its gate was set.  `World.notes` reads them off a chance, and the steps leave
the same ones.
-/
namespace EngineSync

/-- What is noted of a chance: a session was created for a snapshot of the settings, an activation
has subscribed while some documents were open, its listener has taken up an event, or its gate was
set as the toggle says. -/
inductive WorldNote where
  | began (session : SessionId) (settings : Settings)
  | subscribed (id : ActivationId) (docs : List Document)
  | taken (id : ActivationId) (event : Event)
  | switched (id : ActivationId) (enabled : Bool)
deriving DecidableEq, Repr

/-- Whether a change of the configuration sets the gate: it touches the toggle and not the
profile. -/
def ConfigChange.switches (change : ConfigChange) : Bool :=
  !change.affects ConfigChange.profileKey && change.affects ConfigChange.formattingKey

/-- What a listener does once it is past the barrier. -/
def ListenerStage.taking : Event → ListenerStage
  | .opened doc | .changed doc => .forwarding (.update doc)
  | .closed doc => .forwarding (.close doc)
  | .configuration change => .routing (.arriving change)

namespace World

/-! ## Notes -/

/-- Whether a change that is looked at sets the gate. -/
def switching (world : World) (id : ActivationId) : RouteCall → List WorldNote
  | .arriving change => if change.switches then [.switched id world.env.formatting.2] else []
  | .applying .. => []

/-- Whether a listener sets the gate at this stage. -/
def staged (world : World) (id : ActivationId) : ListenerStage → List WorldNote
  | .routing call => world.switching id call
  | _ => []

/-- Whether a listener takes up its event now, and sets the gate. -/
def takenBy (world : World) (event : Event) : ListenerCall → List WorldNote
  | .activation id .arriving =>
    if (world.activation id).barrier = .open then
      .taken id event :: world.staged id (.taking event)
    else []
  | .activation id stage => world.staged id stage
  | .outside _ => []

/-- The listeners that take up an event while it is delivered. -/
def takenFrom (world : World) (event : Event) : List (Subscription Listener) → List WorldNote
  | [] => []
  | next :: waiting =>
    let (world, call) := world.startListener next.listener
    world.takenBy event call ++
      match world.pollListener event call with
      | (world, .finished (.ok ())) => world.takenFrom event waiting
      | _ => []

/-- The listeners that take up an event when its publication gets a chance. -/
def takings (world : World) : PublishStage → List WorldNote
  | .arriving event =>
    let waiting := world.env.bus.subscribers event.kind
    (world.log [.publishEvent event.kind.name waiting.length]).takenFrom event waiting
  | .delivering ⟨event, none, waiting⟩ => world.takenFrom event waiting
  | .delivering ⟨event, some call, waiting⟩ =>
    world.takenBy event call ++
      match world.pollListener event call with
      | (world, .finished (.ok ())) => world.takenFrom event waiting
      | _ => []

/-- The environment in which a session is created: there is a collection for its reports, and the
settings were read. -/
def prepared (world : World) : Environment :=
  world.env.makeCollection.1.snapshot.1

/-- Whether the first profile is answered now, so that the activation subscribes. -/
def subscribing (world : World) (settings : Settings) (ticket : TicketId) : List WorldNote :=
  match world.env.collectProfile? settings.profile ticket with
  | some (_, .ok ()) => [.subscribed world.activations.length world.env.openDocuments]
  | _ => []

/-- What is noted of an activation that gets the chance to go on. -/
def beginning (world : World) : ActivateStage → List WorldNote
  | .arriving =>
    match world.prepared.openSession world.modulePath (some world.env.collections.length) with
    | (_, .error _) => []
    | (env, .ok session) =>
      .began session world.env.snapshot.2 ::
        match env.applyProfile session world.env.snapshot.2.profile with
        | (_, .error _) => []
        | (env, .ok ticket) => { world with env }.subscribing world.env.snapshot.2 ticket
  | .configuring _ _ settings ticket => world.subscribing settings ticket
  | .replaying .. => []

/-- What is noted of a call that gets the chance to go on. -/
def notes (world : World) : Call → List WorldNote
  | .activate _ stage => world.beginning stage
  | .publish stage => world.takings stage
  | .sync _ _ => []

/-! ## Steps -/

/-- The world with one more activation. -/
def welcome (world : World) (collection : CollectionId) (session : SessionId)
    (settings : Settings) : World :=
  let (env, activation) := Activation.install world.env world.language world.activations.length
    session collection settings.formatting
  { world with env, activations := world.activations ++ [activation] }

/-- One step of a listener. -/
inductive ListenerHop (event : Event) : World → ListenerCall → List WorldNote → World →
    Progress ListenerCall (Except EngineFailure Unit) → Prop where
  | pass {world id} (abandoned : (world.activation id).barrier = .abandoned) :
      ListenerHop event world (.activation id .arriving) [] world (.finished (.ok ()))
  | take {world id} (released : (world.activation id).barrier = .open) :
      ListenerHop event world (.activation id .arriving) [.taken id event] world
        (.pending (.activation id (.taking event)))
  | forward (world id forwarding) :
      ListenerHop event world (.activation id (.forwarding forwarding)) []
        (world.pollForwarding id forwarding).1 (world.pollForwarding id forwarding).2
  | route (world id call) :
      ListenerHop event world (.activation id (.routing call)) (world.switching id call)
        (world.pollRouting id call).1 (world.pollRouting id call).2
  | answered {world number answer} (found : world.outsideAnswers.lookup number = some answer) :
      ListenerHop event world (.outside number) [] world (.finished answer)

/-- What becomes of a publication with what becomes of the listener it is at. -/
def delivered (event : Event) (waiting : List (Subscription Listener)) :
    Progress ListenerCall (Except EngineFailure Unit) → Progress Call CallResult
  | .pending call => .pending (.publish (.delivering ⟨event, some call, waiting⟩))
  | .finished (.ok ()) => .pending (.publish (.delivering ⟨event, none, waiting⟩))
  | .finished (.error failure) => .finished (.failed (.engine failure))

/-- One step of a call. -/
inductive Hop : World → Call → List WorldNote → World → Progress Call CallResult → Prop where
  | refused {world : World} {name env failure}
      (opened : world.prepared.openSession world.modulePath (some world.env.collections.length) =
        (env, .error failure)) :
      Hop world (.activate name .arriving) [] { world with env }
        (.finished (.failed (.start failure)))
  | began {world : World} {name env session env' ticket}
      (opened : world.prepared.openSession world.modulePath (some world.env.collections.length) =
        (env, .ok session))
      (applied : env.applyProfile session world.env.snapshot.2.profile = (env', .ok ticket)) :
      Hop world (.activate name .arriving) [.began session world.env.snapshot.2]
        { world with env := env' }
        (.pending (.activate name
          (.configuring world.env.collections.length session world.env.snapshot.2 ticket)))
  | rejected {world : World} {name collection session settings ticket env failure}
      (collected : world.env.collectProfile? settings.profile ticket =
        some (env, .error failure)) :
      Hop world (.activate name (.configuring collection session settings ticket)) []
        { world with env := (env.disposeSession session).1 }
        (.finished (.failed (.start (.configure failure))))
  | subscribed {world : World} {name collection session settings ticket env}
      (collected : world.env.collectProfile? settings.profile ticket = some (env, .ok ())) :
      Hop world (.activate name (.configuring collection session settings ticket))
        [.subscribed world.activations.length world.env.openDocuments]
        ({ world with env }.welcome collection session settings)
        (.pending (.activate name
          (.replaying world.activations.length settings (.start world.env.openDocuments))))
  | replay {world : World} {name id settings replay sync replay'}
      (polled : (world.sync id).pollReplay replay = (sync, .pending replay')) :
      Hop world (.activate name (.replaying id settings replay)) [] (world.putSync id sync)
        (.pending (.activate name (.replaying id settings replay')))
  | ready {world : World} {name id settings replay sync count}
      (polled : (world.sync id).pollReplay replay = (sync, .finished (.ok count))) :
      Hop world (.activate name (.replaying id settings replay)) []
        ((world.putSync id sync).finishActivate name id settings replay.total) (.finished .active)
  | failed {world : World} {name id settings replay sync failure}
      (polled : (world.sync id).pollReplay replay = (sync, .finished (.error failure))) :
      Hop world (.activate name (.replaying id settings replay)) []
        ((world.putSync id sync).abandon id) (.finished (.failed (.engine failure)))
  | publish (world event) :
      Hop world (.publish (.arriving event)) []
        (world.log [.publishEvent event.kind.name (world.env.bus.subscribers event.kind).length])
        (.pending (.publish
          (.delivering ⟨event, none, world.env.bus.subscribers event.kind⟩)))
  | call (world event next waiting) :
      Hop world (.publish (.delivering ⟨event, none, next :: waiting⟩)) []
        (world.startListener next.listener).1
        (.pending (.publish
          (.delivering ⟨event, some (world.startListener next.listener).2, waiting⟩)))
  | listen {world : World} {event call waiting notes after progress}
      (hop : ListenerHop event world call notes after progress) :
      Hop world (.publish (.delivering ⟨event, some call, waiting⟩)) notes after
        (delivered event waiting progress)
  | finish (world event) :
      Hop world (.publish (.delivering ⟨event, none, []⟩)) [] world (.finished .delivered)
  | sync (world id call) :
      Hop world (.sync id call) [] (world.poll (.sync id call)).1 (world.poll (.sync id call)).2

/-! ## A session comes up -/

section
variable {world : World} {env env' : Environment} {session : SessionId} {profile : Profile}
  {ticket : TicketId}

/-- What is new once a session was created and its first profile handed to the engine. -/
theorem began_eq (opened : world.prepared.openSession world.modulePath
      (some world.env.collections.length) = (env, .ok session))
    (applied : env.applyProfile session profile = (env', .ok ticket)) :
    session = world.env.engine.sessions.length ∧ ticket = world.env.engine.nextTicket ∧
      ∃ size granted permits journal, env' = { world.env with
        engine := { world.env.engine with
          calls := world.env.engine.calls ++
            [.load size, .create session, .request session (.configure profile)]
          permits
          tickets := world.env.engine.tickets ++ [⟨ticket, session, .configure profile, granted⟩]
          nextTicket := ticket + 1
          sessions := world.env.engine.sessions ++
            [⟨false, some world.env.collections.length⟩] }
        collections := world.env.collections ++ [.withEvents]
        journal } := by
  obtain ⟨journal, applied'⟩ := Environment.applyProfile_of_opened profile opened
  obtain ⟨granted, permits, issued⟩ := env.engine.issue_eq session (.configure profile)
  obtain ⟨created, size, journal', rfl⟩ := Environment.openSession_eq opened
  rw [applied, issued] at applied'
  cases applied'
  refine ⟨created, rfl, size, granted, permits, journal, ?_⟩
  simp [prepared, Environment.makeCollection, Environment.snapshot, Environment.log]

theorem began_edits (opened : world.prepared.openSession world.modulePath
      (some world.env.collections.length) = (env, .ok session))
    (applied : env.applyProfile session profile = (env', .ok ticket)) :
    Environment.Edits (.changing (· = .session session)) world.env env' := by
  have applies := @Environment.applyProfile_edits (.changing (· = .session session)) env session
    profile (.inl rfl)
  rw [applied] at applies
  obtain ⟨created, size, journal, rfl⟩ := Environment.openSession_eq opened
  refine Relation.ReflTransGen.trans (Environment.makeCollection_edits world.env)
    (Relation.ReflTransGen.trans (Environment.snapshot_edits _)
      (Relation.ReflTransGen.trans ?_ applies))
  subst created
  -- the collection was made just before, and the session reports to it
  have aimed : ∀ id ∈ some world.env.collections.length, id < world.prepared.collections.length := by
    simp [prepared, Environment.makeCollection, Environment.snapshot, Environment.log]
  exact .tail (.tail (.tail .refl (.load world.prepared size)) (.create aimed)) (.journal _ journal)

end

/-! ## Every chance is a row of steps -/

theorem listener_hops (world : World) (event : Event) (call : ListenerCall) :
    Chain (ListenerHop event) world call
      (world.takenBy event call) (world.pollListener event call).1
      (world.pollListener event call).2 := by
  match call with
  | .activation id .arriving =>
    cases barrier : (world.activation id).barrier with
    | replaying =>
      simp only [takenBy, pollListener, barrier, reduceCtorEq, if_false]
      exact .rest _ _
    | abandoned =>
      simp only [takenBy, pollListener, barrier, reduceCtorEq, if_false]
      exact .finish (.pass barrier)
    | «open» =>
      simp only [takenBy, pollListener, barrier, if_true]
      have work : Chain (ListenerHop event) world (.activation id (.taking event))
          (world.staged id (.taking event)) (world.handle id event).1
          (world.handle id event).2 := by
        cases event with
        | opened doc | changed doc | closed doc => exact .single (.forward ..)
        | configuration change => exact .single (.route ..)
      exact Chain.step (.take barrier) work
  | .activation id (.forwarding forwarding) => exact .single (.forward ..)
  | .activation id (.routing call) => exact .single (.route ..)
  | .outside number =>
    cases answer : world.outsideAnswers.lookup number with
    | none =>
      simp only [takenBy, pollListener, answer]
      exact .rest _ _
    | some answer' =>
      simp only [takenBy, pollListener, answer]
      exact .finish (.answered answer)

theorem replaying_hop (world : World) (name : String) (id : ActivationId) (settings : Settings)
    (replay : Replay) :
    Hop world (.activate name (.replaying id settings replay)) []
      (world.pollReplaying name id settings replay).1
      (world.pollReplaying name id settings replay).2 := by
  unfold pollReplaying
  rcases polled : (world.sync id).pollReplay replay with ⟨sync, replay' | failure | count⟩
  · exact .replay polled
  · exact .failed polled
  · exact .ready polled

theorem publish_of_listener {world after : World} {event : Event} {call : ListenerCall}
    {notes : List WorldNote} {progress : Progress ListenerCall (Except EngineFailure Unit)}
    (waiting : List (Subscription Listener))
    (hops : Chain (ListenerHop event) world call notes after progress) :
    Chain Hop world (.publish (.delivering ⟨event, some call, waiting⟩)) notes after
      (delivered event waiting progress) := by
  induction hops with
  | rest => exact .rest _ _
  | finish hop => exact .single (.listen hop)
  | step hop _ ih => exact .step (.listen hop) ih

theorem deliver_hops (world : World) (event : Event) (waiting : List (Subscription Listener)) :
    Chain Hop world (.publish (.delivering ⟨event, none, waiting⟩)) (world.takenFrom event waiting)
      (world.deliver event waiting).1 (world.deliver event waiting).2 := by
  induction waiting generalizing world with
  | nil => exact .finish (.finish world event)
  | cons next waiting ih =>
    have first := Chain.trans (.single (.call world event next waiting))
      (publish_of_listener waiting (listener_hops _ event _))
    rw [deliver, takenFrom]
    rcases polled : (world.startListener next.listener).1.pollListener event
      (world.startListener next.listener).2 with ⟨after, call | failure | ⟨⟩⟩
    · simpa [polled, delivered] using first
    · simpa [polled, delivered] using first
    · rw [polled] at first
      simpa [polled, delivered] using first.trans (ih after)

theorem publish_hops (world : World) (stage : PublishStage) :
    Chain Hop world (.publish stage) (world.takings stage) (world.pollPublish stage).1
      (world.pollPublish stage).2 := by
  match stage with
  | .arriving event =>
    exact Chain.step (.publish world event) (deliver_hops _ event _)
  | .delivering ⟨event, none, waiting⟩ => exact deliver_hops world event waiting
  | .delivering ⟨event, some call, waiting⟩ =>
    have first := publish_of_listener waiting (listener_hops world event call)
    simp only [takings, pollPublish]
    rcases polled : world.pollListener event call with ⟨after, call' | failure | ⟨⟩⟩
    · simpa [polled, delivered] using first
    · simpa [polled, delivered] using first
    · rw [polled] at first
      simpa [polled, delivered] using first.trans (deliver_hops after event waiting)

theorem startReplay_eq {world : World} (tidy : world.env.Tidy) (name : String)
    (collection : CollectionId) (session : SessionId) (settings : Settings) :
    world.startReplay name collection session settings =
      (world.welcome collection session settings).pollReplaying name world.activations.length
        settings (.start world.env.openDocuments) := by
  have later := Environment.Edits.evolves (Activation.install_edits world.language
    world.activations.length session collection settings.formatting tidy)
  rw [← later.openDocuments]
  rfl

/-- An activation whose first profile is with the engine gets a chance. -/
theorem configuring_hops {world : World} (tidy : world.env.Tidy) (name : String)
    (collection : CollectionId) (session : SessionId) (settings : Settings) (ticket : TicketId) :
    Chain Hop world (.activate name (.configuring collection session settings ticket))
      (world.subscribing settings ticket)
      (world.pollConfiguring name collection session settings ticket).1
      (world.pollConfiguring name collection session settings ticket).2 := by
  unfold pollConfiguring subscribing
  cases collected : world.env.collectProfile? settings.profile ticket with
  | none => exact .rest _ _
  | some outcome =>
    obtain ⟨env, failure | ⟨⟩⟩ := outcome
    · exact .finish (.rejected collected)
    · have edits : Environment.Edits .plain world.env env :=
        Environment.collectProfile?_edits collected
      have documents := (Environment.Edits.evolves edits).openDocuments
      have registered := @startReplay_eq { world with env }
        (Environment.Edits.tidy edits tidy) name collection session settings
      simp only [Environment.concludeBootstrap, registered, documents]
      exact Chain.step (Hop.subscribed collected) (.single (replaying_hop ..))

/-- The start of an activation, from the environment in which its session is created. -/
theorem startActivate_eq (world : World) (name : String) : world.startActivate name =
    match world.prepared.openSession world.modulePath (some world.env.collections.length) with
    | (env, .error failure) => ({ world with env }, .finished (.failed (.start failure)))
    | (env, .ok session) =>
      match env.applyProfile session world.env.snapshot.2.profile with
      | (env, .error failure) =>
        ({ world with env := (env.concludeBootstrap session (.error failure)).1 },
          .finished (.failed (.start (.configure failure))))
      | (env, .ok ticket) =>
        { world with env }.pollConfiguring name world.env.collections.length session
          world.env.snapshot.2 ticket := by
  unfold World.startActivate
  rfl

/-- An activation gets a chance. -/
theorem activate_hops {world : World} (tidy : world.env.Tidy) (name : String)
    (stage : ActivateStage) :
    Chain Hop world (.activate name stage) (world.beginning stage)
      (world.pollActivate name stage).1 (world.pollActivate name stage).2 := by
  cases stage with
  | arriving =>
    simp only [pollActivate, startActivate_eq, beginning]
    rcases opened : world.prepared.openSession world.modulePath
      (some world.env.collections.length) with ⟨env, failure | session⟩
    · exact .finish (.refused opened)
    · obtain ⟨journal, applied⟩ :=
        Environment.applyProfile_of_opened world.env.snapshot.2.profile opened
      have tidy' := Environment.Edits.tidy (began_edits opened applied) tidy
      simp only [applied]
      exact Chain.step (Hop.began opened applied) (configuring_hops tidy' name _ session _ _)
  | configuring collection session settings ticket =>
    exact configuring_hops tidy name collection session settings ticket
  | replaying id settings replay => exact .single (replaying_hop ..)

/-- **A chance is a row of steps**, and its notes are theirs. -/
theorem poll_hops {world : World} (tidy : world.env.Tidy) (call : Call) :
    Chain Hop world call (world.notes call) (world.poll call).1 (world.poll call).2 := by
  cases call with
  | activate name stage => exact activate_hops tidy name stage
  | publish stage => exact publish_hops world stage
  | sync id call => exact .single (.sync ..)

end World
end EngineSync
