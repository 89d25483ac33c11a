import EngineSync.Proofs.Barriers
import EngineSync.Proofs.Endings

/-!
# What a session is asked to do with its documents

A session hears of documents from the replay and the listeners of its activation, and from calls
made for it.  Whatever else happens is not about the documents of its activation, or it ends the
session (`World.Passes`): calls and listeners of other activations, changes of the configuration,
and moves of the surroundings.
-/
namespace EngineSync

/-- What a recorded call asks of its session. -/
def EngineCall.request? : EngineCall → Option Request
  | .request _ asked => some asked
  | _ => none

/-- What a session was asked to do with a document, in order. -/
def Engine.asked (engine : Engine) (session : SessionId) (uri : Uri) : List Request :=
  ((engine.callsOf session).filterMap EngineCall.request?).filter (·.uri? = some uri)

theorem Engine.asked_issue (engine : Engine) (session : SessionId) (request : Request) (uri : Uri) :
    (engine.issue session request).1.asked session uri =
      engine.asked session uri ++ [request].filter (·.uri? = some uri) := by
  rw [asked, callsOf_issue, List.filterMap_append, List.filter_append]
  rfl

theorem Engine.asked_of_callsOf {engine engine' : Engine} {session : SessionId}
    (calls : engine'.callsOf session = engine.callsOf session) (uri : Uri) :
    engine'.asked session uri = engine.asked session uri := by
  rw [asked, asked, calls]

/-! ## Changes of the configuration -/

namespace Environment
variable {env : Environment}

/-- A profile is not about a document. -/
theorem asked_applyProfile (env : Environment) (session session' : SessionId) (profile : Profile)
    (uri : Uri) : (env.applyProfile session' profile).1.engine.asked session uri =
      env.engine.asked session uri := by
  unfold applyProfile Session.applyProfile Session.request
  cases env.engine.isDisposed session' with
  | true => rfl
  | false =>
    obtain ⟨granted, permits, issued⟩ := env.engine.issue_eq session' (.configure profile)
    have none : (([EngineCall.request session' (.configure profile)].filter
        (·.session? = some session)).filterMap EngineCall.request?).filter
          (·.uri? = some uri) = [] := by
      rw [List.filter_singleton, cond_eq_ite]
      split <;> simp [EngineCall.request?, Request.uri?]
    rw [if_neg Bool.false_ne_true, issued]
    simp only [Engine.asked, Engine.callsOf, log, List.filter_append, List.filterMap_append, none,
      List.append_nil]

theorem asked_pollApplying (env : Environment) (session : SessionId) (profile : Profile)
    (ticket : TicketId) (uri : Uri) :
    (Router.pollApplying env profile ticket).1.engine.asked session uri =
      env.engine.asked session uri := by
  unfold Router.pollApplying
  cases collected : env.collectProfile? profile ticket with
  | none => rfl
  | some answered =>
    obtain ⟨⟨engine, answer⟩, found, rfl⟩ := Option.map_eq_some_iff.mp collected
    obtain ⟨claim, -, -, -, -, rfl⟩ := Engine.collect?_eq found
    rfl

/-- Whatever changes in the configuration, no session is asked to do anything with a document. -/
theorem asked_route {session : SessionId} (tidy : env.Tidy)
    (lt : session < env.engine.sessions.length) (router : Router) (call : RouteCall) (uri : Uri) :
    (router.poll env call).1.engine.asked session uri = env.engine.asked session uri := by
  cases call with
  | applying profile ticket => exact asked_pollApplying env session profile ticket uri
  | arriving change =>
    simp only [Router.poll, Router.route]
    split
    · have asks := asked_applyProfile (env.profile.1.log [.routeProfile ConfigChange.profileKey
        env.profile.2]) session router.session env.profile.2 uri
      simp only [Router.routeProfile]
      revert asks
      rcases (env.profile.1.log _).applyProfile router.session env.profile.2 with
        ⟨env', failure | ticket⟩ <;> intro asks
      · exact asks
      · exact (asked_pollApplying env' session _ ticket uri).trans asks
    · split
      · have reads : Edits (.changing (· = .gate router.gate)) env (env.formatting.1.log
            [.routeFormatting ConfigChange.formattingKey env.formatting.2]) :=
          Edits.log (formatting_edits env) _
        have sets : Edits (.changing (· = .gate router.gate)) _ _ :=
          setEnabled_edits env.formatting.2 (Edits.tidy reads tidy) (.inl rfl)
        have quiet := Edits.quiet (Relation.ReflTransGen.trans reads sets) (.inl lt)
          (by simp [Scope.changing, Scope.IsProvider])
        exact Engine.asked_of_callsOf quiet.calls uri
      · rfl

end Environment

namespace World

/-- The session of an activation was disposed. -/
def Ended (id : ActivationId) (world : World) : Prop :=
  world.env.engine.isDisposed (world.activation id).session = true

/-- What the session of an activation was asked to do with a document. -/
def asked (world : World) (id : ActivationId) (uri : Uri) : List Request :=
  world.env.engine.asked (world.activation id).session uri

/-- Whatever has happened was not about an activation and its documents. -/
structure Unmoved (id : ActivationId) (world world' : World) : Prop where
  activation : world'.activation id = world.activation id
  asked : ∀ uri, world'.asked id uri = world.asked id uri

/-- What has happened was not about an activation and its documents, or it has ended its session. -/
def Passes (id : ActivationId) (world world' : World) : Prop :=
  Ended id world' ∨ Unmoved id world world'

variable {world world' world'' : World} {call : Call} {calls : List Call} {id id' : ActivationId}
  {notes : List WorldNote} {progress : Progress Call CallResult} {name : String}
  {settings : Settings} {replay : Replay} {total : Nat}

theorem lasting_session : Lasting Activation.session :=
  ⟨fun _ _ => rfl, fun _ _ => rfl⟩

namespace Ended

/-- A session that was disposed stays so. -/
theorem later (h : Ended id world)
    (session : (world'.activation id).session = (world.activation id).session)
    (disposed : ∀ session, world.env.engine.isDisposed session = true →
      world'.env.engine.isDisposed session = true) : Ended id world' := by
  unfold Ended
  rw [session]
  exact disposed _ h

theorem hop (h : Ended id world) (sound : Sound world (call :: calls))
    (lt : id < world.activations.length) (hop : Hop world call notes world' progress) :
    Ended id world' :=
  h.later (lasting_session.hop sound lt (.inr fun _ _ => rfl) hop)
    (Environment.Edits.evolves (sound.sessions_hop hop)).disposed

theorem cancel (h : Ended id world) (sound : Sound world (call :: calls)) :
    Ended id (world.cancel call) :=
  h.later (lasting_session.cancel world id (.inr fun _ _ => rfl))
    (Environment.Edits.evolves sound.sessions_cancel).disposed

theorem surround (h : Ended id world) (sound : Sound world calls) (move : WorldMove) :
    Ended id (world.surround move) := by
  obtain ⟨env, files, source, docs, edits, moved⟩ := @Sound.sessions_surround world calls
    (fun _ => True) sound (fun _ _ => trivial) move
  refine h.later (lasting_session.surround sound id move) fun session disposed => ?_
  rw [moved]
  exact (Environment.Edits.evolves edits).disposed session disposed

/-- Whoever is torn down loses its session. -/
theorem teardown (sound : Sound world calls) (lt : id < world.activations.length)
    (holds : (world.activation id).owner.held ≠ []) : Ended id (world.teardown id).1 := by
  unfold Ended
  rw [lasting_session.teardown world id id]
  exact (sound.teardown_ends lt holds).2

theorem abandon
    (sound : Sound world (.activate name (.replaying id settings replay) :: calls)) :
    Ended id (world.abandon id) := by
  obtain ⟨moved, lt, own⟩ := sound.abandoning
  refine teardown moved lt ?_
  rw [own]
  exact (sound.orderly.replaying id List.mem_cons_self).2

end Ended

/-! ## What others do -/

namespace Unmoved

theorem refl (id : ActivationId) (world : World) : Unmoved id world world :=
  ⟨rfl, fun _ => rfl⟩

theorem trans (h : Unmoved id world world') (h' : Unmoved id world' world'') :
    Unmoved id world world'' :=
  ⟨h'.activation.trans h.activation, fun uri => (h'.asked uri).trans (h.asked uri)⟩

/-- Nothing but the activation and the engine matters. -/
theorem of_eq (activations : world'.activations = world.activations)
    (engine : world'.env.engine = world.env.engine) : Unmoved id world world' := by
  have own : world'.activation id = world.activation id := by
    rw [World.activation, activations]
    rfl
  exact ⟨own, fun uri => by rw [World.asked, World.asked, own, engine]⟩

theorem of_quiet (activation : world'.activation id = world.activation id)
    (quiet : Environment.Quiet (world.activation id).session world.env world'.env) :
    Unmoved id world world' :=
  ⟨activation, fun uri => by
    rw [World.asked, World.asked, activation, Engine.asked_of_callsOf quiet.calls]⟩

end Unmoved

theorem Leaves.unmoved (h : Leaves id world world') : Unmoved id world world' :=
  .of_quiet h.activation h.spares.quiet

theorem Ended.of_eq (h : Ended id world) (activations : world'.activations = world.activations)
    (engine : world'.env.engine = world.env.engine) : Ended id world' := by
  refine h.later ?_ fun session disposed => engine ▸ disposed
  rw [World.activation, activations]
  rfl

theorem Passes.of_eq (h : Passes id world world')
    (activations : world''.activations = world'.activations)
    (engine : world''.env.engine = world'.env.engine) : Passes id world world'' :=
  h.imp (fun ended => ended.of_eq activations engine)
    fun unmoved => unmoved.trans (.of_eq activations engine)

namespace Sound

theorem passes_drop (h : Sound world calls) (lt : id < world.activations.length) (name : String) :
    Passes id world (world.drop name) := by
  unfold World.drop
  cases found : world.live? name with
  | none => exact .inr (.refl id world)
  | some id' =>
    by_cases here : id' = id
    · subst here
      have holds := (h.orderly.live _ (lookup_mem found)).2
      exact .inl ((Ended.teardown h lt holds).of_eq rfl rfl)
    · have left := h.leaves_teardown lt (h.live_lt found) here
        (fun name => Iff.refl ((name, id) ∈ world.live))
      exact .inr (left.unmoved.trans (.of_eq rfl rfl))

theorem passes_deactivate (h : Sound world calls) (lt : id < world.activations.length)
    (name : String) : Passes id world (world.deactivate name) := by
  have drops := h.passes_drop lt name
  unfold World.drop at drops
  unfold World.deactivate
  cases found : world.live? name with
  | none => exact .inr (.refl id world)
  | some id' =>
    rw [found] at drops
    exact drops.of_eq rfl rfl

/-- The documents have arrived of somebody else, who takes the place of the activation of his
name. -/
theorem passes_finishActivate
    (h : Sound world (.activate name (.replaying id' settings replay) :: calls))
    (lt : id < world.activations.length) (ne : id' ≠ id) :
    Passes id world (world.finishActivate name id' settings total) := by
  have moved : Unmoved id world (world.setBarrier id' .open) :=
    (leaves_setBarrier world ne .open).unmoved
  have opened : Unmoved id world (world.readied id' settings total) := moved.trans (.of_eq rfl rfl)
  have drops := (h.readied total).passes_drop (Sound.length_setBarrier world id' .open ▸ lt) name
  exact Passes.of_eq (drops.imp_right opened.trans) rfl rfl

/-- A listener of the activation itself or of another one looks at a change: all that its session
may get is a profile. -/
theorem unmoved_routing (h : Sound world calls) (lt : id < world.activations.length)
    (id' : ActivationId) (call : RouteCall) : Unmoved id world (world.pollRouting id' call).1 :=
  ⟨rfl, Environment.asked_route h.tidy (h.within lt).session (world.activation id').router call⟩

theorem unmoved_routeNow (h : Sound world calls) (lt : id < world.activations.length)
    (id' : ActivationId) (change : ConfigChange) :
    Unmoved id world (world.routeNow id' change).1 := by
  have routes := h.unmoved_routing lt id' (.arriving change)
  unfold pollRouting at routes
  unfold routeNow
  revert routes
  rcases (world.activation id').router.poll world.env (.arriving change) with
    ⟨env, call | result⟩ <;> intro routes
  · refine routes.trans ⟨rfl, Engine.asked_of_callsOf ?_⟩
    cases call with
    | arriving change => rfl
    | applying profile ticket =>
      obtain ⟨tickets, permits, cancelled, -⟩ := env.engine.cancel_eq ticket
      show (env.engine.cancel ticket).callsOf _ = env.engine.callsOf _
      rw [cancelled]
      rfl
  · exact routes

/-- **A step of another call** is not about the activation and its documents, or it ends the
session. -/
theorem passes_hop (h : Sound world (call :: calls)) (lt : id < world.activations.length)
    (idle : call.worksFor? ≠ some id) (still : call.replaying? ≠ some id)
    (hop : Hop world call notes world' progress) : Passes id world world' := by
  by_cases ends : progress = .finished .active
  · cases hop with
    | @ready name id' settings replay sync count polled =>
      have ne : id' ≠ id := fun same => still (congrArg some same)
      have lt' : id' < world.activations.length := h.lt_of_ids List.mem_cons_self
      have works := works_pollReplay polled
      have left := h.leaves_works lt lt' ne works
      have worked := h.works lt' works
      exact (worked.passes_finishActivate (works.calm.length ▸ lt) ne).imp_right left.unmoved.trans
    | @listen _ _ _ _ _ outcome _ => rcases outcome with listener | failure | ⟨⟩ <;> cases ends
    | sync id' call =>
      simp only [World.poll] at ends
      revert ends
      rcases (world.sync id').pollCall call with ⟨sync, call' | result⟩ <;> intro ends <;> cases ends
    | _ => cases ends
  · exact .inr (h.leaves_hop lt idle still (fun _ _ _ same => absurd same ends) hop).unmoved

theorem passes_cancel (h : Sound world (call :: calls)) (lt : id < world.activations.length)
    (idle : call.worksFor? ≠ some id) : Passes id world (world.cancel call) := by
  by_cases own : call.replaying? = some id
  · obtain ⟨name, settings, replay, rfl⟩ := Call.of_replaying own
    have works := works_cancelSync world id (.replay replay)
    exact .inl (.abandon (h.works lt works))
  · exact .inr (h.leaves_cancel lt idle own).unmoved

theorem passes_surround (h : Sound world calls) (lt : id < world.activations.length)
    (move : WorldMove) : Passes id world (world.surround move) := by
  cases move with
  | release key =>
    have left := h.leaves_plain lt (.single (Environment.release_edit world.env key))
    exact .inr left.unmoved
  | grant ticket =>
    have left := h.leaves_plain lt (.single (Environment.grant_edit world.env ticket))
    exact .inr left.unmoved
  | refuse refusals =>
    have left := h.leaves_plain lt (.single (Environment.refuse_edit world.env refusals))
    exact .inr left.unmoved
  | files | source | documents | listen | answer => exact .inr (.of_eq rfl rfl)
  | report uri version diagnostics =>
    have rests := rests_report world id uri version diagnostics
    exact .inr (.of_quiet rests.activation rests.quiet)
  | unlisten number =>
    simp only [World.surround]
    split <;> exact .inr (.of_eq rfl rfl)
  | deactivate name => exact h.passes_deactivate lt name
  | drop name => exact h.passes_drop lt name
  | disposeSession name =>
    simp only [World.surround]
    cases found : world.live? name with
    | none => exact .inr (.refl id world)
    | some id' =>
      by_cases here : id' = id
      · subst here
        exact .inl (Environment.disposeSession_disposed (h.within lt).session)
      · have ne := h.owned.session_ne (core_eq lt) (core_eq (h.live_lt found)) here
        exact .inr (h.leaves_session lt ne
          (Environment.disposeSession_edits world.env (.inl rfl))).unmoved
  | route name change =>
    simp only [World.surround]
    cases found : world.live? name with
    | none => exact .inr (.refl id world)
    | some id' => exact .inr (h.unmoved_routeNow lt id' change)

end Sound

end World
end EngineSync
