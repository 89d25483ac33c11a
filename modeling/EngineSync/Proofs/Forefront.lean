import EngineSync.Proofs.Unmoved

/-!
# In front of the others

An activation that subscribed while nobody listened to documents is the first to hear of them for as
long as its session is up: whoever comes later stands behind it, so nobody can hold an event of a
document back from it.
-/
namespace EngineSync

/-- A call does not stand between documents and an activation: if it is the publication of one that
has not reached the activation, the activation is the next to be called; and it is not made directly
to the session. -/
def Call.Heads (id : ActivationId) : Call → Prop
  | .publish (.delivering ⟨event, current, waiting⟩) =>
    event.kind ≠ .configurationChanged → id ∈ audience waiting →
      current = none ∧ ∀ sub ∈ waiting.tail, sub.listener ≠ .activation id
  | .sync id' _ => id' ≠ id
  | _ => True

theorem Listener.eq_of_activation? {listener : Listener} {id : ActivationId}
    (h : listener.activation? = some id) : listener = .activation id := by
  cases listener with
  | activation id' => exact congrArg Listener.activation (Option.some.inj h)
  | outside number => cases h

theorem Subscription.row_listener {listener : Listener} {number : SubscriptionId}
    {kinds : List EventKind} : ∀ sub ∈ row listener number kinds, sub.listener = listener := by
  induction kinds generalizing number with
  | nil => exact fun sub mem => (List.not_mem_nil mem).elim
  | cons kind kinds ih =>
    intro sub mem
    rcases List.mem_cons.mp mem with rfl | later
    · rfl
    · exact ih sub later

namespace World
variable {world world' world'' : World} {call : Call} {calls : List Call} {id id' : ActivationId}
  {notes : List WorldNote} {progress : Progress Call CallResult} {name : String}
  {settings : Settings} {replay : Replay} {total : Nat}

/-! ## Who listens -/

/-- Listeners may have left, and nobody has come. -/
structure Retires (world world' : World) : Prop where
  length : world'.activations.length = world.activations.length
  bus : world'.env.bus.subscriptions.Sublist world.env.bus.subscriptions
  openDocuments : world'.env.openDocuments = world.env.openDocuments

namespace Retires

theorem refl (world : World) : Retires world world :=
  ⟨rfl, List.Sublist.refl _, rfl⟩

theorem trans (h : Retires world world') (h' : Retires world' world'') : Retires world world'' :=
  ⟨h'.length.trans h.length, h'.bus.trans h.bus, h'.openDocuments.trans h.openDocuments⟩

theorem edits {scope : Scope} {env : Environment}
    (edits : Environment.Edits scope world.env env) (nobody : ∀ listener, ¬scope.listens listener) :
    Retires world { world with env } :=
  ⟨rfl, Environment.Edits.leave edits nobody, (Environment.Edits.evolves edits).openDocuments⟩

theorem works (works : Works id world world') : Retires world world' :=
  ⟨works.calm.length, Environment.Edits.leave works.edits fun _ no => no,
    (Environment.Edits.evolves works.edits).openDocuments⟩

theorem setBarrier (world : World) (id : ActivationId) (barrier : Barrier) :
    Retires world (world.setBarrier id barrier) :=
  ⟨Sound.length_setBarrier world id barrier, List.Sublist.refl _, rfl⟩

theorem teardown (sound : Sound world calls) (lt : id < world.activations.length) :
    Retires world (world.teardown id).1 := by
  have torn := sound.owned.teardown_edits (Sound.core_eq lt)
  exact ⟨Sound.length_teardown world id, Environment.Edits.leave torn fun _ no => no,
    (Environment.Edits.evolves torn).openDocuments⟩

theorem drop (sound : Sound world calls) (name : String) : Retires world (world.drop name) := by
  unfold World.drop
  cases found : world.live? name with
  | none => exact refl world
  | some id => exact (teardown sound (sound.live_lt found)).trans ⟨rfl, List.Sublist.refl _, rfl⟩

theorem deactivate (sound : Sound world calls) (name : String) :
    Retires world (world.deactivate name) := by
  unfold World.deactivate
  cases found : world.live? name with
  | none => exact refl world
  | some id => exact (teardown sound (sound.live_lt found)).trans ⟨rfl, List.Sublist.refl _, rfl⟩

theorem abandon (sound : Sound world (.activate name (.replaying id settings replay) :: calls)) :
    Retires world (world.abandon id) := by
  obtain ⟨moved, lt, -⟩ := sound.abandoning
  exact (setBarrier world id .abandoned).trans (teardown moved lt)

theorem finishActivate
    (sound : Sound world (.activate name (.replaying id settings replay) :: calls)) :
    Retires world (world.finishActivate name id settings total) := by
  have dropped := drop (sound.readied total) name
  exact (setBarrier world id .open).trans ⟨dropped.length, dropped.bus, dropped.openDocuments⟩

end Retires

/-- **A step lets nobody come** but the activation that it is noted to subscribe. -/
theorem Sound.retires_hop (h : Sound world (call :: calls))
    (hop : Hop world call notes world' progress)
    (quiet : ∀ id docs, .subscribed id docs ∉ notes) : Retires world world' := by
  cases hop with
  | refused opened =>
    have reads : Environment.Edits .plain world.env world.prepared :=
      Relation.ReflTransGen.trans (Environment.makeCollection_edits world.env)
        (Environment.snapshot_edits _)
    exact .edits (Relation.ReflTransGen.trans reads (Environment.openSession_refused opened))
      fun _ no => no
  | began opened applied => exact .edits (began_edits opened applied) fun _ no => no
  | @rejected name collection session settings ticket env failure collected =>
    have collects : Environment.Edits (.changing (· = .session session)) world.env env :=
      Environment.collectProfile?_edits collected
    exact .edits (Relation.ReflTransGen.trans collects
      (Environment.disposeSession_edits env (.inl rfl))) fun _ no => no
  | subscribed collected => exact absurd List.mem_cons_self (quiet _ _)
  | replay polled => exact .works (works_pollReplay polled)
  | ready polled =>
    have works := works_pollReplay polled
    have worked := h.works (h.lt_of_ids List.mem_cons_self) works
    exact (Retires.works works).trans (.finishActivate worked)
  | failed polled =>
    have works := works_pollReplay polled
    have worked := h.works (h.lt_of_ids List.mem_cons_self) works
    exact (Retires.works works).trans (.abandon worked)
  | publish event => exact ⟨rfl, List.Sublist.refl _, rfl⟩
  | call event next waiting =>
    unfold startListener
    cases next.listener <;> exact ⟨rfl, List.Sublist.refl _, rfl⟩
  | listen hop =>
    cases hop with
    | pass | take | answered => exact .refl world
    | forward id forwarding => exact .works (works_forwarding world id forwarding)
    | route id call => exact .works (works_routing h.tidy id call)
  | finish event => exact .refl world
  | sync id call => exact .works (works_sync world id call)

theorem Sound.retires_cancel (h : Sound world (call :: calls)) :
    Retires world (world.cancel call) := by
  match call with
  | .activate name .arriving | .publish (.arriving event)
  | .publish (.delivering ⟨event, none, waiting⟩)
  | .publish (.delivering ⟨event, some (.outside number), waiting⟩)
  | .publish (.delivering ⟨event, some (.activation id .arriving), waiting⟩) => exact .refl world
  | .activate name (.configuring collection session settings ticket) =>
    have gives_up : Environment.Edits .plain world.env _ :=
      .single (Environment.cancel_edit world.env ticket)
    exact .edits gives_up fun _ no => no
  | .activate name (.replaying id settings replay) =>
    have works := works_cancelSync world id (.replay replay)
    exact (Retires.works works).trans (.abandon (h.works (h.lt_of_ids List.mem_cons_self) works))
  | .publish (.delivering ⟨event, some (.activation id (.forwarding forwarding)), waiting⟩) =>
    exact .works (works_cancelListener world id (.forwarding forwarding))
  | .publish (.delivering ⟨event, some (.activation id (.routing route)), waiting⟩) =>
    exact .works (works_cancelListener world id (.routing route))
  | .sync id call => exact .works (works_cancelSync world id call)

/-- What a step that subscribes an activation comes to. -/
theorem subscribed_hop {docs : List Document} (hop : Hop world call notes world' progress)
    (noted : .subscribed id docs ∈ notes) :
    id = world.activations.length ∧ docs = world.env.openDocuments ∧
      ∃ name collection session settings ticket env,
        call = .activate name (.configuring collection session settings ticket) ∧
        world.env.collectProfile? settings.profile ticket = some (env, .ok ()) ∧
        world' = World.welcome { world with env } collection session settings ∧
        progress = .pending (.activate name (.replaying id settings (.start docs))) := by
  cases hop with
  | @subscribed name collection session settings ticket env collected =>
    cases List.mem_singleton.mp noted
    exact ⟨rfl, rfl, name, collection, session, settings, ticket, env, rfl, collected, rfl, rfl⟩
  | began => cases List.mem_singleton.mp noted
  | listen hop =>
    cases hop with
    | take => cases List.mem_singleton.mp noted
    | route id' call =>
      cases call with
      | arriving change =>
        simp only [switching] at noted
        split at noted <;> simp at noted
      | applying profile ticket => cases noted
    | _ => cases noted
  | _ => cases noted

/-! ## In front -/

/-- Nobody stands before an activation on the bus, as far as documents are concerned. -/
def Leads (id : ActivationId) (env : Environment) : Prop :=
  ∀ kind ≠ .configurationChanged, ∀ sub ∈ (env.bus.subscribers kind).tail,
    sub.listener ≠ .activation id

theorem Leads.fewer {env env' : Environment} (h : Leads id env)
    (fewer : env'.bus.subscriptions.Sublist env.bus.subscriptions) : Leads id env' :=
  fun kind document sub mem => h kind document sub ((fewer.filter _).tail.subset mem)

/-- Whoever comes stands behind. -/
theorem Leads.more {env env' : Environment} (h : Leads id env)
    {new : List (Subscription Listener)}
    (bus : env'.bus.subscriptions = env.bus.subscriptions ++ new)
    (others : ∀ sub ∈ new, sub.listener ≠ .activation id) : Leads id env' := by
  intro kind document sub mem
  have split : env'.bus.subscribers kind =
      env.bus.subscribers kind ++ new.filter (·.kind = kind) := by
    rw [EventBus.subscribers, bus, List.filter_append]
    rfl
  rw [split] at mem
  cases front : env.bus.subscribers kind with
  | nil =>
    rw [front, List.nil_append] at mem
    exact others sub (List.mem_filter.mp (List.mem_of_mem_tail mem)).1
  | cons first rest =>
    rw [front] at mem
    rcases List.mem_append.mp mem with old | fresh
    · refine h kind document sub ?_
      rw [front]
      exact old
    · exact others sub (List.mem_filter.mp fresh).1

/-- An activation is the first to hear of documents. -/
structure Forefront (id : ActivationId) (world : World) (calls : List Call) : Prop where
  there : id < world.activations.length
  holds : (world.activation id).owner.held ≠ []
  leads : Leads id world.env
  heads : ∀ call ∈ calls, call.Heads id

/-- A step leaves an activation what it holds, or ends its session. -/
theorem Sound.owner_hop (h : Sound world (call :: calls)) (lt : id < world.activations.length)
    (hop : Hop world call notes world' progress) :
    Ended id world' ∨ (world'.activation id).owner = (world.activation id).owner := by
  by_cases still : call.replaying? = some id
  · obtain ⟨name, settings, replay, rfl⟩ := Call.of_replaying still
    cases hop with
    | replay polled => exact .inr ((works_pollReplay polled).calm.owner id)
    | @ready name id settings replay sync count polled =>
      have works := works_pollReplay polled
      have worked := h.works lt works
      have lt' := works.calm.length ▸ lt
      have ready := activation_readied lt' settings replay.total
      have length := Sound.length_setBarrier (world.putSync id sync) id .open
      refine ((worked.readied replay.total).passes_drop (length ▸ lt') name).imp
        (fun ended => ended.of_eq rfl rfl) fun unmoved => ?_
      refine (congrArg Activation.owner (unmoved.activation.trans ready)).trans ?_
      exact works.calm.owner id
    | failed polled => exact .inl (.abandon (h.works lt (works_pollReplay polled)))
  · by_cases idle : call.worksFor? = some id
    · cases hop with
      | listen hop =>
        cases hop with
        | pass | take | answered => exact .inr rfl
        | forward id' forwarding => exact .inr ((works_forwarding world id' forwarding).calm.owner id)
        | route id' route => exact .inr rfl
      | sync id' call => exact .inr ((works_sync world id' call).calm.owner id)
      | _ => cases idle
    · exact (h.passes_hop lt idle still hop).imp_right fun unmoved => by rw [unmoved.activation]

namespace Forefront

theorem perm {calls' : List Call} (h : Forefront id world calls) (hp : calls.Perm calls') :
    Forefront id world calls' :=
  ⟨h.there, h.holds, h.leads, fun call mem => h.heads call (hp.mem_iff.mpr mem)⟩

theorem leads_hop (h : Forefront id world (call :: calls)) (sound : Sound world (call :: calls))
    (hop : Hop world call notes world' progress) : Leads id world'.env := by
  by_cases noted : ∃ id' docs, .subscribed id' docs ∈ notes
  · obtain ⟨id', docs, noted⟩ := noted
    obtain ⟨-, -, name, collection, session, settings, ticket, env, rfl, collected, rfl, -⟩ :=
      subscribed_hop hop noted
    have collects : Environment.Edits .plain world.env env :=
      Environment.collectProfile?_edits collected
    have bus := Environment.Edits.bus collects (fun _ no => no) (by
      simp [Scope.plain, Scope.changing, Scope.IsProvider])
    refine h.leads.more ((Activation.install_subscriptions _ _ _ _ _
      (Environment.Edits.tidy collects sound.tidy)).trans (by rw [bus])) ?_
    intro sub mem
    rw [Subscription.row_listener sub mem]
    exact fun same => Nat.ne_of_gt h.there (Listener.activation.inj same)
  · exact h.leads.fewer (sound.retires_hop hop fun id' docs mem => noted ⟨id', docs, mem⟩).bus

/-- Whoever gets its chance goes on as it should. -/
theorem heads_hop (h : Forefront id world (call :: calls))
    (hop : Hop world call notes world' progress) :
    ∀ next ∈ progress.rest, next.Heads id := by
  have own := h.heads call List.mem_cons_self
  intro next mem
  cases hop with
  | refused | rejected | ready | failed | finish => cases mem
  | began | subscribed | replay => exact List.mem_singleton.mp mem ▸ trivial
  | publish event =>
    rw [List.mem_singleton.mp mem]
    exact fun document _ => ⟨rfl, h.leads event.kind document⟩
  | call event next waiting =>
    rw [List.mem_singleton.mp mem]
    intro document later
    obtain ⟨sub, there, same⟩ := List.mem_filterMap.mp later
    have first := own document (List.mem_filterMap.mpr ⟨sub, List.mem_cons_of_mem _ there, same⟩)
    exact absurd (Listener.eq_of_activation? same) (first.2 sub there)
  | @listen event listener waiting _ _ outcome hop =>
    have passed : event.kind ≠ .configurationChanged → id ∉ audience waiting := fun document later =>
      Option.some_ne_none _ (own document later).1
    rcases outcome with listener' | failure | ⟨⟩
    · rw [List.mem_singleton.mp mem]
      exact fun document later => absurd later (passed document)
    · cases mem
    · rw [List.mem_singleton.mp mem]
      exact fun document later => absurd later (passed document)
  | sync id' call =>
    rw [World.poll, Progress.rest_map] at mem
    obtain ⟨call', -, rfl⟩ := List.mem_map.mp mem
    exact own

/-- **An activation stays in front** until its session is ended. -/
theorem hop (h : Forefront id world (call :: calls)) (sound : Sound world (call :: calls))
    (hop : Hop world call notes world' progress) :
    Ended id world' ∨ Forefront id world' (progress.rest ++ calls) := by
  rcases sound.owner_hop h.there hop with ended | owner
  · exact .inl ended
  · refine .inr ⟨Nat.lt_of_lt_of_le h.there (sound.length_hop hop), ?_, h.leads_hop sound hop, ?_⟩
    · rw [owner]
      exact h.holds
    · intro next mem
      rcases List.mem_append.mp mem with new | old
      · exact h.heads_hop hop next new
      · exact h.heads next (List.mem_cons_of_mem _ old)

theorem cancel (h : Forefront id world (call :: calls)) (sound : Sound world (call :: calls))
    (idle : call.worksFor? ≠ some id) :
    Ended id (world.cancel call) ∨ Forefront id (world.cancel call) calls := by
  refine (sound.passes_cancel h.there idle).imp_right fun unmoved => ?_
  refine ⟨Sound.length_cancel world call ▸ h.there, ?_, h.leads.fewer sound.retires_cancel.bus,
    fun next mem => h.heads next (List.mem_cons_of_mem _ mem)⟩
  rw [unmoved.activation]
  exact h.holds

theorem leads_surround (h : Forefront id world calls) (sound : Sound world calls)
    (move : WorldMove) : Leads id (world.surround move).env := by
  cases move with
  | release | grant | refuse | files | source | documents | answer => exact h.leads
  | report uri version diagnostics =>
    refine h.leads.fewer ?_
    simp only [World.surround, Environment.publishDiagnostics]
    cases world.env.engine.newestSink <;> exact List.Sublist.refl _
  | listen kind number => exact h.leads.more rfl (by simp)
  | unlisten number =>
    simp only [World.surround]
    split
    · exact h.leads.fewer List.filter_sublist
    · exact h.leads
  | deactivate name => exact h.leads.fewer (Retires.deactivate sound name).bus
  | drop name => exact h.leads.fewer (Retires.drop sound name).bus
  | disposeSession name =>
    simp only [World.surround]
    cases world.live? name <;> exact h.leads
  | route name change =>
    simp only [World.surround]
    cases world.live? name with
    | none => exact h.leads
    | some id' => exact h.leads.fewer (Retires.works (works_routeNow sound.tidy id' change)).bus

theorem surround (h : Forefront id world calls) (sound : Sound world calls) (move : WorldMove) :
    Ended id (world.surround move) ∨ Forefront id (world.surround move) calls := by
  refine (sound.passes_surround h.there move).imp_right fun unmoved => ?_
  refine ⟨sound.length_surround move ▸ h.there, ?_, h.leads_surround sound move, h.heads⟩
  rw [unmoved.activation]
  exact h.holds

/-- A call that is accepted has reached no listener. -/
theorem accept (h : Forefront id world calls) {request : WorldRequest}
    (apart : ∀ asked, request ≠ .sync id asked)
    (accepted : world.accept request = some call) : Forefront id world (calls ++ [call]) := by
  refine ⟨h.there, h.holds, h.leads, fun next mem => ?_⟩
  rcases List.mem_append.mp mem with old | new
  · exact h.heads next old
  · rw [List.mem_singleton.mp new]
    cases request with
    | activate name | publish event =>
      cases accepted
      trivial
    | sync id' request =>
      simp only [World.accept, Option.ite_none_right_eq_some, Option.some.injEq] at accepted
      rw [← accepted.2]
      exact fun same => apart request (same ▸ rfl)

/-- An activation that subscribes while nobody listens to documents is in front. -/
theorem welcome {collection : CollectionId} {session : SessionId}
    (sound : Sound world calls)
    (alone : ∀ kind ≠ .configurationChanged, world.env.bus.subscribers kind = []) :
    Forefront world.activations.length (world.welcome collection session settings) calls := by
  refine ⟨?_, ?_, fun kind document sub mem => ?_, fun call mem => ?_⟩
  · show _ < (world.activations ++ [_]).length
    rw [List.length_append]
    exact Nat.lt_succ_self _
  · rw [activation_welcome, if_pos rfl]
    exact install_held _ _ _ _ _
  · have bus : (world.welcome collection session settings).env.bus.subscriptions = _ :=
      Activation.install_subscriptions _ _ _ _ _ sound.tidy
    have none := alone kind document
    unfold EventBus.subscribers at none mem
    rw [bus, List.filter_append, none] at mem
    cases kind <;> simp [Subscription.row, EventKind.all] at mem
  · cases call with
    | activate _ _ => trivial
    | sync id' _ => exact Nat.ne_of_lt (sound.orderly.ids_lt _ mem id' List.mem_cons_self)
    | publish stage =>
      cases stage with
      | arriving event => trivial
      | delivering delivery =>
        intro document later
        have lt := sound.orderly.ids_lt _ mem _ (List.mem_append_right _ later)
        exact absurd lt (Nat.lt_irrefl _)

end Forefront

end World
end EngineSync
