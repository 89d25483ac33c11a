import EngineSync.Proofs.WorldSteps

/-!
# The work of an activation

Past its barrier an activation forwards documents and routes changes, and before that it replays the
documents that were open.  All of this is about its own session, gate, diagnostics and lanes
(`World.Works`), whether it goes on or is given up.
-/
namespace EngineSync

/-! ## Ways to a session -/

/-- The environment with what a way to a session has made of it. -/
def Environment.withSync (env : Environment) (sync : Sync) : Environment :=
  { env with engine := sync.engine, journal := sync.journal }

namespace Sync

/-- What a way to a session becomes while it works on its session only. -/
structure Becomes (scope : Scope) (env : Environment) (sync after : Sync) : Prop where
  session : after.session = sync.session
  filter : after.filter = sync.filter
  edits : Environment.Edits scope (env.withSync sync) (env.withSync after)

variable {scope : Scope} {env : Environment} {sync between after : Sync}

theorem Becomes.refl (scope : Scope) (env : Environment) (sync : Sync) :
    Becomes scope env sync sync :=
  ⟨rfl, rfl, .refl⟩

theorem Becomes.trans (h : Becomes scope env sync between) (h' : Becomes scope env between after) :
    Becomes scope env sync after :=
  ⟨h'.session.trans h.session, h'.filter.trans h.filter, Relation.ReflTransGen.trans h.edits h'.edits⟩

theorem becomes_log (sync : Sync) (journal : Journal) :
    Becomes scope env sync (sync.log journal) :=
  ⟨rfl, rfl, .single (.journal (env.withSync sync) _)⟩

theorem becomes_hop {forwarding : Forwarding} {moves : List LaneMove}
    {progress : Progress Forwarding ForwardingResult}
    (names : scope.changes (.session sync.session))
    (hop : Hop sync forwarding moves after progress) : Becomes scope env sync after := by
  cases hop with
  | skip arriving untracked =>
    split
    · exact .refl scope env sync
    · exact becomes_log sync _
  | reach arriving tracked entered => exact ⟨rfl, rfl, .refl⟩
  | refuse queued holds disposed =>
    exact ⟨rfl, rfl, .single (.journal (env.withSync sync) _)⟩
  | issue queued holds open' =>
    have issues := @Environment.Edit.issue scope (env.withSync sync) sync.session
      forwarding.request names
    exact ⟨rfl, rfl, Relation.ReflTransGen.trans (.single issues) (.single (.journal _ _))⟩
  | collect calling collected =>
    obtain ⟨_, -, -, -, -, rfl⟩ := Engine.collect?_eq collected
    refine ⟨rfl, rfl, .single ?_⟩
    exact @Environment.Edit.engine scope (env.withSync sync) _ rfl rfl (List.filter_sublist.map _)

theorem becomes_poll (forwarding : Forwarding) (names : scope.changes (.session sync.session)) :
    Becomes scope env sync (sync.poll forwarding).1 :=
  (sync.poll_hops forwarding).carries (fun after _ => Becomes scope env sync after)
    (fun h hop => h.trans (becomes_hop (by rw [h.session]; exact names) hop)) (.refl scope env sync)

theorem becomes_pollReplay (replay : Replay) (names : scope.changes (.session sync.session)) :
    Becomes scope env sync (sync.pollReplay replay).1 := by
  refine (sync.pollReplay_hops replay).carries (fun after _ => Becomes scope env sync after)
    (fun h hop => h.trans ?_) (.refl scope env sync)
  cases hop with
  | next => exact .refl scope env _
  | go hop => exact becomes_hop (by rw [h.session]; exact names) hop
  | done => exact becomes_log _ _

theorem becomes_pollCall (call : SyncCall) (names : scope.changes (.session sync.session)) :
    Becomes scope env sync (sync.pollCall call).1 := by
  cases call with
  | forward forwarding => exact becomes_poll forwarding names
  | replay replay => exact becomes_pollReplay replay names

theorem becomes_cancel (forwarding : Forwarding) :
    Becomes scope env sync (sync.cancel forwarding) := by
  unfold cancel
  cases forwarding.stage with
  | arriving => exact .refl scope env sync
  | queued lane turn => exact ⟨rfl, rfl, .refl⟩
  | calling lane turn ticket =>
    exact ⟨rfl, rfl, .single (Environment.cancel_edit (env.withSync sync) ticket)⟩

theorem becomes_cancelCall (call : SyncCall) :
    Becomes scope env sync (sync.cancelCall call) := by
  match call with
  | .forward forwarding => exact becomes_cancel forwarding
  | .replay ⟨none, _, _, _⟩ => exact .refl scope env sync
  | .replay ⟨some forwarding, _, _, _⟩ => exact becomes_cancel forwarding

end Sync

/-! ## Changes of the configuration -/

namespace Router
variable {scope : Scope} {env : Environment}

theorem pollApplying_edits (profile : Profile) (ticket : TicketId) :
    Environment.Edits scope env (pollApplying env profile ticket).1 := by
  unfold pollApplying
  cases collected : env.collectProfile? profile ticket with
  | none => exact .refl
  | some outcome => exact Environment.collectProfile?_edits collected

theorem poll_edits (router : Router) (tidy : env.Tidy)
    (session : scope.changes (.session router.session))
    (gate : scope.changes (.gate router.gate)) (call : RouteCall) :
    Environment.Edits scope env (router.poll env call).1 := by
  cases call with
  | applying profile ticket => exact pollApplying_edits profile ticket
  | arriving change =>
    simp only [poll, route]
    split
    · -- the profile as it is now is handed to the engine
      have reads : Environment.Edits scope env
          (env.profile.1.log [.routeProfile ConfigChange.profileKey env.profile.2]) :=
        Environment.Edits.log (Environment.profile_edits env) _
      have applies := Environment.applyProfile_edits
        (env.profile.1.log [.routeProfile ConfigChange.profileKey env.profile.2]) env.profile.2
        session
      unfold routeProfile
      dsimp only
      rcases applied : (env.profile.1.log _).applyProfile router.session env.profile.2 with
        ⟨env', failure | ticket⟩
      · rw [applied] at applies
        exact Relation.ReflTransGen.trans reads applies
      · rw [applied] at applies
        exact Relation.ReflTransGen.trans reads
          (Relation.ReflTransGen.trans applies (pollApplying_edits env.profile.2 ticket))
    · split
      · -- the gate is brought into the state of the toggle
        have reads : Environment.Edits scope env
            (env.formatting.1.log [.routeFormatting ConfigChange.formattingKey env.formatting.2]) :=
          Environment.Edits.log (Environment.formatting_edits env) _
        exact Relation.ReflTransGen.trans reads (Environment.setEnabled_edits env.formatting.2
          (Environment.Edits.tidy reads tidy) gate)
      · exact Environment.log_edits env _

end Router

theorem Router.cancel_edits {scope : Scope} (env : Environment) (call : RouteCall) :
    Environment.Edits scope env (Router.cancel env call) := by
  cases call with
  | arriving change => exact .refl
  | applying profile ticket => exact .single (Environment.cancel_edit env ticket)

/-! ## Work on what is one's own -/

/-- What stays of an activation while it works: everything but its lanes and its barrier. -/
def Activation.core (activation : Activation) : Activation :=
  { activation with lanes := .empty, barrier := .replaying }

/-- What an activation changes while it works. -/
def Activation.work (activation : Activation) : Scope :=
  .changing fun release => release = .session activation.session ∨
    release = .diagnostics activation.collection ∨ release = .gate activation.gate

theorem Activation.work_session (activation : Activation) :
    activation.work.changes (.session activation.session) :=
  .inl (.inl rfl)

theorem Activation.work_diagnostics (activation : Activation) :
    activation.work.changes (.diagnostics activation.collection) :=
  .inl (.inr (.inl rfl))

theorem Activation.work_gate (activation : Activation) :
    activation.work.changes (.gate activation.gate) :=
  .inl (.inr (.inr rfl))

namespace World
variable {world world' : World} {id : ActivationId}

/-- Work of an activation: nothing changes but what is its own, and of the activations only its
lanes. -/
structure Works (id : ActivationId) (world world' : World) : Prop where
  edits : Environment.Edits (world.activation id).work world.env world'.env
  activations : ∃ lanes, world'.activations =
    world.activations.set id { world.activation id with lanes }
  live : world'.live = world.live

theorem activation_eq {activation : Activation} (h : world.activations[id]? = some activation) :
    world.activation id = activation := by
  simp [World.activation, h]

theorem set_activation (world : World) (id : ActivationId) :
    world.activations.set id (world.activation id) = world.activations := by
  by_cases lt : id < world.activations.length
  · rw [World.activation, List.getElem?_eq_getElem lt]
    exact List.set_getElem_self lt
  · exact List.set_eq_of_length_le (Nat.le_of_not_lt lt)

theorem activation_putSync (world : World) (id : ActivationId) (sync : Sync) :
    ((world.putSync id sync).activation id).core = (world.activation id).core := by
  by_cases lt : id < world.activations.length
  · simp [World.activation, putSync, setActivation, lt, Activation.core]
  · simp [World.activation, putSync, setActivation, Nat.le_of_not_lt lt, Activation.core]

theorem works_env {env : Environment}
    (edits : Environment.Edits (world.activation id).work world.env env) :
    Works id world { world with env } :=
  ⟨edits, ⟨_, (set_activation world id).symm⟩, rfl⟩

theorem Works.env (h : Works id world world') {env : Environment}
    (edits : Environment.Edits (world.activation id).work world'.env env) :
    Works id world { world' with env } :=
  ⟨Relation.ReflTransGen.trans h.edits edits, h.activations, h.live⟩

theorem works_putSync {sync : Sync}
    (h : Sync.Becomes (world.activation id).work world.env (world.sync id) sync) :
    Works id world (world.putSync id sync) :=
  ⟨h.edits, ⟨sync.lanes, rfl⟩, rfl⟩

theorem works_forwarding (world : World) (id : ActivationId) (forwarding : Forwarding) :
    Works id world (world.pollForwarding id forwarding).1 := by
  have polled : Works id world (world.putSync id ((world.sync id).poll forwarding).1) :=
    works_putSync (Sync.becomes_poll forwarding (Activation.work_session _))
  have same : ((world.putSync id ((world.sync id).poll forwarding).1).activation id).collection =
      (world.activation id).collection := by
    have cores := congrArg Activation.collection
      (world.activation_putSync id ((world.sync id).poll forwarding).1)
    exact cores
  unfold pollForwarding
  revert polled same
  rcases (world.sync id).poll forwarding with ⟨sync, call | failure | taken⟩ <;> intro polled same
  · exact polled
  · exact polled
  · dsimp only [concludeForwarding] at polled same ⊢
    split
    · refine polled.env (Environment.clearDiagnostics_edits _ _ ?_)
      rw [same]
      exact Activation.work_diagnostics _
    · exact polled

theorem works_routing (tidy : world.env.Tidy) (id : ActivationId) (call : RouteCall) :
    Works id world (world.pollRouting id call).1 :=
  works_env ((world.activation id).router.poll_edits tidy (Activation.work_session _)
    (Activation.work_gate _) call)

theorem works_pollReplay {replay : Replay} {sync : Sync}
    {progress : Progress Replay (Except EngineFailure Nat)}
    (polled : (world.sync id).pollReplay replay = (sync, progress)) :
    Works id world (world.putSync id sync) := by
  have becomes : Sync.Becomes (world.activation id).work world.env (world.sync id)
      ((world.sync id).pollReplay replay).1 :=
    Sync.becomes_pollReplay replay (Activation.work_session _)
  rw [polled] at becomes
  exact works_putSync becomes

theorem works_sync (world : World) (id : ActivationId) (call : SyncCall) :
    Works id world (world.poll (.sync id call)).1 :=
  works_putSync (Sync.becomes_pollCall call (Activation.work_session _))

theorem works_cancelListener (world : World) (id : ActivationId) (stage : ListenerStage) :
    Works id world (world.cancelListener (.activation id stage)) := by
  cases stage with
  | arriving => exact works_env .refl
  | forwarding forwarding => exact works_putSync (Sync.becomes_cancel forwarding)
  | routing call => exact works_env (Router.cancel_edits world.env call)

theorem works_cancelSync (world : World) (id : ActivationId) (call : SyncCall) :
    Works id world (world.cancel (.sync id call)) :=
  works_putSync (Sync.becomes_cancelCall call)

/-- A change that is routed at once is work, whether it has a result or is given up. -/
theorem works_routeNow (tidy : world.env.Tidy) (id : ActivationId) (change : ConfigChange) :
    Works id world (world.routeNow id change).1 := by
  have routes := (world.activation id).router.poll_edits tidy (Activation.work_session _)
    (Activation.work_gate _) (.arriving change)
  unfold routeNow
  revert routes
  rcases (world.activation id).router.poll world.env (.arriving change) with
    ⟨env, call | result⟩ <;> intro routes
  · exact works_env (Relation.ReflTransGen.trans routes (Router.cancel_edits env call))
  · exact works_env routes

end World
end EngineSync
