import EngineSync.Proofs.Accounts
import EngineSync.Proofs.Barriers

/-!
# Formatting follows the settings

The gate of an activation is set to what the toggle says whenever its listener routes a change, and
at no other time but the last.  So a gate that agrees with the toggle goes on to agree with it until
the toggle is flipped, and a publication that names the toggle and reaches the listener makes it
agree again.  An event is not lost on its way: whoever is subscribed when its publication first gets
a chance is called, later or sooner, behind the barrier if need be.
-/
namespace EngineSync

/-- A change of the formatting toggle and of nothing else. -/
def ConfigChange.toggle : ConfigChange :=
  ⟨[formattingKey]⟩

namespace Environment
variable {env : Environment} {router : Router}

theorem formatting_evolves {env' : Environment} (later : env.Evolves env') :
    env'.formatting.2 = env.formatting.2 := by
  unfold formatting
  rw [later.files, later.source]

/-- A gate that is set is as the toggle says. -/
theorem routeFormatting_agrees (lt : router.gate < env.gates.length) :
    ((router.routeFormatting env).1.gate router.gate).isEnabled = env.formatting.2 :=
  setEnabled_isEnabled env.formatting.2 lt

/-- A change leaves gates alone, or its gate is as the toggle says. -/
theorem poll_agrees (lt : router.gate < env.gates.length) (call : RouteCall) :
    (router.poll env call).1.gates = env.gates ∨
      ((router.poll env call).1.gate router.gate).isEnabled = env.formatting.2 := by
  cases call with
  | applying profile ticket => exact .inl (shelf_pollApplying env profile ticket).gates
  | arriving change =>
    simp only [Router.poll, Router.route]
    split
    · exact .inl (shelf_routeProfile router env).gates
    · split
      · exact .inr (routeFormatting_agrees lt)
      · exact .inl rfl

/-- A change of the toggle alone is routed at once. -/
theorem poll_toggle (router : Router) (env : Environment) :
    router.poll env (.arriving .toggle) = ((router.routeFormatting env).1,
      .finished (.ok (some (router.routeFormatting env).2))) := by
  have profile : ConfigChange.toggle.affects ConfigChange.profileKey = false := by decide +kernel
  have formatting : ConfigChange.toggle.affects ConfigChange.formattingKey = true := by
    decide +kernel
  simp only [Router.poll, Router.route, profile, formatting, Bool.false_eq_true, if_false, if_true]

end Environment

namespace World
variable {world world' : World} {call : Call} {calls : List Call} {id id' : ActivationId}
  {notes : List WorldNote} {progress : Progress Call CallResult} {name : String}
  {settings : Settings} {replay : Replay} {total : Nat}

/-- What the toggle says. -/
def toggle (world : World) : Bool :=
  world.env.formatting.2

/-- The gate of an activation is as the toggle says, unless the activation has failed or has come to
its end. -/
def Agrees (id : ActivationId) (world : World) : Prop :=
  (world.activation id).barrier = .abandoned ∨ (world.activation id).owner.held = [] ∨
    (world.env.gate (world.activation id).gate).isEnabled = world.toggle

namespace Agrees

/-- The activation has its gate as it was, and so is the toggle. -/
theorem same (h : Agrees id world)
    (barrier : (world.activation id).barrier = .abandoned →
      (world'.activation id).barrier = .abandoned)
    (owner : (world'.activation id).owner = (world.activation id).owner)
    (gate : world'.env.gate (world'.activation id).gate = world.env.gate (world.activation id).gate)
    (toggle : world'.toggle = world.toggle) : Agrees id world' := by
  rcases h with abandoned | gone | agrees
  · exact .inl (barrier abandoned)
  · exact .inr (.inl (owner ▸ gone))
  · rw [← gate, ← toggle] at agrees
    exact .inr (.inr agrees)

theorem leaves (h : Agrees id world) (leaves : Leaves id world world')
    (toggle : world'.toggle = world.toggle) : Agrees id world' := by
  have own := leaves.activation
  refine h.same (fun abandoned => own ▸ abandoned) (by rw [own]) ?_ toggle
  rw [own]
  simp only [Environment.gate, Environment.formattingGate, leaves.spares.gate]

/-- Work that leaves gates alone. -/
theorem works (h : Agrees id world) (works : Works id' world world')
    (gates : world'.env.gates = world.env.gates) : Agrees id world' := by
  have own := lasting_belongings.works works id
  simp only [Activation.belongings, Prod.mk.injEq] at own
  refine h.same (fun abandoned => (works.calm.barrier id).trans abandoned) (works.calm.owner id) ?_
    (Environment.formatting_evolves (Environment.Edits.evolves works.edits))
  rw [own.2.2.1]
  exact Environment.gate_of_gates gates _

/-- Some activation comes to its end. -/
theorem teardown (h : Agrees id world) (sound : Sound world calls)
    (lt : id < world.activations.length) (lt' : id' < world.activations.length) :
    Agrees id (world.teardown id').1 := by
  by_cases here : id' = id
  · subst here
    have own : (world.teardown id').1.activation id' =
        { world.activation id' with owner := .empty } :=
      (activation_setActivation _ id' id' _).trans (if_pos ⟨rfl, lt⟩)
    exact .inr (.inl (by rw [own]; rfl))
  · have left : Leaves id world (world.teardown id').1 :=
      sound.leaves_teardown lt lt' here fun _ => Iff.rfl
    have edits : Environment.Edits (.sessions fun _ => True) world.env
        (world.teardown id').1.env := sound.sessions_teardown lt' trivial
    exact h.leaves left (Environment.formatting_evolves (Environment.Edits.evolves edits))

theorem drop (h : Agrees id world) (sound : Sound world calls)
    (lt : id < world.activations.length) (name : String) : Agrees id (world.drop name) := by
  unfold World.drop
  cases found : world.live? name with
  | none => exact h
  | some id' => exact h.teardown sound lt (sound.live_lt found)

theorem deactivate (h : Agrees id world) (sound : Sound world calls)
    (lt : id < world.activations.length) (name : String) : Agrees id (world.deactivate name) := by
  unfold World.deactivate
  cases found : world.live? name with
  | none => exact h
  | some id' => exact h.teardown sound lt (sound.live_lt found)

/-- A listener of the activation itself routes a change. -/
theorem routes (h : Agrees id world) (sound : Sound world calls)
    (lt : id < world.activations.length) (lt' : id' < world.activations.length) (call : RouteCall) :
    Agrees id { world with env := ((world.activation id').router.poll world.env call).1 } := by
  have works : Works id' world
      { world with env := ((world.activation id').router.poll world.env call).1 } :=
    works_routing sound.tidy id' call
  by_cases here : id' = id
  · subst here
    rcases @Environment.poll_agrees world.env (world.activation id').router
      (sound.within lt).gate call with gates | agrees
    · exact h.works works gates
    · refine .inr (.inr (agrees.trans ?_))
      exact (Environment.formatting_evolves (Environment.Edits.evolves works.edits)).symm
  · exact h.leaves (sound.leaves_works lt lt' here works)
      (Environment.formatting_evolves (Environment.Edits.evolves works.edits))

theorem abandon (h : Agrees id world)
    (sound : Sound world (.activate name (.replaying id' settings replay) :: calls))
    (lt : id < world.activations.length) : Agrees id (world.abandon id') := by
  by_cases here : id' = id
  · subst here
    exact .inl (Sound.barrier_abandon lt)
  · have edits : Environment.Edits (.sessions fun _ => True) world.env (world.abandon id').env :=
      sound.sessions_abandon trivial
    exact h.leaves (sound.leaves_abandon lt here)
      (Environment.formatting_evolves (Environment.Edits.evolves edits))

theorem finishActivate (h : Agrees id world)
    (sound : Sound world (.activate name (.replaying id' settings replay) :: calls))
    (lt : id < world.activations.length) : Agrees id (world.finishActivate name id' settings total) := by
  have ready : Agrees id (world.readied id' settings total) := by
    by_cases here : id' = id
    · subst here
      have own := Sound.activation_readied lt settings total
      have waiting := (sound.orderly.replaying id' List.mem_cons_self).1
      refine h.same (fun abandoned => ?_) (by rw [own]) (by rw [own]; rfl) rfl
      rw [waiting] at abandoned
      cases abandoned
    · have left : Leaves id world (world.setBarrier id' .open) :=
        Sound.leaves_setBarrier world here .open
      have opened : Agrees id (world.setBarrier id' .open) := h.leaves left rfl
      exact opened
  refine ready.drop (sound.readied total) ?_ name
  exact Sound.length_setBarrier world id' .open ▸ lt

/-- A step that is about some newcomer. -/
theorem bystands (h : Agrees id world) (sound : Sound world (call :: calls))
    (lt : id < world.activations.length) (hop : Hop world call notes world' progress)
    (idle : call.worksFor? ≠ some id) (still : call.replaying? ≠ some id)
    (ends : progress ≠ .finished .active) : Agrees id world' :=
  h.leaves (sound.leaves_hop lt idle still (fun _ _ _ same => absurd same ends) hop)
    (Environment.formatting_evolves (Environment.Edits.evolves (sound.sessions_hop hop)))

/-- **A step keeps a gate as the toggle says.** -/
theorem hop (h : Agrees id world) (sound : Sound world (call :: calls))
    (lt : id < world.activations.length) (hop : Hop world call notes world' progress) :
    Agrees id world' := by
  cases hop with
  | refused opened => exact h.bystands sound lt (.refused opened) nofun nofun nofun
  | began opened applied => exact h.bystands sound lt (.began opened applied) nofun nofun nofun
  | rejected collected => exact h.bystands sound lt (.rejected collected) nofun nofun nofun
  | subscribed collected => exact h.bystands sound lt (.subscribed collected) nofun nofun nofun
  | replay polled => exact h.works (works_pollReplay polled) rfl
  | ready polled =>
    have works := works_pollReplay polled
    have worked := sound.works (sound.lt_of_ids List.mem_cons_self) works
    exact (h.works works rfl).finishActivate worked (works.calm.length ▸ lt)
  | failed polled =>
    have works := works_pollReplay polled
    have worked := sound.works (sound.lt_of_ids List.mem_cons_self) works
    exact (h.works works rfl).abandon worked (works.calm.length ▸ lt)
  | publish event => exact h
  | call event next waiting =>
    unfold startListener
    cases next.listener <;> exact h
  | finish event => exact h
  | sync id' call => exact h.works (works_sync world id' call) rfl
  | listen hop =>
    cases hop with
    | pass | take | answered => exact h
    | forward id' forwarding =>
      exact h.works (works_forwarding world id' forwarding) (shelf_forwarding world id' forwarding).gates
    | route id' route => exact h.routes sound lt (sound.lt_of_ids List.mem_cons_self) route

theorem cancel (h : Agrees id world) (sound : Sound world (call :: calls))
    (lt : id < world.activations.length) : Agrees id (world.cancel call) := by
  match call with
  | .activate name .arriving | .activate name (.configuring collection session settings ticket)
  | .publish (.arriving event) | .publish (.delivering ⟨event, none, waiting⟩)
  | .publish (.delivering ⟨event, some (.outside number), waiting⟩)
  | .publish (.delivering ⟨event, some (.activation id' .arriving), waiting⟩) => exact h
  | .activate name (.replaying id' settings replay) =>
    have works := works_cancelSync world id' (.replay replay)
    have worked := sound.works (sound.lt_of_ids List.mem_cons_self) works
    exact (h.works works rfl).abandon worked (works.calm.length ▸ lt)
  | .publish (.delivering ⟨event, some (.activation id' (.forwarding forwarding)), waiting⟩) =>
    exact h.works (works_cancelListener world id' (.forwarding forwarding)) rfl
  | .publish (.delivering ⟨event, some (.activation id' (.routing route)), waiting⟩) =>
    exact h.works (works_cancelListener world id' (.routing route))
      (Environment.shelf_cancelRoute world.env route).gates
  | .sync id' call => exact h.works (works_cancelSync world id' call) rfl

/-- A move keeps a gate as the toggle says, unless it flips the toggle. -/
theorem surround (h : Agrees id world) (sound : Sound world calls)
    (lt : id < world.activations.length) (move : WorldMove)
    (still : (world.surround move).toggle = world.toggle) : Agrees id (world.surround move) := by
  cases move with
  | release | grant | refuse | documents | listen | answer => exact h
  | files | source => exact h.same (fun abandoned => abandoned) rfl rfl still
  | report uri version diagnostics =>
    refine h.same (fun abandoned => abandoned) rfl ?_ still
    exact (Environment.shelf_publishDiagnostics world.env uri version diagnostics).gate _
  | unlisten number =>
    simp only [World.surround]
    split <;> exact h
  | deactivate name => exact h.deactivate sound lt name
  | drop name => exact h.drop sound lt name
  | disposeSession name =>
    simp only [World.surround]
    cases found : world.live? name with
    | none => exact h
    | some id' => exact h.same (fun abandoned => abandoned) rfl rfl rfl
  | route name change =>
    simp only [World.surround]
    cases found : world.live? name with
    | none => exact h
    | some id' =>
      have routed := h.routes sound lt (sound.live_lt found) (.arriving change)
      simp only [routeNow]
      revert routed
      rcases (world.activation id').router.poll world.env (.arriving change) with
        ⟨env, route | result⟩ <;> intro routed
      · refine routed.same (fun abandoned => abandoned) rfl ?_ ?_
        · exact (Environment.shelf_cancelRoute env route).gate _
        · cases route <;> rfl
      · exact routed

end Agrees

/-! ## A change on its way -/

/-- A call brings a change of the toggle to the listener of an activation: it has not set out yet,
or the listener is still to be called, or it was called and has not looked at the change. -/
def Brings (id : ActivationId) : Call → Prop
  | .publish (.arriving event) => event = .configuration .toggle
  | .publish (.delivering ⟨event, current, waiting⟩) => event = .configuration .toggle ∧
    (id ∈ audience waiting ∨ current = some (.activation id .arriving) ∨
      current = some (.activation id (.routing (.arriving .toggle))))
  | _ => False

/-- What becomes of a call that brings a change: the gate is as the toggle says, or the call goes on
to bring it, or it fails. -/
def Brought (id : ActivationId) (world : World) (progress : Progress Call CallResult) : Prop :=
  Agrees id world ∨ progress ≠ .finished .delivered ∧ ∀ next ∈ progress.rest, Brings id next

/-- Somebody before the activation has been called. -/
theorem brought_behind {event : Event} {waiting : List (Subscription Listener)}
    (change : event = .configuration .toggle) (behind : id ∈ audience waiting)
    (outcome : Progress ListenerCall (Except EngineFailure Unit)) :
    Brought id world (delivered event waiting outcome) := by
  rcases outcome with listener | failure | ⟨⟩
  · exact .inr ⟨nofun, fun next mem => List.mem_singleton.mp mem ▸ ⟨change, .inl behind⟩⟩
  · exact .inr ⟨nofun, List.forall_mem_nil _⟩
  · exact .inr ⟨nofun, fun next mem => List.mem_singleton.mp mem ▸ ⟨change, .inl behind⟩⟩

theorem brought_listener {event : Event} {listener : ListenerCall}
    {waiting : List (Subscription Listener)}
    {outcome : Progress ListenerCall (Except EngineFailure Unit)}
    (sound : Sound world (.publish (.delivering ⟨event, some listener, waiting⟩) :: calls))
    (lt : id < world.activations.length)
    (brings : Brings id (.publish (.delivering ⟨event, some listener, waiting⟩)))
    (hop : ListenerHop event world listener notes world' outcome) :
    Brought id world' (delivered event waiting outcome) := by
  obtain ⟨change, behind | called | looks⟩ := brings
  · exact brought_behind change behind outcome
  · -- its listener waits at the barrier
    cases called
    cases hop with
    | pass abandoned => exact .inl (.inl abandoned)
    | take released =>
      subst change
      exact .inr ⟨nofun, fun next mem => List.mem_singleton.mp mem ▸ ⟨rfl, .inr (.inr rfl)⟩⟩
  · cases looks
    cases hop with
    | route id call =>
      have works : Works id world (world.pollRouting id (.arriving .toggle)).1 :=
        works_routing sound.tidy id _
      have toggle : (world.pollRouting id (.arriving .toggle)).1.toggle = world.toggle :=
        Environment.formatting_evolves (Environment.Edits.evolves works.edits)
      refine .inl (.inr (.inr ?_))
      rw [toggle]
      simp only [pollRouting, Environment.poll_toggle]
      exact Environment.routeFormatting_agrees (sound.within lt).gate

theorem brought_hop {base : List ProviderKind} (sound : Sound world (call :: calls))
    (square : world.Square base) (lt : id < world.activations.length) (brings : Brings id call)
    (hop : Hop world call notes world' progress) : Brought id world' progress := by
  cases hop with
  | publish event =>
    by_cases holds : (world.activation id).owner.held = []
    · exact .inl (.inr (.inl holds))
    · cases brings
      exact .inr ⟨nofun, fun next mem =>
        List.mem_singleton.mp mem ▸ ⟨rfl, .inl (square.audience lt holds .configurationChanged)⟩⟩
  | call event next waiting =>
    obtain ⟨change, behind | no | no⟩ := brings
    · refine .inr ⟨nofun, fun next' mem => List.mem_singleton.mp mem ▸ ⟨change, ?_⟩⟩
      obtain ⟨sub, hs, same⟩ := List.mem_filterMap.mp behind
      rcases List.mem_cons.mp hs with rfl | later
      · -- it is the one that is called now
        have own : sub.listener = .activation id := by
          cases listener : sub.listener <;> simp_all [Listener.activation?]
        rw [own]
        exact .inr (.inl rfl)
      · exact .inl (List.mem_filterMap.mpr ⟨sub, later, same⟩)
    · cases no
    · cases no
  | listen hop => exact brought_listener sound lt brings hop
  | finish event =>
    obtain ⟨-, no | no | no⟩ := brings
    · cases no
    · cases no
    · cases no
  | refused | began | rejected | subscribed | replay | ready | failed | sync => exact brings.elim

theorem agrees_chain {progress : Progress Call CallResult}
    (chain : Chain Hop world call notes world' progress) (sound : Sound world (call :: calls))
    (lt : id < world.activations.length) (agrees : Agrees id world) : Agrees id world' := by
  have kept := chain.carries
    (fun world rest => Sound world (rest ++ calls) ∧ id < world.activations.length ∧ Agrees id world)
    (fun {_ _ _ _ _} h hop => ⟨h.1.hop hop, Nat.lt_of_lt_of_le h.2.1 (h.1.length_hop hop),
      h.2.2.hop h.1 h.2.1 hop⟩) ⟨sound, lt, agrees⟩
  exact kept.2.2

/-- A chance takes a change further, or the gate is as the toggle says. -/
theorem brought_chain {base : List ProviderKind}
    (chain : Chain Hop world call notes world' progress) (sound : Sound world (call :: calls))
    (square : world.Square base) (lt : id < world.activations.length) (brings : Brings id call) :
    Brought id world' progress := by
  induction chain with
  | rest => exact .inr ⟨nofun, fun next mem => List.mem_singleton.mp mem ▸ brings⟩
  | finish hop => exact brought_hop sound square lt brings hop
  | step hop more ih =>
    have there := Nat.lt_of_lt_of_le lt (sound.length_hop hop)
    rcases brought_hop sound square lt brings hop with agrees | ⟨-, goes⟩
    · exact .inl (agrees_chain more (sound.hop hop) there agrees)
    · exact ih (sound.hop hop) (square.hop sound hop) there (goes _ List.mem_cons_self)

/-! ## Actions -/

variable {work : Work World Call CallResult} {number : Nat} {base : List ProviderKind}
  {results : List (Nat × CallResult)}

/-- An action that does not flip the toggle keeps a gate as the toggle says. -/
theorem agrees_perform (sound : Sound work.state work.calls)
    (lt : id < work.state.activations.length) (agrees : Agrees id work.state)
    {action : Action WorldRequest WorldMove}
    (still : (World.machine.perform work action).state.toggle = work.state.toggle) :
    Agrees id (World.machine.perform work action).state := by
  cases action with
  | start request =>
    simp only [Machine.perform]
    cases World.machine.accept work.state request <;> exact agrees
  | poll place =>
    cases at_place : work.jobs[place]? with
    | none =>
      rw [Machine.perform_poll_none at_place]
      exact agrees
    | some job =>
      obtain ⟨before, after, split, rfl⟩ := Machine.split_at_place at_place
      rw [Machine.state_poll split]
      exact agrees_chain (poll_hops sound.tidy job.call) (Sound.tells.keeps.at_place sound split) lt
        agrees
  | cancel place =>
    cases at_place : work.jobs[place]? with
    | none =>
      rw [Machine.perform_cancel_none at_place]
      exact agrees
    | some job =>
      obtain ⟨before, after, split, rfl⟩ := Machine.split_at_place at_place
      rw [Machine.perform_cancel split]
      exact agrees.cancel (Sound.tells.keeps.at_place sound split) lt
  | move move => exact agrees.surround sound lt move still

/-- The call of a number brings a change, as long as it is under way and until the gate is as the
toggle says. -/
def Underway (id : ActivationId) (number : Nat) (work : Work World Call CallResult) : Prop :=
  Agrees id work.state ∨
    (number, .delivered) ∉ work.results ∧ ∀ call ∈ work.call? number, Brings id call

theorem underway_poll (sound : Sound work.state work.calls) (square : work.state.Square base)
    (numbered : work.Numbered) (lt : id < work.state.activations.length)
    (unanswered : (number, .delivered) ∉ work.results)
    (brings : ∀ call ∈ work.call? number, Brings id call) {before after : List (Job Call)}
    {job : Job Call} (split : work.jobs = before ++ job :: after) :
    Underway id number (World.machine.perform work (.poll before.length)) := by
  have first := Sound.tells.keeps.at_place sound split
  by_cases same : job.number = number
  · subst same
    have brought : Brought id (World.machine.poll work.state job.call).1
        (World.machine.poll work.state job.call).2 :=
      brought_chain (poll_hops sound.tidy job.call) first square lt
        (brings job.call (numbered.call?_eq split))
    rw [Underway, Machine.state_poll split, Machine.call?_poll_own numbered split]
    refine brought.imp (fun agrees => agrees) fun ⟨fails, goes⟩ => ⟨fun mem => ?_, fun call mem =>
      goes call (Progress.mem_rest_head?.mp mem)⟩
    rcases Machine.mem_results_poll split mem with old | ⟨result, finished, here⟩
    · exact unanswered old
    · cases here
      exact fails finished
  · refine .inr ⟨fun mem => ?_, ?_⟩
    · rcases Machine.mem_results_poll split mem with old | ⟨result, -, here⟩
      · exact unanswered old
      · cases here
        exact same rfl
    · rw [Machine.call?_poll_other split same]
      exact brings

theorem underway_perform (sound : Sound work.state work.calls) (square : work.state.Square base)
    (numbered : work.Numbered) (lt : id < work.state.activations.length)
    (given : number < work.started) (h : Underway id number work)
    {action : Action WorldRequest WorldMove}
    (still : (World.machine.perform work action).state.toggle = work.state.toggle) :
    Underway id number (World.machine.perform work action) := by
  rcases h with agrees | ⟨unanswered, brings⟩
  · exact .inl (agrees_perform sound lt agrees still)
  cases action with
  | start request =>
    refine .inr ⟨?_, ?_⟩
    · simp only [Machine.perform]
      cases World.machine.accept work.state request <;> exact unanswered
    · rw [Machine.call?_start given]
      exact brings
  | poll place =>
    cases at_place : work.jobs[place]? with
    | none =>
      rw [Machine.perform_poll_none at_place]
      exact .inr ⟨unanswered, brings⟩
    | some job =>
      obtain ⟨before, after, split, rfl⟩ := Machine.split_at_place at_place
      exact underway_poll sound square numbered lt unanswered brings split
  | cancel place =>
    cases at_place : work.jobs[place]? with
    | none =>
      rw [Machine.perform_cancel_none at_place]
      exact .inr ⟨unanswered, brings⟩
    | some job =>
      obtain ⟨before, after, split, rfl⟩ := Machine.split_at_place at_place
      refine .inr ⟨?_, fun call mem => ?_⟩
      · rw [Machine.perform_cancel split]
        exact unanswered
      · by_cases same : job.number = number
        · subst same
          rw [Machine.call?_cancel_own numbered split] at mem
          cases mem
        · rw [Machine.call?_cancel_other split same] at mem
          exact brings call mem
  | move move => exact .inr ⟨unanswered, brings⟩

/-- A publication that names the toggle is still to be started, and it will be delivered. -/
def Owed (results : List (Nat × CallResult)) (work : Work World Call CallResult)
    (rest : List (Action WorldRequest WorldMove)) : Prop :=
  ∃ between later, rest = between ++ .start (.publish (.configuration .toggle)) :: later ∧
    ((World.machine.run work between).started, .delivered) ∈ results

/-- Whenever the toggle is flipped, a publication that names it is started later, and it is
delivered. -/
def Announced (results : List (Nat × CallResult)) (work : Work World Call CallResult) :
    List (Action WorldRequest WorldMove) → Prop
  | [] => True
  | action :: rest =>
    ((World.machine.perform work action).state.toggle ≠ work.state.toggle →
      Owed results (World.machine.perform work action) rest) ∧
    Announced results (World.machine.perform work action) rest

/-- The gate is as the toggle says, or it will be once some publication is delivered. -/
def Promised (results : List (Nat × CallResult)) (id : ActivationId)
    (work : Work World Call CallResult) (rest : List (Action WorldRequest WorldMove)) : Prop :=
  Agrees id work.state ∨ Owed results work rest ∨
    ∃ number < work.started, (number, .delivered) ∈ results ∧ Underway id number work

theorem promised_perform (sound : Sound work.state work.calls) (square : work.state.Square base)
    (numbered : work.Numbered) (answered : ∀ entry ∈ work.results, entry.1 < work.started)
    (lt : id < work.state.activations.length) {action : Action WorldRequest WorldMove}
    {rest : List (Action WorldRequest WorldMove)} (h : Promised results id work (action :: rest))
    (announced : (World.machine.perform work action).state.toggle ≠ work.state.toggle →
      Owed results (World.machine.perform work action) rest) :
    Promised results id (World.machine.perform work action) rest := by
  by_cases still : (World.machine.perform work action).state.toggle = work.state.toggle
  · rcases h with agrees | ⟨between, later, split, delivered⟩ | ⟨number, given, delivered, under⟩
    · exact .inl (agrees_perform sound lt agrees still)
    · cases between with
      | nil =>
        -- the publication is started now
        cases split
        refine .inr (.inr ⟨work.started, Nat.lt_succ_self _, delivered, .inr ⟨fun mem => ?_, ?_⟩⟩)
        · exact absurd (answered _ mem) (Nat.lt_irrefl _)
        · intro call found
          have there : (World.machine.perform work (.start (.publish (.configuration .toggle)))).call?
              work.started = some (.publish (.arriving (.configuration .toggle))) :=
            Machine.call?_start_own numbered rfl
          cases there.symm.trans found
          rfl
      | cons next between =>
        cases split
        exact .inr (.inl ⟨between, later, rfl, delivered⟩)
    · exact .inr (.inr ⟨number, Nat.lt_of_lt_of_le given (Machine.started_le work action), delivered,
        underway_perform sound square numbered lt given under still⟩)
  · exact .inr (.inl (announced still))

theorem agrees_of_promised (h : Promised work.results id work []) : Agrees id work.state := by
  rcases h with agrees | ⟨between, later, split, -⟩ | ⟨number, -, delivered, agrees | ⟨no, -⟩⟩
  · exact agrees
  · cases between <;> cases split
  · exact agrees
  · exact absurd delivered no

/-! ## A newcomer -/

/-- A call whose first profile is with the engine has taken its snapshot while the toggle was as it
is now, if it is the call of a certain session. -/
def Fits (session : SessionId) (world : World) : Call → Prop
  | .activate _ (.configuring _ session' settings _) =>
    session' = session → settings.formatting = world.toggle
  | _ => True

instance (session : SessionId) (world : World) : (call : Call) → Decidable (Fits session world call)
  | .activate _ (.configuring _ session' settings _) =>
    inferInstanceAs (Decidable (session' = session → settings.formatting = world.toggle))
  | .activate _ .arriving | .activate _ (.replaying ..) | .publish _ | .sync _ _ => .isTrue trivial

/-- When an activation comes, the toggle is as the snapshot for its session says; before that it may
be flipped and flipped back. -/
def UpToDate (id : ActivationId) (session : SessionId) (work : Work World Call CallResult) :
    List (Action WorldRequest WorldMove) → Prop
  | [] => True
  | action :: rest =>
    (work.state.activations.length ≤ id →
      id < (World.machine.perform work action).state.activations.length →
        ∀ call ∈ work.calls, Fits session work.state call) ∧
    UpToDate id session (World.machine.perform work action) rest

instance decidableUpToDate (id : ActivationId) (session : SessionId)
    (work : Work World Call CallResult) :
    (rest : List (Action WorldRequest WorldMove)) → Decidable (UpToDate id session work rest)
  | [] => .isTrue trivial
  | action :: rest =>
    have := decidableUpToDate id session (World.machine.perform work action) rest
    inferInstanceAs (Decidable ((work.state.activations.length ≤ id →
      id < (World.machine.perform work action).state.activations.length →
        ∀ call ∈ work.calls, Fits session work.state call) ∧
      UpToDate id session (World.machine.perform work action) rest))

/-- An activation that has some session is still to come, or its gate is as the toggle says. -/
def Comes (session : SessionId) (id : ActivationId) (world : World) (rest : List Call) : Prop :=
  (world.activations.length ≤ id ∧ ∀ call ∈ rest, Fits session world call) ∨
    id < world.activations.length ∧ ((world.activation id).session = session → Agrees id world)

variable {session : SessionId}

/-- The newcomer of a step has its gate as its snapshot said. -/
theorem comes_subscribed {collection : CollectionId} {session' : SessionId} {ticket : TicketId}
    {env : Environment} (sound : Sound world calls)
    (unborn : world.activations.length ≤ id)
    (fits : Fits session world (.activate name (.configuring collection session' settings ticket)))
    (collected : world.env.collectProfile? settings.profile ticket = some (env, .ok ())) :
    Comes session id (World.welcome { world with env } collection session' settings)
      [.activate name (.replaying world.activations.length settings
        (.start world.env.openDocuments))] := by
  have length : (World.welcome { world with env } collection session' settings).activations.length =
      world.activations.length + 1 := List.length_append
  rcases Nat.eq_or_lt_of_le unborn with here | later
  · have lt : id < world.activations.length + 1 := Nat.lt_succ_of_le (Nat.le_of_eq here.symm)
    refine .inr ⟨length ▸ lt, fun own => .inr (.inr ?_)⟩
    have newcomer := activation_welcome { world with env } collection session' settings id
    rw [if_pos here.symm] at newcomer
    rw [newcomer] at own ⊢
    have same : session' = session := own
    subst same
    have collects : Environment.Edits .plain world.env env :=
      Environment.collectProfile?_edits collected
    have installs := Activation.install_edits world.language world.activations.length session'
      collection settings.formatting (Environment.Edits.tidy collects sound.tidy)
    have toggle := Environment.formatting_evolves
      ((Environment.Edits.evolves collects).trans (Environment.Edits.evolves installs))
    refine (Activation.install_enabled _ _ _ _ _).trans ?_
    exact (fits rfl).trans toggle.symm
  · refine .inl ⟨length ▸ later, fun call mem => ?_⟩
    rw [List.mem_singleton.mp mem]
    trivial

/-- A publication stays one. -/
theorem publish_rest {stage : PublishStage} (hop : Hop world (.publish stage) notes world' progress) :
    ∀ next ∈ progress.rest, ∃ stage', next = .publish stage' := by
  intro next mem
  cases hop with
  | publish | call => exact ⟨_, List.mem_singleton.mp mem⟩
  | @listen event listener waiting _ _ outcome hop =>
    rcases outcome with listener' | failure | ⟨⟩
    · exact ⟨_, List.mem_singleton.mp mem⟩
    · cases mem
    · exact ⟨_, List.mem_singleton.mp mem⟩
  | finish => cases mem

theorem comes_hop (sound : Sound world (call :: calls)) (comes : Comes session id world [call])
    (hop : Hop world call notes world' progress) : Comes session id world' progress.rest := by
  rcases comes with ⟨unborn, fits⟩ | ⟨lt, agrees⟩
  · cases hop with
    | refused | rejected | finish => exact .inl ⟨unborn, List.forall_mem_nil _⟩
    | publish => exact .inl ⟨unborn, fun call mem => List.mem_singleton.mp mem ▸ trivial⟩
    | began opened applied =>
      refine .inl ⟨unborn, fun call mem => ?_⟩
      have later := Environment.formatting_evolves
        (Environment.Edits.evolves (began_edits opened applied))
      rw [List.mem_singleton.mp mem]
      exact fun _ => later.symm
    | subscribed collected =>
      exact comes_subscribed sound unborn (fits _ List.mem_cons_self) collected
    | replay polled =>
      refine .inl ⟨?_, fun call mem => List.mem_singleton.mp mem ▸ trivial⟩
      exact (works_pollReplay polled).calm.length ▸ unborn
    | ready polled =>
      refine .inl ⟨?_, List.forall_mem_nil _⟩
      rw [Sound.length_finishActivate]
      exact (works_pollReplay polled).calm.length ▸ unborn
    | failed polled =>
      refine .inl ⟨?_, List.forall_mem_nil _⟩
      rw [Sound.length_abandon]
      exact (works_pollReplay polled).calm.length ▸ unborn
    | call event next waiting =>
      refine .inl ⟨?_, fun call mem => List.mem_singleton.mp mem ▸ trivial⟩
      unfold startListener
      cases next.listener <;> exact unborn
    | @listen event listener waiting _ _ outcome hop =>
      have publishes := publish_rest (@Hop.listen _ _ _ waiting _ _ _ hop)
      refine .inl ⟨?_, fun next mem => ?_⟩
      · cases hop with
        | pass | take | answered => exact unborn
        | forward id' forwarding => exact (works_forwarding world id' forwarding).calm.length ▸ unborn
        | route id' route => exact (works_routing sound.tidy id' route).calm.length ▸ unborn
      · obtain ⟨stage, rfl⟩ := publishes next mem
        trivial
    | sync id' call =>
      refine .inl ⟨(works_sync world id' call).calm.length ▸ unborn, fun next mem => ?_⟩
      rw [World.poll, Progress.rest_map] at mem
      obtain ⟨call', -, rfl⟩ := List.mem_map.mp mem
      trivial
  · have there := Nat.lt_of_lt_of_le lt (sound.length_hop hop)
    have same := lasting_belongings.hop sound lt (.inr fun _ _ => rfl) hop
    simp only [Activation.belongings, Prod.mk.injEq] at same
    exact .inr ⟨there, fun own => (agrees (same.1.symm.trans own)).hop sound lt hop⟩

/-- The action that an activation comes with leaves its gate as the toggle says. -/
theorem born_perform (sound : Sound work.state work.calls)
    (unborn : work.state.activations.length ≤ id)
    (fits : ∀ call ∈ work.calls, Fits session work.state call)
    {action : Action WorldRequest WorldMove}
    (born : id < (World.machine.perform work action).state.activations.length)
    (own : ((World.machine.perform work action).state.activation id).session = session) :
    Agrees id (World.machine.perform work action).state := by
  have absent {state : World} (same : state.activations.length = work.state.activations.length)
      (lt : id < state.activations.length) : False :=
    Nat.not_lt_of_le unborn (same ▸ lt)
  cases action with
  | start request =>
    simp only [Machine.perform] at born
    cases accepted : World.machine.accept work.state request <;> rw [accepted] at born <;>
      exact (absent rfl born).elim
  | poll place =>
    cases at_place : work.jobs[place]? with
    | none =>
      rw [Machine.perform_poll_none at_place] at born
      exact (absent rfl born).elim
    | some job =>
      obtain ⟨before, after, split, rfl⟩ := Machine.split_at_place at_place
      have mem : job.call ∈ work.calls :=
        List.mem_map_of_mem (split ▸ List.mem_append_right before List.mem_cons_self)
      have first := Sound.tells.keeps.at_place sound split
      obtain ⟨-, comes⟩ := (poll_hops sound.tidy job.call).carries
        (fun world rest => Sound world (rest ++ (before ++ after).map (·.call)) ∧
          Comes session id world rest)
        (fun {_ _ _ _ _} h hop => ⟨h.1.hop hop, comes_hop h.1 h.2 hop⟩)
        ⟨first, .inl ⟨unborn, fun call hc => List.mem_singleton.mp hc ▸ fits _ mem⟩⟩
      rw [Machine.state_poll split] at born own ⊢
      rcases comes with ⟨still, -⟩ | ⟨-, agrees⟩
      · exact absurd born (Nat.not_lt_of_le still)
      · exact agrees own
  | cancel place =>
    cases at_place : work.jobs[place]? with
    | none =>
      rw [Machine.perform_cancel_none at_place] at born
      exact (absent rfl born).elim
    | some job =>
      obtain ⟨before, after, split, rfl⟩ := Machine.split_at_place at_place
      rw [Machine.perform_cancel split] at born
      exact (absent (Sound.length_cancel work.state job.call) born).elim
  | move move => exact (absent (sound.length_surround move) born).elim

/-- **A gate is as the toggle says** at the end of every run in which flips are announced. -/
theorem agrees_run (sound : Sound work.state work.calls) (square : work.state.Square base)
    (numbered : work.Numbered) (answered : ∀ entry ∈ work.results, entry.1 < work.started)
    {rest : List (Action WorldRequest WorldMove)}
    (announced : Announced (World.machine.run work rest).results work rest)
    (current : UpToDate id session work rest)
    (state : work.state.activations.length ≤ id ∨ id < work.state.activations.length ∧
      Promised (World.machine.run work rest).results id work rest)
    (there : id < (World.machine.run work rest).state.activations.length)
    (own : ((World.machine.run work rest).state.activation id).session = session) :
    Agrees id (World.machine.run work rest).state := by
  induction rest generalizing work with
  | nil =>
    rcases state with unborn | ⟨-, promised⟩
    · exact absurd there (Nat.not_lt_of_le unborn)
    · exact agrees_of_promised promised
  | cons action rest ih =>
    obtain ⟨sound', square'⟩ := (Square.tells base).keeps.perform ⟨sound, square⟩ action
    refine ih sound' square' (Machine.numbered_perform numbered action)
      (Machine.results_lt_perform numbered answered action) announced.2 current.2 ?_ there own
    rcases state with unborn | ⟨lt, promised⟩
    · by_cases born : id < (World.machine.perform work action).state.activations.length
      · have same := (belongings_run sound' born rest).2
        simp only [Activation.belongings, Prod.mk.injEq] at same
        have fits := current.1 unborn born
        exact .inr ⟨born, .inl (born_perform sound unborn fits born (same.1.symm.trans own))⟩
      · exact .inl (Nat.le_of_not_lt born)
    · have belongs := belongings_tells id (work.state.activation id).belongings
      have kept := belongs.keeps.perform ⟨sound, lt, rfl⟩ action
      exact .inr ⟨kept.2.1,
        promised_perform sound square numbered answered lt promised announced.1⟩

end World

/-- **Formatting follows the settings.**  Whatever is asked for, published, answered, refused or
given up in any order: if every flip of the toggle is followed by a publication that names it and is
delivered, and the toggle is as the snapshot of an activation says when the activation subscribes,
then the gate of the activation is open just if the toggle says so whenever it is live, and its
formatting providers are live just then. -/
theorem formatting_follows (outset : Outset) (ledger : Ledger)
    (actions : List (Action WorldRequest WorldMove)) (name : String) (id : ActivationId) :
    let start := outset.host ledger
    let work := World.machine.run start actions
    let activation := work.state.activation id
    work.state.live? name = some id →
    World.Announced work.results start actions →
    World.UpToDate id activation.session start actions →
      (work.state.env.gate activation.gate).isEnabled = work.state.toggle ∧
      work.state.env.providersOf activation =
        ProviderKind.alwaysOn ++ (if work.state.toggle then ProviderKind.formatting else []) ∧
      work.state.env.ledger.live.Perm (work.state.env.providersOf activation ++
        (ledger.live ++ Environment.Stock.others work.state.env work.state.cores id)) := by
  intro start work activation found announced current
  obtain ⟨sound, square⟩ := World.square_run outset ledger actions
  obtain ⟨released, holds⟩ := sound.orderly.live _ (World.Sound.lookup_mem found)
  have lt := sound.live_lt found
  have agrees : World.Agrees id work.state :=
    World.agrees_run (World.sound_host outset ledger) (World.square_run outset ledger []).2
      (.idle _) nofun announced current (.inl (Nat.zero_le _)) lt rfl
  have enabled : (work.state.env.gate activation.gate).isEnabled = work.state.toggle := by
    rcases agrees with abandoned | gone | agrees
    · exact absurd (released.symm.trans abandoned) nofun
    · exact absurd gone holds
    · exact agrees
  have live := Environment.Stock.live_own square (World.Sound.core_eq lt)
  refine ⟨enabled, ?_, live⟩
  unfold Environment.providersOf
  rw [enabled, if_neg holds]

/-- The toggle is flipped while a text is held back in the replay: the publication waits behind the
barrier, and when it has been delivered no formatting provider is live. -/
theorem formatting_follows_in_replay :
    let doc : Document := ⟨⟨"file:///a.qs"⟩, "qsharp", 1, "old", false⟩
    let outset : Outset := ⟨⟨false, false, false⟩, ⟨false, false, false, []⟩, ["file:///a.qs@1"],
      ⟨.directory [("engine.wasm", .file [0])]⟩, .memory ⟨.unrestricted, true⟩, [doc], "qsharp",
      "engine.wasm"⟩
    let ledger : Ledger := ⟨[.registered .hover], [⟨.hover, "qsharp"⟩]⟩
    let flip : Action WorldRequest WorldMove := .move (.source (.memory ⟨.unrestricted, false⟩))
    let publish : Action WorldRequest WorldMove := .start (.publish (.configuration .toggle))
    let start := outset.host ledger
    let before : List (Action WorldRequest WorldMove) := [.start (.activate "a"), .poll 0]
    let work := World.machine.run start
      (before ++ [flip, publish, .poll 1, .move (.release "file:///a.qs@1"), .poll 0, .poll 0])
    ((World.machine.run start before).state.env.gate 0).isEnabled = true ∧
      work.state.live? "a" = some 0 ∧ work.state.toggle = false ∧
      (work.state.env.gate (work.state.activation 0).gate).isEnabled = work.state.toggle ∧
      work.state.env.providersOf (work.state.activation 0) = ProviderKind.alwaysOn ∧
      work.state.env.ledger.live.Perm (ProviderKind.alwaysOn ++ [.hover]) := by
  intro doc outset ledger flip publish start before work
  have found : work.state.live? "a" = some 0 := by decide +kernel
  have toggle : work.state.toggle = false := by decide +kernel
  have announced : World.Announced work.results start
      (before ++ [flip, publish, .poll 1, .move (.release "file:///a.qs@1"), .poll 0, .poll 0]) := by
    have still {world world' : World} (same : world'.toggle = world.toggle) {P : Prop}
        (flips : world'.toggle ≠ world.toggle) : P := absurd same flips
    refine ⟨still (by decide +kernel), still (by decide +kernel), fun _ => ?_,
      still (by decide +kernel), still (by decide +kernel), still (by decide +kernel),
      still (by decide +kernel), still (by decide +kernel), trivial⟩
    exact ⟨[], _, rfl, by decide +kernel⟩
  obtain ⟨enabled, providers, -⟩ := formatting_follows outset ledger _ "a" 0 found announced
    (by decide +kernel)
  rw [toggle] at providers
  exact ⟨by decide +kernel, found, toggle, enabled, providers, by decide +kernel⟩

/-- The toggle is flipped while the first profile is held back, and the publication is delivered
before the activation subscribes: the activation comes up with its gate open, and no publication is
under way any more. -/
theorem formatting_misses_flip_in_bootstrap :
    let outset : Outset := ⟨⟨false, false, false⟩, ⟨false, false, false, []⟩,
      ["configure@unrestricted"], ⟨.directory [("engine.wasm", .file [0])]⟩,
      .memory ⟨.unrestricted, true⟩, [], "qsharp", "engine.wasm"⟩
    let work := outset.reach [.start (.activate "a"), .poll 0,
      .move (.source (.memory ⟨.unrestricted, false⟩)),
      .start (.publish (.configuration .toggle)), .poll 1,
      .move (.release "configure@unrestricted"), .poll 0]
    work.state.live? "a" = some 0 ∧ work.calls = [] ∧
      work.results = [(1, .delivered), (0, .active)] ∧ work.state.toggle = false ∧
      (work.state.env.gate (work.state.activation 0).gate).isEnabled ≠ work.state.toggle ∧
      work.state.env.ledger.live = ProviderKind.alwaysOn ++ ProviderKind.formatting := by
  intro outset work
  exact ⟨by decide +kernel, by decide +kernel, by decide +kernel, by decide +kernel,
    by decide +kernel, by decide +kernel⟩

end EngineSync
