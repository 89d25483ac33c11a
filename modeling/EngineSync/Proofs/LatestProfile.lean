import EngineSync.Proofs.Accounts
import EngineSync.Proofs.Claims
import EngineSync.Proofs.Unmoved

/-!
# The profile of the engine

A listener that routes a change of the profile hands the engine the profile as it is then.  So once
a publication that names the profile is delivered, a request carries the profile that the settings
have, and so does each one made after it: the session was asked last for what the settings say.
Nobody waits for an earlier request to be answered before the next is made.  So the request that is
answered last may be an earlier one, unless the engine answers them in turn.
-/
namespace EngineSync

/-- Whether an event says that the profile may have changed. -/
def Event.namesProfile : Event → Bool
  | .configuration change => change.affects ConfigChange.profileKey
  | _ => false

namespace Engine
variable {engine engine' base : Engine} {number : TicketId} {session : SessionId}
  {tickets others : List TicketId} {profile : Profile}

/-- The profile that a request hands to a session, if it is one that configures it. -/
def configured? (engine : Engine) (session : SessionId) (number : TicketId) : Option Profile :=
  match engine.made[number]? with
  | some (session', .configure profile) => if session' = session then some profile else none
  | _ => none

/-- The profiles that some requests hand to a session. -/
def configurations (engine : Engine) (session : SessionId) (numbers : List TicketId) :
    List Profile :=
  numbers.filterMap (engine.configured? session)

/-- Those of some requests that configure a session stand in the order in which they were made. -/
def InTurn (engine : Engine) (session : SessionId) (numbers : List TicketId) : Prop :=
  (numbers.filter fun number => (engine.configured? session number).isSome).Pairwise (· < ·)

instance (engine : Engine) (session : SessionId) (numbers : List TicketId) :
    Decidable (engine.InTurn session numbers) :=
  inferInstanceAs (Decidable (List.Pairwise _ _))

/-- A request hands a profile to a session, and no later one hands it another. -/
structure Latest (session : SessionId) (profile : Profile) (number : TicketId) (engine : Engine) :
    Prop where
  here : engine.configured? session number = some profile
  later : ∀ later, number ≤ later → ∀ asked, engine.configured? session later = some asked →
    asked = profile

theorem configured?_eq_some {asked : Profile} :
    engine.configured? session number = some asked ↔
      engine.made[number]? = some (session, .configure asked) := by
  unfold configured?
  split
  · rename_i found
    simp [found]
  · rename_i other
    simp only [reduceCtorEq, false_iff]
    exact other session asked

namespace Latest

theorem lt (h : Latest session profile number engine) : number < engine.made.length :=
  (List.getElem?_eq_some_iff.mp (configured?_eq_some.mp h.here)).1

/-- It stays the latest as long as no other profile is handed in. -/
theorem served (h : Latest session profile number base)
    (served : engine.Served profile base tickets) : Latest session profile number engine where
  here := configured?_eq_some.mpr (served.getElem? (configured?_eq_some.mp h.here))
  later later le asked found := by
    have made := configured?_eq_some.mp found
    rcases Nat.lt_or_ge later base.made.length with old | new
    · refine h.later later le asked (configured?_eq_some.mpr ?_)
      obtain ⟨more, same⟩ := served.made
      rwa [← same, List.getElem?_append_left old] at made
    · exact served.told later new session asked made

theorem of_made (h : Latest session profile number engine) (made : engine'.made = engine.made) :
    Latest session profile number engine' := by
  have same : ∀ number, engine'.configured? session number = engine.configured? session number :=
    fun number => by simp only [configured?, made]
  exact ⟨(same _).trans h.here, fun later le asked found =>
    h.later later le asked ((same _).symm.trans found)⟩

/-- The request that is made now is the latest. -/
theorem issue (counted : engine.Counted) :
    Latest session profile (engine.issue session (.configure profile)).2
      (engine.issue session (.configure profile)).1 := by
  have number : (engine.issue session (.configure profile)).2 = engine.made.length := by
    obtain ⟨granted, permits, issued⟩ := engine.issue_eq session (.configure profile)
    rw [issued, ← counted.next]
  rw [number]
  refine ⟨configured?_eq_some.mpr ?_, fun later le asked found => ?_⟩
  · rw [made_issue]
    exact List.getElem?_concat_length
  · have made := configured?_eq_some.mp found
    rw [made_issue, List.getElem?_append_right le, List.getElem?_singleton] at made
    split at made
    · cases made
      rfl
    · cases made

/-- Among some requests in turn with the latest, the last that configures the session hands it that
profile. -/
theorem configurations (h : Latest session profile number engine) {numbers : List TicketId}
    (mem : number ∈ numbers) (turns : engine.InTurn session numbers) :
    (engine.configurations session numbers).getLast? = some profile := by
  have same : engine.configurations session numbers =
      (numbers.filter fun number => (engine.configured? session number).isSome).filterMap
        (engine.configured? session) := by
    rw [List.filterMap_filter]
    refine List.filterMap_congr fun other _ => ?_
    cases engine.configured? session other <;> rfl
  have kept : number ∈ numbers.filter fun number => (engine.configured? session number).isSome :=
    List.mem_filter.mpr ⟨mem, by rw [h.here]; rfl⟩
  rw [same]
  rcases List.eq_nil_or_concat' (numbers.filter fun number =>
    (engine.configured? session number).isSome) with none | ⟨before, last, split⟩
  · rw [none] at kept
    cases kept
  · have own : last ∈ numbers.filter fun number =>
        (engine.configured? session number).isSome := by
      rw [split]
      exact List.mem_append_right before List.mem_cons_self
    obtain ⟨asked, found⟩ := Option.isSome_iff_exists.mp (List.mem_filter.mp own).2
    have le : number ≤ last := by
      rw [Engine.InTurn, split] at turns
      rw [split] at kept
      rcases List.mem_append.mp kept with old | own
      · exact Nat.le_of_lt ((List.pairwise_append.mp turns).2.2 number old last List.mem_cons_self)
      · exact Nat.le_of_eq (List.mem_singleton.mp own)
    rw [split, List.filterMap_append, List.filterMap_cons_some found, List.filterMap_nil,
      List.getLast?_append, h.later last le asked found]
    rfl

end Latest
end Engine

/-! ## Changes under way -/

/-- A change under way that names the profile has still to be looked at, or the request that it has
made is the latest. -/
def RouteCall.Settles (session : SessionId) (profile : Profile) (engine : Engine) :
    RouteCall → Prop
  | .arriving change => change.affects ConfigChange.profileKey = true
  | .applying _ number => engine.Latest session profile number

namespace Environment
variable {env : Environment} {base : Engine} {others : List TicketId}

/-- What becomes of a change that names the profile, if it does not fail: the request that it has
made is the latest, and it is over now. -/
structure Settled (session : SessionId) (base : Engine) (env : Environment)
    (progress : Progress RouteCall RouteResult) : Prop where
  ended : ∀ reaction, progress = .finished (.ok reaction) →
    ∃ number, env.engine.Latest session env.profile.2 number ∧ env.engine.Over number ∧
      ¬base.Over number
  goes : ∀ call ∈ progress.rest, call.Settles session env.profile.2 env.engine

theorem settled_applying {session : SessionId} {asked : Profile} {number : TicketId}
    (h : env.engine.Served env.profile.2 base (number :: others))
    (latest : env.engine.Latest session env.profile.2 number) :
    Settled session base (Router.pollApplying env asked number).1
      (Router.pollApplying env asked number).2 := by
  unfold Router.pollApplying
  cases collected : env.collectProfile? asked number with
  | none =>
    refine ⟨nofun, fun call mem => ?_⟩
    rw [List.mem_singleton.mp mem]
    exact latest
  | some outcome =>
    obtain ⟨env', answer⟩ := outcome
    have collects := collectProfile?_engine collected
    have edits : Edits .plain env env' := collectProfile?_edits collected
    have profile : env'.profile.2 = env.profile.2 := profile_evolves edits.evolves
    have under : number ∈ env.engine.underway := Engine.mem_underway_of_collect? collects
    have latest' := latest.of_made (Engine.made_collect? collects)
    refine ⟨fun _ _ => ⟨number, profile ▸ latest', ⟨latest'.lt, fun still => ?_⟩, fun old => ?_⟩,
      nofun⟩
    · rw [Engine.underway_without (Engine.claims_collect? collects)] at still
      simpa using (List.mem_filter.mp still).2
    · exact (h.underway number under).elim old.2 fun le => Nat.not_lt_of_le le old.1

theorem settled_route (router : Router) {call : RouteCall}
    (h : env.engine.Served env.profile.2 base (call.tickets ++ others))
    (settles : call.Settles router.session env.profile.2 env.engine) :
    Settled router.session base (router.poll env call).1 (router.poll env call).2 := by
  cases call with
  | applying asked number => exact settled_applying h settles
  | arriving change =>
    have names : change.affects ConfigChange.profileKey = true := settles
    simp only [Router.poll, Router.route, names, if_true, Router.routeProfile, applyProfile,
      Session.applyProfile, Session.request]
    have same : (env.profile.1.log [.routeProfile ConfigChange.profileKey env.profile.2]).engine =
      env.engine := rfl
    rw [same]
    cases env.engine.isDisposed router.session with
    | true => exact ⟨by rintro _ ⟨⟩, List.forall_mem_nil _⟩
    | false =>
      have issued := @Engine.Served.issue _ _ (.configure env.profile.2) _ _ h router.session
        fun asked same => (Request.configure.inj same).symm
      exact settled_applying issued (.issue h.counted)

end Environment

namespace World
variable {world world' : World} {call : Call} {calls : List Call} {id id' : ActivationId}
  {notes : List WorldNote} {progress : Progress Call CallResult} {name : String}
  {base : List ProviderKind} {session : SessionId} {engine : Engine}

/-! ## Live activations -/

/-- An activation is live under no name. -/
def Retired (id : ActivationId) (world : World) : Prop :=
  ∀ name, (name, id) ∉ world.live

theorem live_drop (world : World) (name : String) : (world.drop name).live ⊆ world.live := by
  unfold World.drop
  cases world.live? name with
  | none => exact List.Subset.refl _
  | some id => exact List.filter_subset_self world.live

theorem live_deactivate (world : World) (name : String) :
    (world.deactivate name).live ⊆ world.live := by
  unfold World.deactivate
  cases world.live? name with
  | none => exact List.Subset.refl _
  | some id => exact List.filter_subset_self world.live

namespace Retired

theorem fewer (h : Retired id world) (fewer : world'.live ⊆ world.live) : Retired id world' :=
  fun name mem => h name (fewer mem)

theorem same (h : Retired id world) (same : world'.live = world.live) : Retired id world' :=
  fun name mem => h name (same ▸ mem)

/-- An activation whose barrier was moved does not come to life again. -/
theorem hop (h : Retired id world) (sound : Sound world (call :: calls))
    (moved : (world.activation id).barrier ≠ .replaying)
    (hop : Hop world call notes world' progress) : Retired id world' := by
  cases hop with
  | refused | began | rejected | publish | finish => exact h
  | subscribed collected => exact h
  | replay polled => exact h
  | failed polled => exact h
  | @ready name id' settings replay sync count polled =>
    intro name' mem
    rcases List.mem_append.mp mem with old | new
    · exact h name' (live_drop (World.readied (world.putSync id' sync) id' settings replay.total) name old)
    · cases List.mem_singleton.mp new
      exact moved (sound.orderly.replaying id List.mem_cons_self).1
  | call event next waiting =>
    unfold startListener
    cases next.listener <;> exact h
  | sync id' call => exact h
  | listen hop =>
    cases hop with
    | pass | take | answered | route => exact h
    | forward id' forwarding =>
      exact h.same (works_forwarding world id' forwarding).calm.live

theorem cancel (h : Retired id world) : Retired id (world.cancel call) := by
  match call with
  | .activate name .arriving | .activate name (.configuring collection session settings ticket)
  | .publish (.arriving event) | .publish (.delivering ⟨event, none, waiting⟩)
  | .publish (.delivering ⟨event, some (.outside number), waiting⟩)
  | .activate name (.replaying id' settings replay) | .sync id' call => exact h
  | .publish (.delivering ⟨event, some (.activation id' stage), waiting⟩) =>
    exact h.same (works_cancelListener world id' stage).calm.live

theorem surround (h : Retired id world) (sound : Sound world calls) (move : WorldMove) :
    Retired id (world.surround move) := by
  cases move with
  | release | grant | refuse | files | source | documents | report | listen | answer => exact h
  | unlisten number =>
    simp only [World.surround]
    split <;> exact h
  | deactivate name => exact h.fewer (live_deactivate world name)
  | drop name => exact h.fewer (live_drop world name)
  | disposeSession name =>
    simp only [World.surround]
    cases world.live? name <;> exact h
  | route name change =>
    simp only [World.surround]
    cases world.live? name with
    | none => exact h
    | some id' =>
      exact h.same (works_routeNow sound.tidy id' change).calm.live

end Retired

/-- An activation that has a certain session and whose barrier was moved, in a world that was
reached. -/
structure Watched (base : List ProviderKind) (id : ActivationId) (session : SessionId)
    (world : World) (calls : List Call) : Prop where
  sound : Sound world calls
  square : world.Square base
  attended : world.Attended calls
  moved : (world.activation id).barrier ≠ .replaying
  own : (world.activation id).session = session

namespace Watched

theorem lt (h : Watched base id session world calls) : id < world.activations.length :=
  Sound.lt_of_moved h.moved

theorem hop (h : Watched base id session world (call :: calls))
    (hop : Hop world call notes world' progress) :
    Watched base id session world' (progress.rest ++ calls) where
  sound := h.sound.hop hop
  square := h.square.hop h.sound hop
  attended := h.attended.hop hop
  moved := (h.sound.settled_hop h.moved hop).symm ▸ h.moved
  own := (lasting_session.hop h.sound h.lt (.inr fun _ _ => rfl) hop).trans h.own

theorem cancels (h : Watched base id session world (call :: calls)) :
    Watched base id session (world.cancel call) calls where
  sound := h.sound.cancels
  square := h.square.cancels h.sound
  attended := h.attended.cancels
  moved := (h.sound.settled_cancel h.moved).symm ▸ h.moved
  own := (lasting_session.cancel world id (.inr fun _ _ => rfl)).trans h.own

theorem surrounds (h : Watched base id session world calls) (move : WorldMove) :
    Watched base id session (world.surround move) calls where
  sound := h.sound.surrounds move
  square := h.square.surrounds h.sound move
  attended := h.attended.surrounds move
  moved := (lasting_barrier.surround h.sound id move).symm ▸ h.moved
  own := (lasting_session.surround h.sound id move).trans h.own

theorem tells (base : List ProviderKind) (id : ActivationId) (session : SessionId) :
    Tells fun world calls _ => Watched base id session world calls where
  tidy h := h.sound.tidy
  perm hp h :=
    ⟨h.sound.perm hp, h.square, h.attended.perm (hp.flatMap_right _), h.moved, h.own⟩
  accept h accepted :=
    ⟨h.sound.accepts accepted, h.square, h.attended.accepts accepted, h.moved, h.own⟩
  hop h step := h.hop step
  cancel h := h.cancels
  surround move h := h.surrounds move

end Watched

/-! ## Word of a change -/

/-- Since the engine was as it was at some moment, it has answered the latest request, or the
activation is live no more. -/
def Answers (id : ActivationId) (session : SessionId) (engine : Engine) (world : World) : Prop :=
  Retired id world ∨ ∃ number, world.env.engine.Latest session world.profile number ∧
    world.env.engine.Over number ∧ ¬engine.Over number

/-- A call bears word of a change of the profile to the listener of an activation: it has not set
out yet, or the listener is still to be called, or it was called and has not looked at the change,
or it has made a request that is the latest. -/
def Bears (id : ActivationId) (session : SessionId) (world : World) : Call → Prop
  | .publish (.arriving event) => event.namesProfile = true
  | .publish (.delivering ⟨event, current, waiting⟩) => event.namesProfile = true ∧
    (id ∈ audience waiting ∨ current = some (.activation id .arriving) ∨
      ∃ route, current = some (.activation id (.routing route)) ∧
        route.Settles session world.profile world.env.engine)
  | _ => False

/-- What becomes of a call that bears word: the latest request is answered, or the call goes on to
bear word, or it fails. -/
def Borne (id : ActivationId) (session : SessionId) (engine : Engine) (world : World)
    (progress : Progress Call CallResult) : Prop :=
  Answers id session engine world ∨
    progress ≠ .finished .delivered ∧ ∀ next ∈ progress.rest, Bears id session world next

theorem Answers.hop (h : Answers id session engine world)
    (watched : Watched base id session world (call :: calls))
    (hop : Hop world call notes world' progress) : Answers id session engine world' := by
  rcases h with retired | ⟨number, latest, gone, since⟩
  · exact .inl (retired.hop watched.sound watched.moved hop)
  · have served := served_hop (Engine.Serves.start watched.attended) hop
    refine .inr ⟨number, ?_, served.ended gone, since⟩
    rw [profile_hop watched.sound hop]
    exact latest.served served

/-- Somebody before the activation has been called. -/
theorem borne_behind {event : Event} {waiting : List (Subscription Listener)}
    (names : event.namesProfile = true) (behind : id ∈ audience waiting)
    (outcome : Progress ListenerCall (Except EngineFailure Unit)) :
    Borne id session engine world (delivered event waiting outcome) := by
  rcases outcome with listener | failure | ⟨⟩
  · exact .inr ⟨nofun, fun next mem => List.mem_singleton.mp mem ▸ ⟨names, .inl behind⟩⟩
  · exact .inr ⟨nofun, List.forall_mem_nil _⟩
  · exact .inr ⟨nofun, fun next mem => List.mem_singleton.mp mem ▸ ⟨names, .inl behind⟩⟩

theorem borne_listener {event : Event} {listener : ListenerCall}
    {waiting : List (Subscription Listener)}
    {outcome : Progress ListenerCall (Except EngineFailure Unit)}
    (watched : Watched base id session world
      (.publish (.delivering ⟨event, some listener, waiting⟩) :: calls))
    (served : world.env.engine.Served world.profile engine
      (listener.tickets ++ calls.flatMap Call.tickets))
    (bears : Bears id session world (.publish (.delivering ⟨event, some listener, waiting⟩)))
    (hop : ListenerHop event world listener notes world' outcome) :
    Borne id session engine world' (delivered event waiting outcome) := by
  obtain ⟨names, behind | called | ⟨route, looks, settles⟩⟩ := bears
  · exact borne_behind names behind outcome
  · -- its listener waits at the barrier
    cases called
    cases hop with
    | pass abandoned =>
      refine .inl (.inl fun name mem => ?_)
      have released := (watched.sound.orderly.live _ mem).1
      cases abandoned.symm.trans released
    | take released =>
      cases event with
      | configuration change =>
        exact .inr ⟨nofun, fun next mem => List.mem_singleton.mp mem ▸
          ⟨names, .inr (.inr ⟨.arriving change, rfl, names⟩)⟩⟩
      | opened | changed | closed => cases names
  · cases looks
    cases hop with
    | route id call =>
      have settled := @Environment.settled_route world.env engine (calls.flatMap Call.tickets)
        (world.activation id).router route served (by rw [← watched.own] at settles; exact settles)
      have same : (world.activation id).router.session = session := watched.own
      rw [same] at settled
      unfold pollRouting
      revert settled
      rcases (world.activation id).router.poll world.env route with
        ⟨env, route' | failure | reaction⟩ <;> intro settled
      · exact .inr ⟨nofun, fun next mem => List.mem_singleton.mp mem ▸
          ⟨names, .inr (.inr ⟨route', rfl, settled.goes _ List.mem_cons_self⟩)⟩⟩
      · exact .inr ⟨nofun, List.forall_mem_nil _⟩
      · exact .inl (.inr (settled.ended reaction rfl))

theorem borne_hop (watched : Watched base id session world (call :: calls))
    (served : world.env.engine.Served world.profile engine
      (call.tickets ++ calls.flatMap Call.tickets))
    (bears : Bears id session world call) (hop : Hop world call notes world' progress) :
    Borne id session engine world' progress := by
  cases hop with
  | publish event =>
    by_cases live : ∃ name, (name, id) ∈ world.live
    · obtain ⟨name, live⟩ := live
      have holds := (watched.sound.orderly.live _ live).2
      cases event with
      | configuration change =>
        exact .inr ⟨nofun, fun next mem => List.mem_singleton.mp mem ▸
          ⟨bears, .inl (watched.square.audience watched.lt holds .configurationChanged)⟩⟩
      | opened | changed | closed => cases bears
    · exact .inl (.inl fun name mem => live ⟨name, mem⟩)
  | call event next waiting =>
    obtain ⟨names, behind | no | ⟨_, no, _⟩⟩ := bears
    · refine .inr ⟨nofun, fun next' mem => List.mem_singleton.mp mem ▸ ⟨names, ?_⟩⟩
      obtain ⟨sub, hs, same⟩ := List.mem_filterMap.mp behind
      rcases List.mem_cons.mp hs with rfl | later
      · -- it is the one that is called now
        have own : sub.listener = .activation id := by
          cases listener : sub.listener <;> simp_all [Listener.activation?]
        rw [own]
        exact .inr (.inl rfl)
      · exact .inl (List.mem_filterMap.mpr ⟨sub, later, same⟩)
    · cases no
    · cases no
  | listen hop => exact borne_listener watched served bears hop
  | finish event =>
    obtain ⟨-, no | no | ⟨_, no, _⟩⟩ := bears
    · cases no
    · cases no
    · cases no
  | refused | began | rejected | subscribed | replay | ready | failed | sync => exact bears.elim

theorem answers_chain (chain : Chain Hop world call notes world' progress)
    (watched : Watched base id session world (call :: calls))
    (h : Answers id session engine world) : Answers id session engine world' := by
  have kept := chain.carries
    (fun world rest => Watched base id session world (rest ++ calls) ∧
      Answers id session engine world)
    (fun {_ _ _ _ _} h hop => ⟨h.1.hop hop, h.2.hop h.1 hop⟩) ⟨watched, h⟩
  exact kept.2

/-- A chance takes word of a change further, or the latest request is answered. -/
theorem borne_chain (chain : Chain Hop world call notes world' progress)
    (watched : Watched base id session world (call :: calls))
    (served : world.env.engine.Served world.profile engine
      (call.tickets ++ calls.flatMap Call.tickets))
    (bears : Bears id session world call) : Borne id session engine world' progress := by
  induction chain with
  | rest => exact .inr ⟨nofun, fun next mem => List.mem_singleton.mp mem ▸ bears⟩
  | finish hop => exact borne_hop watched served bears hop
  | step hop more ih =>
    have watched' := watched.hop hop
    rcases borne_hop watched served bears hop with answers | ⟨-, goes⟩
    · exact .inl (answers_chain more watched' answers)
    · have served' := served_hop served hop
      rw [← profile_hop watched.sound hop] at served'
      rw [Progress.rest_pending, List.flatMap_singleton] at served'
      exact ih watched' served' (goes _ List.mem_cons_self)

/-! ## Actions -/

variable {work : Work World Call CallResult} {number : Nat} {numbers : List TicketId}
  {results : List (Nat × CallResult)} {rest : List (Action WorldRequest WorldMove)}

/-- The requests that an action gets answered, read off the engine before and after it.  Whoever is
given up is not answered, and neither is a change that is routed at once and has to wait. -/
def answered (work : Work World Call CallResult) (action : Action WorldRequest WorldMove) :
    List TicketId :=
  let before := work.state.env.engine
  let after := (World.machine.perform work action).state.env.engine
  let gone := (List.range after.made.length).filter fun number =>
    after.Over number ∧ ¬before.Over number
  match action with
  | .start _ | .cancel _ => []
  | .poll _ => gone
  | .move _ => if after.completed = before.completed then [] else gone

/-- The requests that a run gets answered, in that order. -/
def answers (work : Work World Call CallResult) : List (Action WorldRequest WorldMove) →
    List TicketId
  | [] => []
  | action :: rest => answered work action ++ answers (World.machine.perform work action) rest

/-- One of some requests is the latest, or the activation is live no more. -/
def Current (id : ActivationId) (session : SessionId) (numbers : List TicketId) (world : World) :
    Prop :=
  Retired id world ∨ ∃ number ∈ numbers, world.env.engine.Latest session world.profile number

theorem retired_perform (watched : Watched base id session work.state work.calls)
    (h : Retired id work.state) (action : Action WorldRequest WorldMove) :
    Retired id (World.machine.perform work action).state := by
  cases action with
  | start request =>
    simp only [Machine.perform]
    cases World.machine.accept work.state request <;> exact h
  | poll place =>
    cases at_place : work.jobs[place]? with
    | none =>
      rw [Machine.perform_poll_none at_place]
      exact h
    | some job =>
      obtain ⟨before, after, split, rfl⟩ := Machine.split_at_place at_place
      have first := (Watched.tells base id session).keeps.at_place watched split
      rw [Machine.state_poll split]
      have kept := (poll_hops watched.sound.tidy job.call).carries
        (fun world rest => Watched base id session world
          (rest ++ (before ++ after).map (·.call)) ∧ Retired id world)
        (fun {_ _ _ _ _} h hop => ⟨h.1.hop hop, h.2.hop h.1.sound h.1.moved hop⟩) ⟨first, h⟩
      exact kept.2
  | cancel place =>
    cases at_place : work.jobs[place]? with
    | none =>
      rw [Machine.perform_cancel_none at_place]
      exact h
    | some job =>
      obtain ⟨before, after, split, rfl⟩ := Machine.split_at_place at_place
      rw [Machine.perform_cancel split]
      exact h.cancel
  | move move => exact h.surround watched.sound move

/-- An action that leaves the profile of the settings alone leaves the latest request the latest. -/
theorem current_perform (watched : Watched base id session work.state work.calls)
    (h : Current id session numbers work.state) {action : Action WorldRequest WorldMove}
    (still : (World.machine.perform work action).state.profile = work.state.profile) :
    Current id session (numbers ++ answered work action)
      (World.machine.perform work action).state := by
  rcases h with retired | ⟨number, mem, latest⟩
  · exact .inl (retired_perform watched retired action)
  · refine .inr ⟨number, List.mem_append_left _ mem, ?_⟩
    rw [still]
    exact latest.served (served_perform watched.sound watched.attended action)

/-- The call of a number bears word of a change, as long as it is under way and until the latest
request is answered. -/
def Pursued (id : ActivationId) (session : SessionId) (numbers : List TicketId) (number : Nat)
    (work : Work World Call CallResult) : Prop :=
  Current id session numbers work.state ∨
    (number, .delivered) ∉ work.results ∧
      ∀ call ∈ work.call? number, Bears id session work.state call

/-- Word that is on its way stays on its way while others act. -/
theorem Bears.perform (bears : Bears id session work.state call)
    (watched : Watched base id session work.state work.calls)
    {action : Action WorldRequest WorldMove}
    (still : (World.machine.perform work action).state.profile = work.state.profile) :
    Bears id session (World.machine.perform work action).state call := by
  match call with
  | .publish (.arriving event) => exact bears
  | .publish (.delivering ⟨event, current, waiting⟩) =>
    obtain ⟨names, behind | called | ⟨route, looks, settles⟩⟩ := bears
    · exact ⟨names, .inl behind⟩
    · exact ⟨names, .inr (.inl called)⟩
    · refine ⟨names, .inr (.inr ⟨route, looks, ?_⟩)⟩
      rw [still]
      cases route with
      | arriving change => exact settles
      | applying asked number =>
        exact Engine.Latest.served settles (served_perform watched.sound watched.attended action)

theorem pursued_poll (watched : Watched base id session work.state work.calls)
    (numbered : work.Numbered) (unanswered : (number, .delivered) ∉ work.results)
    (bears : ∀ call ∈ work.call? number, Bears id session work.state call)
    {before after : List (Job Call)} {job : Job Call} (split : work.jobs = before ++ job :: after)
    (still : (World.machine.perform work (.poll before.length)).state.profile =
      work.state.profile) :
    Pursued id session (numbers ++ answered work (.poll before.length)) number
      (World.machine.perform work (.poll before.length)) := by
  have first := (Watched.tells base id session).keeps.at_place watched split
  by_cases same : job.number = number
  · subst same
    have served := @Engine.Serves.start _ _ work.state.profile first.attended
    have borne : Borne id session work.state.env.engine
        (World.machine.perform work (.poll before.length)).state
        (World.machine.poll work.state job.call).2 := by
      rw [Machine.state_poll split]
      exact borne_chain (poll_hops watched.sound.tidy job.call) first (by simpa using served)
        (bears job.call (numbered.call?_eq split))
    rw [Pursued, Machine.call?_poll_own numbered split]
    rcases borne with (retired | ⟨ticket, latest, gone, since⟩) | ⟨fails, goes⟩
    · exact .inl (.inl retired)
    · refine .inl (.inr ⟨ticket, List.mem_append_right _ (List.mem_filter.mpr ⟨?_, ?_⟩), latest⟩)
      · exact List.mem_range.mpr latest.lt
      · exact decide_eq_true ⟨gone, since⟩
    · refine .inr ⟨fun mem => ?_, fun call mem => goes call (Progress.mem_rest_head?.mp mem)⟩
      rcases Machine.mem_results_poll split mem with old | ⟨result, finished, here⟩
      · exact unanswered old
      · cases here
        exact fails finished
  · refine .inr ⟨fun mem => ?_, ?_⟩
    · rcases Machine.mem_results_poll split mem with old | ⟨result, -, here⟩
      · exact unanswered old
      · cases here
        exact same rfl
    · rw [Machine.call?_poll_other split same]
      exact fun call mem => (bears call mem).perform watched still

theorem pursued_perform (watched : Watched base id session work.state work.calls)
    (numbered : work.Numbered) (given : number < work.started)
    (h : Pursued id session numbers number work) {action : Action WorldRequest WorldMove}
    (still : (World.machine.perform work action).state.profile = work.state.profile) :
    Pursued id session (numbers ++ answered work action) number
      (World.machine.perform work action) := by
  rcases h with current | ⟨unanswered, bears⟩
  · exact .inl (current_perform watched current still)
  cases action with
  | start request =>
    refine .inr ⟨?_, ?_⟩
    · simp only [Machine.perform]
      cases World.machine.accept work.state request <;> exact unanswered
    · rw [Machine.call?_start given]
      exact fun call mem => (bears call mem).perform watched still
  | poll place =>
    cases at_place : work.jobs[place]? with
    | none =>
      rw [Machine.perform_poll_none at_place]
      exact .inr ⟨unanswered, bears⟩
    | some job =>
      obtain ⟨before, after, split, rfl⟩ := Machine.split_at_place at_place
      exact pursued_poll watched numbered unanswered bears split still
  | cancel place =>
    refine .inr ⟨?_, fun call mem => ?_⟩
    · simp only [Machine.perform]
      cases work.jobs[place]? <;> exact unanswered
    · refine (bears call ?_).perform watched still
      cases at_place : work.jobs[place]? with
      | none => rwa [Machine.perform_cancel_none at_place] at mem
      | some job =>
        obtain ⟨before, after, split, rfl⟩ := Machine.split_at_place at_place
        by_cases same : job.number = number
        · subst same
          rw [Machine.call?_cancel_own numbered split] at mem
          cases mem
        · rwa [Machine.call?_cancel_other split same] at mem
  | move move => exact .inr ⟨unanswered, fun call mem => (bears call mem).perform watched still⟩

/-! ## Changes that are published -/

/-- A publication that names the profile is still to be started, and it will be delivered. -/
def Due (results : List (Nat × CallResult)) (work : Work World Call CallResult)
    (rest : List (Action WorldRequest WorldMove)) : Prop :=
  ∃ between event later, rest = between ++ .start (.publish event) :: later ∧
    event.namesProfile = true ∧ ((World.machine.run work between).started, .delivered) ∈ results

/-- Whenever the profile of the settings changes, a publication that names it is started later, and
it is delivered. -/
def Published (results : List (Nat × CallResult)) (work : Work World Call CallResult) :
    List (Action WorldRequest WorldMove) → Prop
  | [] => True
  | action :: rest =>
    ((World.machine.perform work action).state.profile ≠ work.state.profile →
      Due results (World.machine.perform work action) rest) ∧
    Published results (World.machine.perform work action) rest

/-- The profile of the settings changes at least once. -/
def Revised (work : Work World Call CallResult) : List (Action WorldRequest WorldMove) → Prop
  | [] => False
  | action :: rest => (World.machine.perform work action).state.profile ≠ work.state.profile ∨
    Revised (World.machine.perform work action) rest

/-- The latest request is among those answered, or it will be once some publication is
delivered. -/
def Assured (results : List (Nat × CallResult)) (id : ActivationId) (session : SessionId)
    (numbers : List TicketId) (work : Work World Call CallResult)
    (rest : List (Action WorldRequest WorldMove)) : Prop :=
  Current id session numbers work.state ∨ Due results work rest ∨
    ∃ number < work.started, (number, .delivered) ∈ results ∧
      Pursued id session numbers number work

theorem assured_perform (watched : Watched base id session work.state work.calls)
    (numbered : work.Numbered) (given : ∀ entry ∈ work.results, entry.1 < work.started)
    {action : Action WorldRequest WorldMove}
    (h : Assured results id session numbers work (action :: rest))
    (still : (World.machine.perform work action).state.profile = work.state.profile) :
    Assured results id session (numbers ++ answered work action)
      (World.machine.perform work action) rest := by
  rcases h with current | ⟨between, event, later, split, names, delivered⟩ |
    ⟨number, lt, delivered, pursued⟩
  · exact .inl (current_perform watched current still)
  · cases between with
    | nil =>
      -- the publication is started now
      cases split
      refine .inr (.inr ⟨work.started, Nat.lt_succ_self _, delivered, .inr ⟨fun mem => ?_, ?_⟩⟩)
      · exact absurd (given _ mem) (Nat.lt_irrefl _)
      · intro call found
        have there : (World.machine.perform work (.start (.publish event))).call? work.started =
            some (.publish (.arriving event)) := Machine.call?_start_own numbered rfl
        cases there.symm.trans found
        exact names
    | cons next between =>
      cases split
      exact .inr (.inl ⟨between, event, later, rfl, names, delivered⟩)
  · exact .inr (.inr ⟨number, Nat.lt_of_lt_of_le lt (Machine.started_le work action), delivered,
      pursued_perform watched numbered lt pursued still⟩)

theorem current_of_assured (h : Assured work.results id session numbers work []) :
    Current id session numbers work.state := by
  rcases h with current | ⟨between, event, later, split, -⟩ | ⟨number, -, delivered, current | no⟩
  · exact current
  · cases between <;> cases split
  · exact current
  · exact absurd delivered no.1

/-- **The latest request is answered** at the end of every run in which the profile has changed and
changes are published. -/
theorem current_run (watched : Watched base id session work.state work.calls)
    (numbered : work.Numbered) (given : ∀ entry ∈ work.results, entry.1 < work.started)
    (published : Published (World.machine.run work rest).results work rest)
    (state : Assured (World.machine.run work rest).results id session numbers work rest ∨
      Revised work rest) :
    Current id session (numbers ++ answers work rest) (World.machine.run work rest).state := by
  induction rest generalizing work numbers with
  | nil =>
    rw [answers, List.append_nil]
    exact current_of_assured (state.resolve_right not_false)
  | cons action rest ih =>
    rw [answers, ← List.append_assoc]
    refine ih ((Watched.tells base id session).keeps.perform watched action)
      (Machine.numbered_perform numbered action)
      (Machine.results_lt_perform numbered given action) published.2 ?_
    by_cases still : (World.machine.perform work action).state.profile = work.state.profile
    · rcases state with assured | changed | later
      · exact .inl (assured_perform watched numbered given assured still)
      · exact absurd still changed
      · exact .inr later
    · exact .inl (.inr (.inl (published.1 still)))

end World

/-- **The engine is asked for the latest profile last.**  Whatever is asked for, published,
answered, refused or given up in any order while an activation is live: if the profile of the
settings changes, and each change is followed by a publication that names the profile and is
delivered, then the request that configured the session last carries the profile that the settings
have.  It is also the profile of the request that was answered last, if those that configure the
session are answered in the order in which they were made. -/
theorem latest_profile (outset : Outset) (ledger : Ledger)
    (before rest : List (Action WorldRequest WorldMove)) (name : String) (id : ActivationId) :
    let work := World.machine.run (outset.host ledger) before
    let later := World.machine.run work rest
    let session := (later.state.activation id).session
    let engine := later.state.env.engine
    let answered := World.answers work rest
    work.state.live? name = some id → later.state.live? name = some id →
    World.Published later.results work rest → World.Revised work rest →
      (engine.configurations session (List.range engine.made.length)).getLast? =
        some later.state.profile ∧
      (engine.InTurn session answered →
        (engine.configurations session answered).getLast? = some later.state.profile) := by
  intro work later session engine answered live still published revised
  obtain ⟨sound, square⟩ := World.square_run outset ledger before
  have attended : work.state.Attended work.calls :=
    (World.attended_tells.keeps.run ⟨World.sound_host outset ledger, ⟨⟨rfl, .nil, nofun⟩, .refl _⟩⟩
      before).2
  have numbered : work.Numbered := Machine.numbered_run (.idle _) before
  have released := (sound.orderly.live _ (World.Sound.lookup_mem live)).1
  have lt := sound.live_lt live
  have same := (World.belongings_run sound lt rest).2
  simp only [Activation.belongings, Prod.mk.injEq] at same
  have watched : World.Watched ledger.live id session work.state work.calls :=
    ⟨sound, square, attended, by rw [released]; nofun, same.1.symm⟩
  have current := @World.current_run _ _ _ _ [] _ watched numbered
    (Machine.results_lt_run (.idle _) nofun before) published (.inr revised)
  rcases current with retired | ⟨number, mem, latest⟩
  · exact absurd (World.Sound.lookup_mem still) (retired name)
  · refine ⟨latest.configurations (List.mem_range.mpr latest.lt) ?_, latest.configurations mem⟩
    exact List.pairwise_lt_range.filter _

/-- The profile changes twice and both changes are with the engine at the same time, which answers
them in turn. -/
theorem latest_profile_of_two_in_turn :
    let outset : Outset := ⟨⟨false, false, false⟩, ⟨false, false, false, []⟩,
      ["configure@base", "configure@unrestricted"], ⟨.directory [("engine.wasm", .file [0])]⟩,
      .memory ⟨.unrestricted, true⟩, [], "qsharp", "engine.wasm"⟩
    let ledger : Ledger := ⟨[], []⟩
    let revise (profile : Profile) : Action WorldRequest WorldMove :=
      .move (.source (.memory ⟨profile, true⟩))
    let publish : Action WorldRequest WorldMove :=
      .start (.publish (.configuration ⟨[ConfigChange.profileKey]⟩))
    let before : List (Action WorldRequest WorldMove) := [.start (.activate "a"), .poll 0,
      .move (.release "configure@unrestricted"), .poll 0]
    let rest := [revise .base, publish, .poll 0, revise .unrestricted, publish, .poll 1,
      .move (.release "configure@base"), .poll 0, .move (.release "configure@unrestricted"),
      .poll 0]
    let work := World.machine.run (outset.host ledger) before
    let later := World.machine.run work rest
    World.answers work rest = [1, 2] ∧
      later.state.env.engine.configurations 0 [1, 2] = [.base, .unrestricted] ∧
      (later.state.env.engine.configurations 0 [1, 2]).getLast? = some later.state.profile := by
  intro outset ledger revise publish before rest work later
  have answered : World.answers work rest = [1, 2] := by decide +kernel
  have published : World.Published later.results work rest := by
    have still {world world' : World} (same : world'.profile = world.profile) {P : Prop}
        (changes : world'.profile ≠ world.profile) : P := absurd same changes
    refine ⟨fun _ => ⟨[], _, _, rfl, by decide +kernel, by decide +kernel⟩,
      still (by decide +kernel), still (by decide +kernel),
      fun _ => ⟨[], _, _, rfl, by decide +kernel, by decide +kernel⟩, still (by decide +kernel),
      still (by decide +kernel), still (by decide +kernel), still (by decide +kernel),
      still (by decide +kernel), still (by decide +kernel), trivial⟩
  have live : work.state.live? "a" = some 0 := by decide +kernel
  have still : later.state.live? "a" = some 0 := by decide +kernel
  have revised : World.Revised work rest := .inl (by decide +kernel)
  have session : (later.state.activation 0).session = 0 := by decide +kernel
  have turns : later.state.env.engine.InTurn 0 [1, 2] := by decide +kernel
  have last := (latest_profile outset ledger before rest "a" 0 live still published revised).2
  have reached : World.machine.run (World.machine.run (outset.host ledger) before) rest = later :=
    rfl
  rw [answered, session, reached] at last
  exact ⟨answered, by decide +kernel, last turns⟩

/-- The profile changes twice; the engine holds back the first change and answers the second at
once.  Both publications are delivered and nothing is under way, but the profile that the engine has
taken up last is not that of the settings. -/
theorem latest_profile_overtaken :
    let outset : Outset := ⟨⟨false, false, false⟩, ⟨false, false, false, []⟩,
      ["configure@base"], ⟨.directory [("engine.wasm", .file [0])]⟩,
      .memory ⟨.unrestricted, true⟩, [], "qsharp", "engine.wasm"⟩
    let revise (profile : Profile) : Action WorldRequest WorldMove :=
      .move (.source (.memory ⟨profile, true⟩))
    let publish : Action WorldRequest WorldMove :=
      .start (.publish (.configuration ⟨[ConfigChange.profileKey]⟩))
    let work := outset.reach [.start (.activate "a"), .poll 0]
    let rest := [revise .base, publish, .poll 0, revise .unrestricted, publish, .poll 1,
      .move (.release "configure@base"), .poll 0]
    let later := World.machine.run work rest
    later.state.live? "a" = some 0 ∧ later.calls = [] ∧
      later.results = [(0, .active), (2, .delivered), (1, .delivered)] ∧
      World.answers work rest = [2, 1] ∧
      later.state.env.engine.completed =
        ["configure@unrestricted", "configure@unrestricted", "configure@base"] ∧
      (later.state.env.engine.configurations (later.state.activation 0).session
        (World.answers work rest)).getLast? = some .base ∧
      later.state.profile = .unrestricted := by
  intro outset revise publish work rest later
  exact ⟨by decide +kernel, by decide +kernel, by decide +kernel, by decide +kernel,
    by decide +kernel, by decide +kernel, by decide +kernel⟩

end EngineSync
