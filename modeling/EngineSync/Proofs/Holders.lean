import EngineSync.Proofs.Asking

/-!
# Holders of one session

A session is handed on to several holders: ways of documents to it, each with lanes of its own, the
router of changes, whoever applies a profile or asks for something directly, and whoever disposes
it.  They work at once and in any order, and meanwhile the engine answers what it likes when it
likes and other sessions are at work.  As soon as the session is disposed, nothing is asked of it
any more (`Engine.Asks`), and whoever is still bound for it comes back with nothing but the news
that it is disposed.
-/
namespace EngineSync

/-- What the holders of a session share: the environment, and the ways of documents to the session,
each with a filter and lanes. -/
structure Holders where
  env : Environment
  session : SessionId
  gate : GateId
  ways : List (DocumentFilter × Lanes)

/-- What a holder does: it forwards or replays documents, reacts to a change, asks for something,
applies a profile, or disposes the session. -/
inductive HolderCall where
  | sync (way : Nat) (call : SyncCall)
  | route (call : RouteCall)
  | ask (request : Request) (ticket : Option TicketId)
  | apply (profile : Profile) (ticket : Option TicketId)
  | dispose
deriving DecidableEq, Repr

/-- What comes of it; whoever disposes is told whether this did it. -/
inductive HolderResult where
  | synced (result : SyncResult)
  | routed (result : RouteResult)
  | answered (result : Except EngineFailure Unit)
  | disposed (first : Bool)
deriving DecidableEq, Repr

/-- What holders are asked to do. -/
inductive HolderRequest where
  | sync (way : Nat) (request : SyncRequest)
  | route (change : ConfigChange)
  | ask (request : Request)
  | apply (profile : Profile)
  | dispose
deriving DecidableEq, Repr

/-- What the surroundings do: a permit is added, one call is answered out of turn, the engine
changes its mind about what it refuses, files or settings change, and other sessions are created,
asked and disposed. -/
inductive HolderMove where
  | release (key : String)
  | grant (ticket : TicketId)
  | refuse (refusals : Refusals)
  | files (files : FileTree)
  | source (source : SettingsSource)
  | create (sink : Option CollectionId)
  | ask (session : SessionId) (request : Request)
  | dispose (session : SessionId)

namespace Holders

/-- The filter and the lanes of a way. -/
def way (holders : Holders) (number : Nat) : DocumentFilter × Lanes :=
  holders.ways[number]?.getD default

/-- A way of documents to the session. -/
def sync (holders : Holders) (number : Nat) : Sync :=
  ⟨holders.session, (holders.way number).1, (holders.way number).2, holders.env.engine,
    holders.env.journal⟩

/-- Takes over what a way to the session has become. -/
def putSync (holders : Holders) (number : Nat) (sync : Sync) : Holders :=
  { holders with
    env := { holders.env with engine := sync.engine, journal := sync.journal }
    ways := holders.ways.set number ((holders.way number).1, sync.lanes) }

/-- The router of changes to the session. -/
def router (holders : Holders) : Router :=
  ⟨holders.session, holders.gate⟩

/-- Looks for the engine's answer to a request. -/
def pollAsked (holders : Holders) (request : Request) (ticket : TicketId) :
    Holders × Progress HolderCall HolderResult :=
  match holders.env.engine.collect? ticket with
  | none => (holders, .pending (.ask request (some ticket)))
  | some (engine, answer) =>
    ({ holders with env := { holders.env with engine } }, .finished (.answered answer))

/-- Looks for the engine's answer to a profile. -/
def pollApplied (holders : Holders) (profile : Profile) (ticket : TicketId) :
    Holders × Progress HolderCall HolderResult :=
  match holders.env.collectProfile? profile ticket with
  | none => (holders, .pending (.apply profile (some ticket)))
  | some (env, answer) => ({ holders with env }, .finished (.answered answer))

/-- Lets a call go on as far as it can. -/
def poll (holders : Holders) : HolderCall → Holders × Progress HolderCall HolderResult
  | .sync number call =>
    let (sync, progress) := (holders.sync number).pollCall call
    (holders.putSync number sync, progress.map (HolderCall.sync number) HolderResult.synced)
  | .route call =>
    let (env, progress) := holders.router.poll holders.env call
    ({ holders with env }, progress.map HolderCall.route HolderResult.routed)
  | .ask request (some ticket) => holders.pollAsked request ticket
  | .ask request none =>
    let (engine, journal, issued) :=
      Session.request holders.env.engine holders.session request
    let holders := { holders with env := { holders.env with engine }.log journal }
    match issued with
    | .error failure => (holders, .finished (.answered (.error failure)))
    | .ok ticket => holders.pollAsked request ticket
  | .apply profile (some ticket) => holders.pollApplied profile ticket
  | .apply profile none =>
    match holders.env.applyProfile holders.session profile with
    | (env, .error failure) => ({ holders with env }, .finished (.answered (.error failure)))
    | (env, .ok ticket) => { holders with env }.pollApplied profile ticket
  | .dispose =>
    let (env, first) := holders.env.disposeSession holders.session
    ({ holders with env }, .finished (.disposed first))

/-- Gives up a call. -/
def cancel (holders : Holders) : HolderCall → Holders
  | .sync number call => holders.putSync number ((holders.sync number).cancelCall call)
  | .route call => { holders with env := Router.cancel holders.env call }
  | .ask _ (some ticket) | .apply _ (some ticket) =>
    { holders with env.engine := holders.env.engine.cancel ticket }
  | .ask _ none | .apply _ none | .dispose => holders

/-- The call that a request becomes. -/
def accept (holders : Holders) : HolderRequest → Option HolderCall
  | .sync number request =>
    if number < holders.ways.length then some (.sync number request.call) else none
  | .route change => some (.route (.arriving change))
  | .ask request => some (.ask request none)
  | .apply profile => some (.apply profile none)
  | .dispose => some .dispose

/-- What the surroundings do; they leave the session to its holders. -/
def surround (holders : Holders) : HolderMove → Holders
  | .release key => { holders with env.engine := holders.env.engine.release key }
  | .grant ticket => { holders with env.engine := holders.env.engine.grant ticket }
  | .refuse refusals => { holders with env.engine.refusals := refusals }
  | .files files => { holders with env.files := files }
  | .source source => { holders with env.source := source }
  | .create sink =>
    match holders.env.engine.create sink with
    | .error _ => holders
    | .ok (engine, _) => { holders with env := { holders.env with engine } }
  | .ask session request =>
    if session = holders.session then holders
    else { holders with env.engine := (Session.request holders.env.engine session request).1 }
  | .dispose session =>
    if session = holders.session then holders
    else { holders with env := (holders.env.disposeSession session).1 }

/-- Calls of the holders of one session. -/
def machine : Machine Holders HolderCall HolderResult HolderRequest HolderMove where
  poll := poll
  drop := cancel
  accept := accept
  move := surround

end Holders

namespace HolderCall

/-- What a call has asked the engine for, and the number of that. -/
def asked? : HolderCall → Option (TicketId × Request)
  | .sync _ call => call.asked?
  | .route (.applying profile ticket) => some (ticket, .configure profile)
  | .ask request (some ticket) => some (ticket, request)
  | .apply profile (some ticket) => some (ticket, .configure profile)
  | _ => none

/-- The requests that a call waits for. -/
def tickets (call : HolderCall) : List TicketId :=
  call.asked?.toList.map (·.1)

/-- The way on which a call is. -/
def way? : HolderCall → Option Nat
  | .sync number _ => some number
  | _ => none

/-- The places of a call in the lanes of a way. -/
def places (number : Nat) : HolderCall → List Place
  | .sync number' call => if number' = number then placesOf call.current?.toList else []
  | _ => []

end HolderCall

namespace Holders
variable {holders holders' : Holders} {call : HolderCall} {calls : List HolderCall}
  {number : Nat}

/-- What is left as it is: whose session it is and which documents each way takes.  Whatever is
asked of the session is asked before it is disposed. -/
structure Steps (holders holders' : Holders) : Prop where
  session : holders'.session = holders.session
  filters : holders'.ways.map (·.1) = holders.ways.map (·.1)
  tidy : holders'.env.Tidy
  asks : Engine.Asks holders.session holders.env.engine holders'.env.engine

theorem Steps.refl (tidy : holders.env.Tidy) : Steps holders holders :=
  ⟨rfl, rfl, tidy, .refl _ _⟩

theorem set_filters (holders : Holders) (number : Nat) (lanes : Lanes) :
    (holders.ways.set number ((holders.way number).1, lanes)).map (·.1) =
      holders.ways.map (·.1) := by
  rw [List.map_set]
  by_cases lt : number < holders.ways.length
  · have here : number < (holders.ways.map (·.1)).length := by simpa using lt
    have own : (holders.way number).1 = (holders.ways.map (·.1))[number] := by simp [way, lt]
    rw [own, List.set_getElem_self]
  · exact List.set_eq_of_length_le (by simpa using lt)

/-- Only the engine and the journal of the environment change. -/
theorem tidy_engine {env : Environment} (tidy : env.Tidy) (engine : Engine) (journal : Journal) :
    ({ env with engine, journal } : Environment).Tidy :=
  ⟨tidy.gates, tidy.subscriptions⟩

theorem Steps.putSync (tidy : holders.env.Tidy) {sync : Sync}
    (goes : (holders.sync number).Goes sync) : Steps holders (holders.putSync number sync) :=
  ⟨rfl, holders.set_filters number sync.lanes, tidy_engine tidy _ _, goes.asks⟩

theorem Steps.trans {holders'' : Holders} (h : Steps holders holders')
    (h' : Steps holders' holders'') : Steps holders holders'' := by
  refine ⟨h'.session.trans h.session, h'.filters.trans h.filters, h'.tidy, h.asks.trans ?_⟩
  rw [← h.session]
  exact h'.asks

theorem steps_asked (tidy : holders.env.Tidy) (request : Request) (ticket : TicketId) :
    Steps holders (holders.pollAsked request ticket).1 := by
  unfold pollAsked
  cases collected : holders.env.engine.collect? ticket with
  | none => exact .refl tidy
  | some outcome => exact ⟨rfl, rfl, ⟨tidy.gates, tidy.subscriptions⟩, .collect? _ collected⟩

theorem steps_applied (tidy : holders.env.Tidy) (profile : Profile) (ticket : TicketId) :
    Steps holders (holders.pollApplied profile ticket).1 := by
  unfold pollApplied
  cases collected : holders.env.collectProfile? profile ticket with
  | none => exact .refl tidy
  | some outcome =>
    have tidies : Environment.Edits .all holders.env outcome.1 :=
      Environment.collectProfile?_edits collected
    exact ⟨rfl, rfl, Environment.Edits.tidy tidies tidy,
      .collect? _ (Environment.collectProfile?_engine collected)⟩

/-- **A call asks the session for something or leaves it alone.** -/
theorem steps_poll (tidy : holders.env.Tidy)
    (there : holders.session < holders.env.engine.sessions.length) (other : call ≠ .dispose) :
    Steps holders (holders.poll call).1 := by
  cases call with
  | sync number call => exact .putSync tidy ((holders.sync number).pollCall_goes call)
  | route call =>
    have tidies : Environment.Edits .all holders.env (holders.router.poll holders.env call).1 :=
      holders.router.poll_edits tidy trivial trivial call
    exact ⟨rfl, rfl, Environment.Edits.tidy tidies tidy,
      Environment.asks_route tidy there holders.router call⟩
  | ask request ticket =>
    cases ticket with
    | some ticket => exact steps_asked tidy request ticket
    | none =>
      have asks : Engine.Asks holders.session holders.env.engine _ :=
        .request holders.session holders.session request
      simp only [poll]
      revert asks
      rcases Session.request holders.env.engine holders.session request with
        ⟨engine, journal, failure | ticket⟩ <;> intro asks
      · exact ⟨rfl, rfl, tidy_engine tidy _ _, asks⟩
      · have first : Steps holders { holders with env := { holders.env with engine }.log journal } :=
          ⟨rfl, rfl, tidy_engine tidy _ _, asks⟩
        exact first.trans (steps_asked first.tidy request ticket)
  | apply profile ticket =>
    cases ticket with
    | some ticket => exact steps_applied tidy profile ticket
    | none =>
      have asks : Engine.Asks holders.session holders.env.engine
          (holders.env.applyProfile holders.session profile).1.engine :=
        Environment.asks_applyProfile _ _ _ profile
      have tidies : Environment.Edits .all holders.env
          (holders.env.applyProfile holders.session profile).1 :=
        Environment.applyProfile_edits holders.env profile trivial
      simp only [poll]
      revert asks tidies
      rcases holders.env.applyProfile holders.session profile with ⟨env, failure | ticket⟩ <;>
        intro asks tidies
      · exact ⟨rfl, rfl, Environment.Edits.tidy tidies tidy, asks⟩
      · have first : Steps holders { holders with env } :=
          ⟨rfl, rfl, Environment.Edits.tidy tidies tidy, asks⟩
        exact first.trans (steps_applied first.tidy profile ticket)
  | dispose => exact absurd rfl other

theorem steps_cancel (tidy : holders.env.Tidy) (call : HolderCall) :
    Steps holders (holders.cancel call) := by
  match call with
  | .sync number call => exact .putSync tidy ((holders.sync number).cancelCall_goes call)
  | .route (.arriving change) | .ask request none | .apply profile none | .dispose =>
    exact .refl tidy
  | .route (.applying profile ticket) | .ask request (some ticket) | .apply profile (some ticket) =>
    exact ⟨rfl, rfl, ⟨tidy.gates, tidy.subscriptions⟩, .cancel _ ticket⟩

/-- A disposal of another session. -/
theorem asks_dispose {engine : Engine} {session other : SessionId} (ne : other ≠ session) :
    Engine.Asks session engine (Session.dispose engine other).1 := by
  unfold Session.dispose
  split
  · exact .refl _ _
  · refine .of_same (by simp [Engine.dispose, Engine.record])
      (Engine.isDisposed_dispose (Ne.symm ne)) ?_
    simp [Engine.callsOf, Engine.dispose, Engine.record, EngineCall.session?, ne]

theorem steps_surround (tidy : holders.env.Tidy)
    (there : holders.session < holders.env.engine.sessions.length) (move : HolderMove) :
    Steps holders (holders.surround move) := by
  cases move with
  | release key => exact ⟨rfl, rfl, ⟨tidy.gates, tidy.subscriptions⟩, .release _ key⟩
  | grant | refuse =>
    exact ⟨rfl, rfl, ⟨tidy.gates, tidy.subscriptions⟩, .of_same (Nat.le_refl _) rfl rfl⟩
  | files | source => exact ⟨rfl, rfl, ⟨tidy.gates, tidy.subscriptions⟩, .refl _ _⟩
  | create sink =>
    simp only [surround]
    cases created : holders.env.engine.create sink with
    | error failure => exact .refl tidy
    | ok outcome =>
      unfold Engine.create at created
      split at created
      · cases created
      · cases created
        refine ⟨rfl, rfl, ⟨tidy.gates, tidy.subscriptions⟩, .of_same ?_ ?_ ?_⟩
        · simp [Engine.record]
        · simp only [Engine.isDisposed, Engine.record, List.getElem?_append_left there]
        · simp [Engine.callsOf, Engine.record, EngineCall.session?, Nat.ne_of_gt there]
  | ask session request =>
    simp only [surround]
    split
    · exact .refl tidy
    · exact ⟨rfl, rfl, ⟨tidy.gates, tidy.subscriptions⟩, .request _ session request⟩
  | dispose session =>
    simp only [surround]
    split
    · exact .refl tidy
    · rename_i other
      exact ⟨rfl, rfl, ⟨tidy.gates, tidy.subscriptions⟩, asks_dispose other⟩

/-! ## Whose requests are under way -/

theorem serves_asked {profile : Profile} {base : Engine} {others : List TicketId}
    {request : Request} {ticket : TicketId}
    (h : holders.env.engine.Served profile base (ticket :: others)) :
    (holders.pollAsked request ticket).1.env.engine.Served profile base
      ((holders.pollAsked request ticket).2.rest.flatMap HolderCall.tickets ++ others) := by
  unfold pollAsked
  cases collected : holders.env.engine.collect? ticket with
  | none => exact h
  | some outcome => exact h.collect? collected

theorem serves_applied {profile asked : Profile} {base : Engine} {others : List TicketId}
    {ticket : TicketId} (h : holders.env.engine.Served profile base (ticket :: others)) :
    (holders.pollApplied asked ticket).1.env.engine.Served profile base
      ((holders.pollApplied asked ticket).2.rest.flatMap HolderCall.tickets ++ others) := by
  unfold pollApplied
  cases collected : holders.env.collectProfile? asked ticket with
  | none => exact h
  | some outcome => exact h.collect? (Environment.collectProfile?_engine collected)

theorem tickets_sync (number : Nat) (call : SyncCall) :
    (HolderCall.sync number call).tickets = call.tickets :=
  call.tickets_eq.symm

theorem tickets_route (call : RouteCall) : (HolderCall.route call).tickets = call.tickets := by
  cases call <;> rfl

/-- A chance makes requests for its own call only. -/
theorem served_poll {others : List TicketId}
    (h : holders.env.engine.Serves (call.tickets ++ others)) :
    ∃ profile, (holders.poll call).1.env.engine.Served profile holders.env.engine
      ((holders.poll call).2.rest.flatMap HolderCall.tickets ++ others) := by
  cases call with
  | sync number call =>
    refine ⟨default, ?_⟩
    rw [tickets_sync] at h
    have served := @Sync.pollCall_served (holders.sync number) others holders.env.engine default call
      h.start
    simp only [poll, Progress.rest_map, List.flatMap_map, tickets_sync]
    exact served
  | route call =>
    refine ⟨holders.env.profile.2, ?_⟩
    rw [tickets_route] at h
    have served := @Environment.routing_served holders.env holders.env.engine others holders.router
      call h.start
    simp only [poll, Progress.rest_map, List.flatMap_map, tickets_route]
    exact served
  | ask request ticket =>
    cases ticket with
    | some ticket => exact ⟨default, serves_asked h.start⟩
    | none =>
      obtain ⟨profile, fits⟩ := request.exists_profile
      have served := h.start.ask holders.session fits
      refine ⟨profile, ?_⟩
      simp only [poll]
      revert served
      rcases Session.request holders.env.engine holders.session request with
        ⟨engine, journal, failure | ticket⟩ <;> intro served
      · exact served
      · exact serves_asked served
  | apply profile ticket =>
    cases ticket with
    | some ticket => exact ⟨profile, serves_applied h.start⟩
    | none =>
      have served := @Environment.applyProfile_served holders.env holders.env.engine profile others
        holders.session h.start
      refine ⟨profile, ?_⟩
      simp only [poll]
      revert served
      rcases holders.env.applyProfile holders.session profile with ⟨env, failure | ticket⟩ <;>
        intro served
      · exact served
      · exact serves_applied served
  | dispose => exact ⟨default, h.start.still (.dispose _ _)⟩

/-- Whoever is given up waits for nothing any more. -/
theorem served_cancel {others : List TicketId}
    (h : holders.env.engine.Serves (call.tickets ++ others)) :
    (holders.cancel call).env.engine.Served default holders.env.engine others := by
  match call with
  | .sync number call =>
    rw [tickets_sync] at h
    exact @Sync.cancelCall_served (holders.sync number) others holders.env.engine default call h.start
  | .route call =>
    rw [tickets_route] at h
    exact Environment.cancelRoute_served h.start
  | .ask request (some ticket) | .apply profile (some ticket) =>
    exact Engine.Served.cancel h.start
  | .ask request none | .apply profile none | .dispose => exact h.start

/-- The surroundings may ask other sessions for something. -/
theorem served_surround {tickets : List TicketId} (h : holders.env.engine.Serves tickets)
    (move : HolderMove) : ∃ profile more,
      (holders.surround move).env.engine.Served profile holders.env.engine (more ++ tickets) := by
  cases move with
  | release key => exact ⟨default, [], h.start.still (.release _ key)⟩
  | grant ticket => exact ⟨default, [], h.start.still (.grant _ ticket)⟩
  | refuse refusals => exact ⟨default, [], h.start.still ⟨rfl, rfl, rfl⟩⟩
  | files | source => exact ⟨default, [], h.start⟩
  | create sink =>
    refine ⟨default, [], h.start.still ?_⟩
    simp only [surround]
    cases created : holders.env.engine.create sink with
    | error failure => exact .refl _
    | ok outcome =>
      unfold Engine.create at created
      split at created
      · cases created
      · cases created
        exact ⟨by simp [Engine.made, Engine.record, EngineCall.asking?], rfl, rfl⟩
  | ask session request =>
    simp only [surround]
    split
    · exact ⟨default, [], h.start⟩
    · obtain ⟨profile, fits⟩ := request.exists_profile
      exact ⟨profile, _, h.start.ask session fits⟩
  | dispose session =>
    refine ⟨default, [], h.start.still ?_⟩
    simp only [surround]
    split
    · exact .refl _
    · exact .dispose _ session

/-- What the engine was asked for under a number. -/
def Has (holders : Holders) (asked : TicketId × Request) : Prop :=
  holders.env.engine.made[asked.1]? = some (holders.session, asked.2)

theorem has_asked {request : Request} {ticket : TicketId} (has : holders.Has (ticket, request)) :
    ∀ next ∈ (holders.pollAsked request ticket).2.rest, ∀ asked ∈ next.asked?,
      (holders.pollAsked request ticket).1.Has asked := by
  intro next mem asked own
  unfold pollAsked at mem ⊢
  cases collected : holders.env.engine.collect? ticket with
  | none =>
    rw [collected] at mem
    rw [List.mem_singleton.mp mem] at own
    cases own
    exact has
  | some outcome =>
    rw [collected] at mem
    cases mem

theorem has_applied {profile : Profile} {ticket : TicketId}
    (has : holders.Has (ticket, .configure profile)) :
    ∀ next ∈ (holders.pollApplied profile ticket).2.rest, ∀ asked ∈ next.asked?,
      (holders.pollApplied profile ticket).1.Has asked := by
  intro next mem asked own
  unfold pollApplied at mem ⊢
  cases collected : holders.env.collectProfile? profile ticket with
  | none =>
    rw [collected] at mem
    rw [List.mem_singleton.mp mem] at own
    cases own
    exact has
  | some outcome =>
    rw [collected] at mem
    cases mem

/-- A call has what it has asked for at the engine. -/
theorem has_poll {others : List TicketId} (h : holders.env.engine.Serves (call.tickets ++ others))
    (has : ∀ asked ∈ call.asked?, holders.Has asked) :
    ∀ next ∈ (holders.poll call).2.rest, ∀ asked ∈ next.asked?,
      (holders.poll call).1.Has asked := by
  cases call with
  | sync number call =>
    rw [tickets_sync] at h
    have kept := @Sync.pollCall_has (holders.sync number) others holders.env.engine default call
      h.start has
    intro next mem asked own
    simp only [poll, Progress.rest_map, List.mem_map] at mem
    obtain ⟨call', there, rfl⟩ := mem
    have goes := ((holders.sync number).pollCall_goes call).session
    have made : (holders.sync number).pollCall call |>.1.Has asked := kept call' there asked own
    unfold Sync.Has at made
    rw [goes] at made
    exact made
  | route call =>
    intro next mem asked own
    simp only [poll, Progress.rest_map, List.mem_map] at mem
    obtain ⟨_ | ⟨profile, ticket⟩, there, rfl⟩ := mem
    · cases own
    · cases own
      rcases Environment.made_route h.counted holders.router (Progress.eq_pending there) with
        ⟨rfl, same⟩ | made
      · show (holders.router.poll holders.env (.applying profile ticket)).1.engine.made[ticket]? =
          some (holders.session, .configure profile)
        rw [same]
        exact has _ rfl
      · exact made
  | ask request ticket =>
    cases ticket with
    | some ticket => exact has_asked (has _ rfl)
    | none =>
      simp only [poll]
      rcases asks : Session.request holders.env.engine holders.session request with
        ⟨engine, journal, failure | ticket⟩
      · exact nofun
      · exact has_asked (h.counted.made_request asks)
  | apply profile ticket =>
    cases ticket with
    | some ticket => exact has_applied (has _ rfl)
    | none =>
      simp only [poll]
      rcases applied : holders.env.applyProfile holders.session profile with
        ⟨env, failure | ticket⟩
      · exact nofun
      · exact has_applied (Environment.made_applyProfile h.counted applied)
  | dispose => exact nofun

/-! ## Every run -/

/-- Everything is as it should be: requests belong to calls, each with its own, and the lanes of
each way hold the places of its calls. -/
structure Sound (holders : Holders) (calls : List HolderCall) : Prop where
  tidy : holders.env.Tidy
  there : holders.session < holders.env.engine.sessions.length
  within : ∀ call ∈ calls, ∀ number ∈ call.way?, number < holders.ways.length
  serves : ∃ elsewhere, holders.env.engine.Serves (calls.flatMap HolderCall.tickets ++ elsewhere)
  has : ∀ call ∈ calls, ∀ asked ∈ call.asked?, holders.Has asked
  lanes : ∀ number, (holders.way number).2.Sound (calls.flatMap (HolderCall.places number))

theorem Sound.perm {calls' : List HolderCall} (h : Sound holders calls) (hp : calls.Perm calls') :
    Sound holders calls' where
  tidy := h.tidy
  there := h.there
  within call mem := h.within call (hp.mem_iff.mpr mem)
  serves := by
    obtain ⟨elsewhere, serves⟩ := h.serves
    exact ⟨elsewhere, serves.perm ((hp.flatMap_right _).append_right _)⟩
  has call mem := h.has call (hp.mem_iff.mpr mem)
  lanes number := (h.lanes number).perm (hp.flatMap_right _)

/-- A call that is accepted has asked for nothing and stands nowhere. -/
theorem accepted_idle {request : HolderRequest} (accepted : holders.accept request = some call) :
    call.asked? = none ∧ (∀ number, call.places number = []) ∧
      ∀ number ∈ call.way?, number < holders.ways.length := by
  cases request with
  | sync number request =>
    simp only [accept] at accepted
    split at accepted
    · cases accepted
      refine ⟨?_, fun number' => ?_, fun number' same => ?_⟩
      · cases request <;> rfl
      · cases request <;> exact ite_self _
      · cases same
        assumption
    · cases accepted
  | route | ask | apply | dispose =>
    cases accepted
    exact ⟨rfl, fun _ => rfl, nofun⟩

theorem Sound.accepts {request : HolderRequest} (h : Sound holders calls)
    (accepted : holders.accept request = some call) : Sound holders (call :: calls) := by
  obtain ⟨asked, places, within⟩ := accepted_idle accepted
  refine ⟨h.tidy, h.there, fun call' mem => ?_, ?_, fun call' mem => ?_, fun number => ?_⟩
  · rcases List.mem_cons.mp mem with rfl | old
    · exact within
    · exact h.within call' old
  · rw [List.flatMap_cons, HolderCall.tickets, asked]
    exact h.serves
  · rcases List.mem_cons.mp mem with rfl | old
    · rw [asked]
      exact nofun
    · exact h.has call' old
  · rw [List.flatMap_cons, places]
    exact h.lanes number

/-- What was asked for stays where it is. -/
theorem Has.later {asked : TicketId × Request} {profile : Profile} {tickets : List TicketId}
    (has : holders.Has asked)
    (served : holders'.env.engine.Served profile holders.env.engine tickets)
    (session : holders'.session = holders.session) : holders'.Has asked := by
  unfold Has
  rw [session]
  exact served.getElem? has

/-- A chance leaves the session to its holders and each way its filter. -/
theorem Sound.same_poll (h : Sound holders (call :: calls)) :
    (holders.poll call).1.session = holders.session ∧
      (holders.poll call).1.ways.map (·.1) = holders.ways.map (·.1) ∧
      (holders.poll call).1.env.Tidy ∧
      holders.session < (holders.poll call).1.env.engine.sessions.length := by
  by_cases other : call = .dispose
  · subst other
    have edits : Environment.Edits .all holders.env
        (holders.env.disposeSession holders.session).1 :=
      Environment.disposeSession_edits holders.env trivial
    exact ⟨rfl, rfl, Environment.Edits.tidy edits h.tidy,
      Nat.lt_of_lt_of_le h.there (Environment.Edits.evolves edits).sessions⟩
  · have steps := steps_poll h.tidy h.there other
    exact ⟨steps.session, steps.filters, steps.tidy,
      Nat.lt_of_lt_of_le h.there steps.asks.sessions⟩

theorem length_ways (filters : holders'.ways.map (·.1) = holders.ways.map (·.1)) :
    holders'.ways.length = holders.ways.length := by
  simpa using congrArg List.length filters

theorem way_putSync (lt : number < holders.ways.length) (number' : Nat) (sync : Sync) :
    ((holders.putSync number sync).way number').2 =
      if number = number' then sync.lanes else (holders.way number').2 := by
  unfold putSync way
  by_cases same : number = number'
  · subst same
    simp [lt]
  · simp [same]

theorem places_of_no_way (nowhere : call.way? = none) (number : Nat) :
    call.places number = [] := by
  cases call with
  | sync => cases nowhere
  | route | ask | apply | dispose => rfl

/-- A call that is on no way leaves the ways as they are. -/
theorem ways_poll (nowhere : call.way? = none) : (holders.poll call).1.ways = holders.ways ∧
    ∀ next ∈ (holders.poll call).2.rest, next.way? = none := by
  have asked (holders : Holders) (request : Request) (ticket : TicketId) :
      (holders.pollAsked request ticket).1.ways = holders.ways ∧
        ∀ next ∈ (holders.pollAsked request ticket).2.rest, next.way? = none := by
    unfold pollAsked
    split
    · exact ⟨rfl, fun next mem => List.mem_singleton.mp mem ▸ rfl⟩
    · exact ⟨rfl, nofun⟩
  have applied (holders : Holders) (profile : Profile) (ticket : TicketId) :
      (holders.pollApplied profile ticket).1.ways = holders.ways ∧
        ∀ next ∈ (holders.pollApplied profile ticket).2.rest, next.way? = none := by
    unfold pollApplied
    split
    · exact ⟨rfl, fun next mem => List.mem_singleton.mp mem ▸ rfl⟩
    · exact ⟨rfl, nofun⟩
  cases call with
  | sync => cases nowhere
  | route call =>
    refine ⟨rfl, fun next mem => ?_⟩
    simp only [poll, Progress.rest_map, List.mem_map] at mem
    obtain ⟨call', -, rfl⟩ := mem
    rfl
  | ask request ticket =>
    cases ticket with
    | some ticket => exact asked holders request ticket
    | none =>
      simp only [poll]
      rcases Session.request holders.env.engine holders.session request with
        ⟨engine, journal, failure | ticket⟩
      · exact ⟨rfl, nofun⟩
      · exact asked _ request ticket
  | apply profile ticket =>
    cases ticket with
    | some ticket => exact applied holders profile ticket
    | none =>
      simp only [poll]
      rcases holders.env.applyProfile holders.session profile with ⟨env, failure | ticket⟩
      · exact ⟨rfl, nofun⟩
      · exact applied _ profile ticket
  | dispose => exact ⟨rfl, nofun⟩

/-- A call stays on its way. -/
theorem way?_poll : ∀ next ∈ (holders.poll call).2.rest, next.way? = call.way? := by
  intro next mem
  cases way : call.way? with
  | none => exact (ways_poll way).2 next mem
  | some number =>
    cases call with
    | sync number' call =>
      simp only [poll, Progress.rest_map, List.mem_map] at mem
      obtain ⟨call', -, rfl⟩ := mem
      exact way
    | route | ask | apply | dispose => cases way

/-- Lanes change on the way of a call only. -/
theorem Sound.lanes_poll (h : Sound holders (call :: calls)) (number : Nat) :
    ((holders.poll call).1.way number).2.Sound
      ((holders.poll call).2.rest.flatMap (HolderCall.places number) ++
        calls.flatMap (HolderCall.places number)) := by
  have lanes := h.lanes number
  rw [List.flatMap_cons] at lanes
  cases none : call.way? with
  | none =>
    obtain ⟨ways, rest⟩ := ways_poll none
    have nowhere : (holders.poll call).2.rest.flatMap (HolderCall.places number) = [] :=
      List.flatMap_eq_nil_iff.mpr fun next mem => places_of_no_way (rest next mem) number
    rw [way, ways, nowhere]
    rw [places_of_no_way none] at lanes
    exact lanes
  | some number' =>
    cases call with
    | sync number'' call =>
      have lt := h.within _ List.mem_cons_self number'' rfl
      simp only [poll, way_putSync lt]
      by_cases same : number'' = number
      · subst same
        rw [HolderCall.places, if_pos rfl] at lanes
        have polled := @Sync.pollCall_lanes (holders.sync number'') _ call lanes
        rw [if_pos rfl]
        revert polled
        rcases (holders.sync number'').pollCall call with ⟨after, next | result⟩ <;> intro polled
        · simpa [Progress.map, HolderCall.places] using polled
        · exact polled
      · rw [if_neg same]
        rw [HolderCall.places, if_neg same] at lanes
        rcases (holders.sync number'').pollCall call with ⟨after, next | result⟩
        · simpa [Progress.map, HolderCall.places, same] using lanes
        · exact lanes
    | route | ask | apply | dispose => cases none

theorem Sound.polls (h : Sound holders (call :: calls)) :
    Sound (holders.poll call).1 ((holders.poll call).2.rest ++ calls) := by
  obtain ⟨session, filters, tidy, there⟩ := h.same_poll
  obtain ⟨elsewhere, serves⟩ := h.serves
  rw [List.flatMap_cons, List.append_assoc] at serves
  obtain ⟨profile, served⟩ := served_poll serves
  refine ⟨tidy, session ▸ there, fun next mem => ?_, ⟨elsewhere, ?_⟩, fun next mem => ?_,
    fun number => ?_⟩
  · rw [length_ways filters]
    rcases List.mem_append.mp mem with own | other
    · rw [way?_poll next own]
      exact h.within call List.mem_cons_self
    · exact h.within next (List.mem_cons_of_mem _ other)
  · rw [List.flatMap_append, List.append_assoc]
    exact served.toServes
  · rcases List.mem_append.mp mem with own | other
    · exact has_poll serves (h.has call List.mem_cons_self) next own
    · exact fun asked here =>
        (h.has next (List.mem_cons_of_mem _ other) asked here).later served session
  · rw [List.flatMap_append]
    exact h.lanes_poll number

theorem Sound.cancels (h : Sound holders (call :: calls)) :
    Sound (holders.cancel call) calls := by
  have steps := steps_cancel h.tidy call
  obtain ⟨elsewhere, serves⟩ := h.serves
  rw [List.flatMap_cons, List.append_assoc] at serves
  have served := served_cancel serves
  refine ⟨steps.tidy, ?_, fun other mem => ?_, ⟨elsewhere, served.toServes⟩, fun other mem => ?_,
    fun number => ?_⟩
  · rw [steps.session]
    exact Nat.lt_of_lt_of_le h.there steps.asks.sessions
  · rw [length_ways steps.filters]
    exact h.within other (List.mem_cons_of_mem _ mem)
  · exact fun asked here =>
      (h.has other (List.mem_cons_of_mem _ mem) asked here).later served steps.session
  · have lanes := h.lanes number
    rw [List.flatMap_cons] at lanes
    match call with
    | .sync number' call =>
      have lt := h.within _ List.mem_cons_self number' rfl
      rw [cancel, way_putSync lt]
      by_cases same : number' = number
      · subst same
        rw [HolderCall.places, if_pos rfl] at lanes
        rw [if_pos rfl]
        exact @Sync.cancelCall_lanes (holders.sync number') _ call lanes
      · rw [if_neg same]
        simpa [HolderCall.places, same] using lanes
    | .route _ | .ask _ none | .ask _ (some _) | .apply _ none | .apply _ (some _) | .dispose =>
      exact lanes

theorem Sound.surrounds (h : Sound holders calls) (move : HolderMove) :
    Sound (holders.surround move) calls := by
  have steps := steps_surround h.tidy h.there move
  obtain ⟨elsewhere, serves⟩ := h.serves
  obtain ⟨profile, more, served⟩ := served_surround serves move
  have ways : (holders.surround move).ways = holders.ways := by
    cases move with
    | release | grant | refuse | files | source => rfl
    | create => simp only [surround]; split <;> rfl
    | ask | dispose => simp only [surround]; split <;> rfl
  refine ⟨steps.tidy, ?_, fun call mem => ?_, ⟨more ++ elsewhere, ?_⟩, fun call mem => ?_,
    fun number => ?_⟩
  · rw [steps.session]
    exact Nat.lt_of_lt_of_le h.there steps.asks.sessions
  · rw [ways]
    exact h.within call mem
  · refine served.toServes.perm ?_
    rw [← List.append_assoc, ← List.append_assoc]
    exact List.perm_append_comm.append_right _
  · exact fun asked here => (h.has call mem asked here).later served steps.session
  · rw [way, ways]
    exact h.lanes number

theorem sound_keeps : machine.Keeps Sound where
  perm hp h := h.perm hp
  accept h accepted := h.accepts accepted
  poll h := h.polls
  drop h := h.cancels
  move way h := h.surrounds way

end Holders
end EngineSync
