import Mathlib.Algebra.Order.Ring.Int
import EngineSync.Proofs.Links

/-!
# Nobody waits for ever

Where no call can take a step, each of them waits for something that goes back to an answer still
to come: a lane is held by a call whose request the engine has, and a barrier is closed by an
activation whose text the engine has.  Whichever answer comes next lets a call go on, and what calls
have still to do grows less (`World.effort`).  So answers, in any order and with any failures, leave
no call behind.
-/
namespace EngineSync

/-- An answered request can be collected. -/
theorem Engine.collect?_grant {engine : Engine} {ticket : TicketId}
    (under : ticket ∈ engine.underway) : (engine.grant ticket).collect? ticket ≠ none := by
  obtain ⟨claim, mem, rfl⟩ := List.mem_map.mp under
  obtain ⟨entry, there, rfl⟩ := List.mem_map.mp mem
  unfold Engine.collect?
  have is_entry : entry.claim.1 = entry.id := rfl
  rw [is_entry]
  cases found : (engine.grant entry.id).tickets.find? (·.id = entry.id) with
  | none =>
    have other := List.find?_eq_none.mp found { entry with granted := true }
      (List.mem_map.mpr ⟨entry, there, if_pos rfl⟩)
    simp at other
  | some entry' =>
    have same : entry'.id = entry.id := by simpa using List.find?_some found
    obtain ⟨old, -, changed⟩ := List.mem_map.mp (List.mem_of_find?_eq_some found)
    have granted : entry'.granted = true := by
      by_cases own : old.id = entry.id
      · rw [if_pos own] at changed
        rw [← changed]
      · rw [if_neg own] at changed
        exact absurd (changed ▸ same) own
    simp [granted]

namespace Call

/-- The listener outside that a call waits for. -/
def outside? : Call → Option Nat
  | .publish (.delivering ⟨_, some (.outside number), _⟩) => some number
  | _ => none

/-- A call waits for one request at most. -/
theorem tickets_eq_of_mem {call : Call} {ticket ticket' : TicketId} (mem : ticket ∈ call.tickets)
    (mem' : ticket' ∈ call.tickets) : ticket = ticket' := by
  have one (forwarding : Forwarding) : forwarding.tickets.length ≤ 1 := by
    unfold Forwarding.tickets
    cases forwarding.ticket? <;> simp
  have current (call : SyncCall) : call.tickets.length ≤ 1 := by
    unfold SyncCall.tickets
    cases call.current? with
    | none => exact Nat.zero_le 1
    | some forwarding => simpa using one forwarding
  have le : call.tickets.length ≤ 1 := by
    match call with
    | .activate _ .arriving | .publish (.arriving _) | .publish (.delivering ⟨_, none, _⟩)
    | .publish (.delivering ⟨_, some (.outside _), _⟩)
    | .publish (.delivering ⟨_, some (.activation _ .arriving), _⟩)
    | .publish (.delivering ⟨_, some (.activation _ (.routing (.arriving _))), _⟩) =>
      exact Nat.zero_le 1
    | .activate _ (.configuring ..)
    | .publish (.delivering ⟨_, some (.activation _ (.routing (.applying ..))), _⟩) =>
      exact Nat.le_refl 1
    | .publish (.delivering ⟨_, some (.activation _ (.forwarding forwarding)), _⟩) =>
      exact one forwarding
    | .activate _ (.replaying _ _ replay) => exact current (.replay replay)
    | .sync _ call => exact current call
  match tickets : call.tickets with
  | [] => rw [tickets] at mem; cases mem
  | [only] =>
    rw [tickets] at mem mem'
    rw [List.mem_singleton.mp mem, List.mem_singleton.mp mem']
  | _ :: _ :: _ => rw [tickets] at le; simp at le

end Call

namespace World
variable {world world' : World} {call : Call} {calls : List Call} {id : ActivationId}
  {notes : List WorldNote} {progress : Progress Call CallResult}
  {work : Work World Call CallResult} {answer : WorldMove}

theorem Waits.hasRun (waits : Waits world call) : call.HasRun := by
  match call with
  | .activate name .arriving | .publish (.arriving event) =>
    cases waits with
    | engine mem unanswered => cases mem
    | lane stands queued taken => cases stands
  | .activate _ (.configuring ..) | .activate _ (.replaying ..) | .publish (.delivering _)
  | .sync _ _ => trivial

/-- Whoever waits has no answer. -/
theorem Waits.unanswered {ticket : TicketId} (waits : Waits world call)
    (mem : ticket ∈ call.tickets) : world.env.engine.collect? ticket = none := by
  cases waits with
  | engine mem' unanswered => exact Call.tickets_eq_of_mem mem mem' ▸ unanswered
  | lane stands queued taken =>
    rw [Call.tickets_of_standing stands, Sync.tickets_queued queued] at mem
    cases mem
  | barrier | listener => cases mem

/-! ## Chances -/

/-- No call can take a step: a chance changes nothing. -/
def Stuck (work : Work World Call CallResult) : Prop :=
  ∀ place, World.machine.perform work (.poll place) = work

/-- What calls have still to do. -/
def effort (world : World) (calls : List Call) : Nat :=
  (calls.map fun call => call.effort world.env.openDocuments.length + 1).sum

/-- All calls have run, and everything is as it should be. -/
structure Going (work : Work World Call CallResult) : Prop where
  linked : Linked work.state work.calls
  run : ∀ call ∈ work.calls, call.HasRun

/-- **A chance changes nothing or leaves less to do.** -/
theorem Going.poll (h : Going work) (place : Nat) :
    Going (World.machine.perform work (.poll place)) ∧
      (World.machine.perform work (.poll place) = work ∨
        effort (World.machine.perform work (.poll place)).state
            (World.machine.perform work (.poll place)).calls < effort work.state work.calls) := by
  cases at_place : work.jobs[place]? with
  | none =>
    rw [Machine.perform_poll_none at_place]
    exact ⟨h, .inl rfl⟩
  | some job =>
    obtain ⟨before, after, split, rfl⟩ := Machine.split_at_place at_place
    have first := linked_tells.keeps.at_place h.linked split
    have run := h.run job.call (List.mem_map_of_mem (List.mem_of_getElem? at_place))
    have linked := linked_tells.keeps.perform h.linked (.poll before.length)
    have calls : (World.machine.perform work (.poll before.length)).calls =
        before.map (·.call) ++ (work.state.poll job.call).2.rest ++ after.map (·.call) := by
      rw [Machine.perform_poll split]
      simp [Work.calls, World.machine, Function.comp_def]
    have here : work.calls = before.map (·.call) ++ [job.call] ++ after.map (·.call) := by
      simp [Work.calls, split]
    refine ⟨⟨linked, fun call mem => ?_⟩, ?_⟩
    · rw [calls] at mem
      rcases List.mem_append.mp mem with mem | mem
      · rcases List.mem_append.mp mem with mem | mem
        · exact h.run call (here ▸ List.mem_append_left _ (List.mem_append_left _ mem))
        · exact hasRun_poll first.sound run call mem
      · exact h.run call (here ▸ List.mem_append_right _ mem)
    · rcases poll_further first.sound run with waits | less
      · exact .inl (Machine.perform_poll_idle split waits)
      · refine .inr ?_
        have state : (World.machine.perform work (.poll before.length)).state =
            (work.state.poll job.call).1 := Machine.state_poll split
        have shrinks : ((work.state.poll job.call).2.rest.map fun call =>
            call.effort work.state.env.openDocuments.length + 1).sum <
              job.call.effort work.state.env.openDocuments.length + 1 := by
          revert less
          cases (work.state.poll job.call).2 with
          | pending next => exact fun less => by simpa using less next List.mem_cons_self
          | finished result => exact fun _ => Nat.succ_pos _
        simp only [effort, state, first.sound.openDocuments_poll, calls, here, List.map_append,
          List.sum_append, List.map_cons, List.map_nil, List.sum_cons, List.sum_nil]
        omega

/-- Chances one after another change nothing or leave less to do. -/
theorem Going.polls (h : Going work) (places : List Nat) :
    Going (World.machine.run work (places.map .poll)) ∧
      (World.machine.run work (places.map .poll) = work ∨
        effort (World.machine.run work (places.map .poll)).state
            (World.machine.run work (places.map .poll)).calls < effort work.state work.calls) := by
  induction places generalizing work with
  | nil => exact ⟨h, .inl rfl⟩
  | cons place places ih =>
    obtain ⟨next, first⟩ := h.poll place
    obtain ⟨last, later⟩ := ih next
    refine ⟨last, ?_⟩
    rw [List.map_cons, Machine.run_cons]
    rcases first with same | less
    · rw [same] at later ⊢
      exact later
    · refine .inr ?_
      rcases later with same | further
      · rw [same]
        exact less
      · exact Nat.lt_trans further less

/-- Calls that get their chances come to where none of them can take a step. -/
theorem Going.settles (h : Going work) :
    ∃ places : List Nat, Stuck (World.machine.run work (places.map .poll)) := by
  induction left : effort work.state work.calls using Nat.strong_induction_on
    generalizing work with
  | _ left ih =>
    by_cases stuck : Stuck work
    · exact ⟨[], stuck⟩
    · obtain ⟨place, moves⟩ := not_forall.mp stuck
      obtain ⟨next, same | less⟩ := h.poll place
      · exact absurd same moves
      · obtain ⟨places, settled⟩ := ih _ (left ▸ less) next rfl
        exact ⟨place :: places, settled⟩

/-! ## Where nobody can go on -/

theorem Stuck.waits (stuck : Stuck work) : ∀ call ∈ work.calls, Waits work.state call := by
  intro call mem
  obtain ⟨job, there, rfl⟩ := List.mem_map.mp mem
  obtain ⟨place, at_place⟩ := List.mem_iff_getElem?.mp there
  obtain ⟨before, after, split, rfl⟩ := Machine.split_at_place at_place
  have same := congrArg Work.jobs (stuck before.length)
  rw [Machine.perform_poll split] at same
  refine waits_of_idle ?_
  cases outcome : (work.state.poll job.call).2 with
  | pending next =>
    have outcome' : (World.machine.poll work.state job.call).2 = .pending next := outcome
    rw [split, outcome'] at same
    have same : (⟨job.number, next⟩ : Job Call) = job := by simpa using same
    exact congrArg (Progress.pending ·.call) same
  | finished result =>
    have outcome' : (World.machine.poll work.state job.call).2 = .finished result := outcome
    rw [split, outcome'] at same
    simp at same

theorem Stuck.going (stuck : Stuck work) (linked : Linked work.state work.calls) : Going work :=
  ⟨linked, fun call mem => (stuck.waits call mem).hasRun⟩

/-- Where no call goes on, nothing can take a step. -/
theorem stuck_of_idle (linked : Linked work.state work.calls)
    (idle : ∀ call ∈ work.calls, (work.state.poll call).2 = .pending call) : Stuck work := by
  intro place
  cases at_place : work.jobs[place]? with
  | none => exact Machine.perform_poll_none at_place
  | some job =>
    obtain ⟨before, after, split, rfl⟩ := Machine.split_at_place at_place
    have mem : job.call ∈ work.calls := List.mem_map_of_mem (List.mem_of_getElem? at_place)
    have first := linked_tells.keeps.at_place linked split
    have still := idle job.call mem
    refine Machine.perform_poll_idle split ?_
    rcases poll_further first.sound (waits_of_idle still).hasRun with waits | less
    · exact waits
    · rw [still] at less
      exact absurd (less job.call List.mem_cons_self) (Nat.lt_irrefl _)

/-! ## Answers -/

/-- An answer that is still to come: of the engine to a request, or of a listener outside. -/
inductive Awaited (world : World) (calls : List Call) : WorldMove → Prop
  | engine {ticket} (unanswered : world.env.engine.Unanswered ticket) :
      Awaited world calls (.grant ticket)
  | listener {call number} (mem : call ∈ calls) (outside : call.outside? = some number)
      (unanswered : world.outsideAnswers.lookup number = none)
      (result : Except EngineFailure Unit) : Awaited world calls (.answer number result)

/-- Where calls wait, some answer is still to come. -/
theorem Linked.awaited (linked : Linked world calls) (waits : ∀ call ∈ calls, Waits world call)
    (some_left : calls ≠ []) : (∃ ticket, world.env.engine.Unanswered ticket) ∨
      ∃ call ∈ calls, ∃ number, call.outside? = some number ∧
        world.outsideAnswers.lookup number = none := by
  obtain ⟨call, mem⟩ := List.exists_mem_of_ne_nil calls some_left
  cases waits call mem with
  | @engine _ ticket asked unanswered =>
    exact .inl ⟨ticket, linked.attended.unanswered mem asked unanswered⟩
  | lane stands queued taken =>
    obtain ⟨_, _, _, _, _, _, held⟩ := linked.holder waits mem stands queued
    cases held with
    | @engine turn ticket calling holds unanswered => exact .inl ⟨ticket, unanswered⟩
  | barrier closed =>
    have lt := linked.sound.orderly.ids_lt _ mem _ List.mem_cons_self
    obtain ⟨_, _, _, _, _, ticket, _, _, unanswered⟩ := linked.activator waits lt closed
    exact .inl ⟨ticket, unanswered⟩
  | @listener event number waiting unanswered =>
    exact .inr ⟨_, mem, number, rfl, unanswered⟩

/-- What an answer makes of a world, whatever the engine refuses from then on. -/
def replied (work : Work World Call CallResult) (refusals : Refusals) (answer : WorldMove) :
    Work World Call CallResult :=
  World.machine.run work [.move (.refuse refusals), .move answer]

/-- **After an answer somebody can go on.** -/
theorem Awaited.moves (awaited : Awaited work.state work.calls answer) (linked : Linked work.state work.calls)
    (refusals : Refusals) : ¬Stuck (replied work refusals answer) := by
  intro stuck
  cases awaited with
  | @engine ticket unanswered =>
    have under : ticket ∈ work.state.env.engine.underway := by
      obtain ⟨entry, there, rfl, -⟩ := unanswered
      exact List.mem_map_of_mem (List.mem_map_of_mem there)
    obtain ⟨call, mem, own⟩ := List.mem_flatMap.mp (linked.attended.owners.mem_iff.mp under)
    exact @Engine.collect?_grant { work.state.env.engine with refusals } ticket under
      ((stuck.waits call mem).unanswered own)
  | @listener call number mem outside unanswered result =>
    have found : (work.state.outsideAnswers ++ [(number, result)]).lookup number ≠ none := by
      simp [List.lookup_append]
    match call with
    | .publish (.delivering ⟨_, some (.outside _), _⟩) =>
      cases outside
      cases stuck.waits _ mem with
      | engine asked => cases asked
      | lane stands => cases stands
      | listener unanswered => exact found unanswered

/-- **Answers drain the calls**: after so many no call is left, in whatever order they come,
whatever the engine refuses, and whichever calls get their chances first.  After each of them calls
go on until none of them can. -/
def Drains : Nat → Work World Call CallResult → Prop
  | 0, work => work.jobs = []
  | answers + 1, work => work.jobs = [] ∨
    (∃ answer, Awaited work.state work.calls answer) ∧
      ∀ answer refusals, Awaited work.state work.calls answer →
        (∃ places : List Nat,
          Stuck (World.machine.run (replied work refusals answer) (places.map .poll))) ∧
        ∀ places : List Nat,
          Stuck (World.machine.run (replied work refusals answer) (places.map .poll)) →
          Drains answers (World.machine.run (replied work refusals answer) (places.map .poll))

theorem Linked.replied (linked : Linked work.state work.calls) (refusals : Refusals)
    (answer : WorldMove) : Linked (replied work refusals answer).state
      (replied work refusals answer).calls :=
  linked_tells.keeps.run linked _

theorem Awaited.effort (awaited : Awaited work.state work.calls answer) (refusals : Refusals) :
    effort (replied work refusals answer).state (replied work refusals answer).calls =
      effort work.state work.calls := by
  cases awaited <;> rfl

theorem drains_of_stuck {answers : Nat} (linked : Linked work.state work.calls)
    (stuck : Stuck work) (left : effort work.state work.calls ≤ answers) :
    Drains answers work := by
  induction answers generalizing work with
  | zero =>
    -- every call has something to do
    have empty : work.calls = [] := by
      cases calls : work.calls with
      | nil => rfl
      | cons call rest =>
        rw [calls] at left
        simp [World.effort] at left
    exact List.map_eq_nil_iff.mp empty
  | succ answers ih =>
    by_cases none : work.jobs = []
    · exact .inl none
    refine .inr ⟨?_, fun answer refusals awaited => ?_⟩
    · have some_left : work.calls ≠ [] := fun empty => none (List.map_eq_nil_iff.mp empty)
      rcases linked.awaited stuck.waits some_left with ⟨ticket, unanswered⟩ |
        ⟨call, mem, number, outside, unanswered⟩
      · exact ⟨_, .engine unanswered⟩
      · exact ⟨_, .listener mem outside unanswered (.ok ())⟩
    · have going : Going (World.replied work refusals answer) :=
        ⟨linked.replied refusals answer, fun call mem =>
          (stuck.going linked).run call (by cases awaited <;> exact mem)⟩
      refine ⟨going.settles, fun places settled => ?_⟩
      obtain ⟨later, same | less⟩ := going.polls places
      · exact absurd (same ▸ settled) (awaited.moves linked refusals)
      · rw [awaited.effort refusals] at less
        exact ih later.linked settled (Nat.le_of_lt_succ (Nat.lt_of_lt_of_le less left))

end World

/-- **No deadlock.**  Whatever was done before, and whichever calls were given up: where no call can
take a step, whoever waits in the lane of a document waits for another call that holds it with a
request that the engine has not answered; whoever waits at the barrier of an activation waits for
its replay, whose text the engine has not answered; some answer is still to come as long as there
are calls; and answers, in any order and with any failures, leave none of them. -/
theorem no_deadlock (outset : Outset) (ledger : Ledger)
    (actions : List (Action WorldRequest WorldMove)) :
    let work := World.machine.run (outset.host ledger) actions
    World.Stuck work →
      (∀ job ∈ work.jobs, ∀ id forwarding lane turn,
        job.call.standing? = some (id, forwarding) → forwarding.stage = .queued lane turn →
          ∃ other ∈ work.jobs, other.number ≠ job.number ∧
            ∃ held, other.call.standing? = some (id, held) ∧
              held.doc.uri = forwarding.doc.uri ∧ World.Held work.state id held lane) ∧
      (∀ job ∈ work.jobs, ∀ event id waiting,
        job.call = .publish (.delivering ⟨event, some (.activation id .arriving), waiting⟩) →
          ∃ other ∈ work.jobs, ∃ name settings replay,
            other.call = .activate name (.replaying id settings replay) ∧
            ∃ forwarding ticket, replay.current = some forwarding ∧ forwarding.closes = false ∧
              forwarding.ticket? = some ticket ∧ work.state.env.engine.Unanswered ticket) ∧
      (work.jobs ≠ [] → (∃ ticket, work.state.env.engine.Unanswered ticket) ∨
        ∃ job ∈ work.jobs, ∃ number, job.call.outside? = some number ∧
          work.state.outsideAnswers.lookup number = none) ∧
      ∃ answers, World.Drains answers work := by
  intro work stuck
  have linked : World.Linked work.state work.calls := World.linked_run outset ledger actions
  have numbered : work.Numbered := Machine.numbered_run (.idle _) actions
  have waits := stuck.waits
  refine ⟨fun job there id forwarding lane turn stands queued => ?_,
    fun job there event id waiting same => ?_, fun some_left => ?_, _,
    World.drains_of_stuck linked stuck (Nat.le_refl _)⟩
  · obtain ⟨call, mem, ne, held, stands', uri, holds⟩ :=
      linked.holder waits (List.mem_map_of_mem there) stands queued
    obtain ⟨other, there', rfl⟩ := List.mem_map.mp mem
    refine ⟨other, there', fun same => ne ?_, held, stands', uri, holds⟩
    have own := numbered.call?_of_mem there'
    rw [same, numbered.call?_of_mem there] at own
    exact (Option.some.inj own).symm
  · have mem : job.call ∈ work.calls := List.mem_map_of_mem there
    have closed : (work.state.activation id).barrier = .replaying := by
      have waiting := waits job.call mem
      rw [same] at waiting
      cases waiting with
      | engine asked => cases asked
      | lane stands => cases stands
      | barrier closed => exact closed
    have lt : id < work.state.activations.length :=
      linked.sound.orderly.ids_lt _ mem id (by rw [same]; exact List.mem_cons_self)
    obtain ⟨name, settings, replay, activates, forwarding, ticket, current, asked, unanswered⟩ :=
      linked.activator waits lt closed
    obtain ⟨docs, -, sending⟩ :=
      World.Replaying.sending ((World.told_host outset ledger actions).2 _ activates)
    obtain ⟨other, there', same'⟩ := List.mem_map.mp activates
    exact ⟨other, there', name, settings, replay, same', forwarding, ticket, current,
      sending.updates forwarding current, asked, unanswered⟩
  · have calls : work.calls ≠ [] := fun empty => some_left (List.map_eq_nil_iff.mp empty)
    rcases linked.awaited waits calls with unanswered | ⟨call, mem, number, outside, unanswered⟩
    · exact .inl unanswered
    · obtain ⟨job, there, rfl⟩ := List.mem_map.mp mem
      exact .inr ⟨job, there, number, outside, unanswered⟩

/-- The activation `b` replays a document whose text the engine has, an event waits at its barrier,
and one of two changes of another document waits for the first; a third one was given up. -/
theorem no_deadlock_of_two_activations :
    let doc (name : String) (version : Int) : Document :=
      ⟨⟨"file:///" ++ name ++ ".qs"⟩, "qsharp", version, "", false⟩
    let outset : Outset := ⟨⟨false, false, false⟩, ⟨false, false, false, []⟩,
      ["file:///d.qs@1", "file:///x.qs@2"], ⟨.directory [("engine.wasm", .file [0])]⟩,
      .memory .standard, [], "qsharp", "engine.wasm"⟩
    let actions : List (Action WorldRequest WorldMove) :=
      [.start (.activate "a"), .poll 0, .move (.documents [doc "d" 1]), .start (.activate "b"),
        .poll 0, .start (.publish (.changed (doc "x" 2))), .poll 1,
        .start (.publish (.changed (doc "x" 3))), .poll 2,
        .start (.publish (.changed (doc "x" 4))), .poll 3, .cancel 3,
        .start (.publish (.configuration ⟨["editor.fontSize"]⟩)), .poll 3]
    let work := World.machine.run (outset.host .empty) actions
    World.Stuck work ∧ work.jobs.map (·.number) = [1, 2, 3, 5] ∧
      (∃ other ∈ work.jobs, other.number ≠ 3 ∧ ∃ held, other.call.standing? = some (0, held) ∧
        held.doc.uri = (doc "x" 3).uri ∧ World.Held work.state 0 held 0) ∧
      (∃ other ∈ work.jobs, ∃ name settings replay,
        other.call = .activate name (.replaying 1 settings replay) ∧
        ∃ forwarding ticket, replay.current = some forwarding ∧ forwarding.closes = false ∧
          forwarding.ticket? = some ticket ∧ work.state.env.engine.Unanswered ticket) ∧
      ∃ answers, World.Drains answers work := by
  intro doc outset actions work
  have stuck : World.Stuck work := by
    refine World.stuck_of_idle (World.linked_run outset .empty actions) ?_
    decide +kernel
  have queued : work.jobs[2]?.map (fun job => (job.number, job.call.standing?)) =
      some (3, some (0, ⟨doc "x" 3, false, .queued 0 1⟩)) := by decide +kernel
  have waiting : work.jobs[3]?.map (·.call) = some (.publish (.delivering
      ⟨.configuration ⟨["editor.fontSize"]⟩, some (.activation 1 .arriving), []⟩)) := by
    decide +kernel
  have numbers : work.jobs.map (·.number) = [1, 2, 3, 5] := by decide +kernel
  have reached : World.machine.run (outset.host .empty) actions = work := rfl
  have waits := no_deadlock outset .empty actions
  dsimp only at waits
  rw [reached] at waits
  clear_value work
  obtain ⟨lanes, barriers, -, drains⟩ := waits stuck
  obtain ⟨second, at_lane, same⟩ := Option.map_eq_some_iff.mp queued
  obtain ⟨number, stands⟩ := Prod.mk.inj same
  obtain ⟨third, at_barrier, delivers⟩ := Option.map_eq_some_iff.mp waiting
  have held := lanes second (List.mem_of_getElem? at_lane) 0 _ 0 1 stands rfl
  rw [number] at held
  exact ⟨stuck, numbers, held,
    barriers third (List.mem_of_getElem? at_barrier) _ 1 _ delivers, drains⟩

end EngineSync
