import EngineSync.Proofs.TurnedAway

/-!
# After a disposal

Any number of holders use one session, in any order and with any answers.  The first disposal is the
only one that reaches the engine, and the last thing the engine records of the session.  A call that
is still bound for the session then is turned away when its turn comes; it waits only in the lane of
a document, for another call that holds it.  A call that the engine has gets its own answer, as if
nothing had happened.
-/
namespace EngineSync

/-- The answer to a disposal. -/
def HolderResult.disposal? : HolderResult → Option Bool
  | .disposed first => some first
  | _ => none

namespace Holders
variable {holders holders' : Holders} {call : HolderCall} {calls : List HolderCall}

/-! ## Disposals -/

/-- What the disposals have been told, and what the engine has recorded of them: nothing as long as
the session is up; else the first one was told that it did it, and it stands at the end of what is
recorded of the session. -/
inductive Disposals (holders : Holders) (results : List HolderResult) : Prop where
  | up (live : holders.env.engine.isDisposed holders.session = false)
      (told : results.filterMap HolderResult.disposal? = [])
      (recorded : .dispose holders.session ∉ holders.env.engine.callsOf holders.session)
  | down (ended : holders.Ended) (again : Nat) (before : List EngineCall)
      (told : results.filterMap HolderResult.disposal? = true :: List.replicate again false)
      (recorded : holders.env.engine.callsOf holders.session = before ++ [.dispose holders.session])
      (first : .dispose holders.session ∉ before)

theorem Steps.ended (steps : Steps holders holders') (ended : holders.Ended) : holders'.Ended := by
  unfold Ended
  rw [steps.session, steps.asks.disposed]
  exact ended

/-- Nothing is recorded of a session that was disposed. -/
theorem Steps.silent (steps : Steps holders holders') (ended : holders.Ended) :
    holders'.env.engine.callsOf holders'.session = holders.env.engine.callsOf holders.session := by
  obtain ⟨asked, calls, none⟩ := steps.asks.asked
  rw [steps.session, calls, none ended]
  simp

theorem Disposals.steps {results results' : List HolderResult} (h : Disposals holders results)
    (steps : Steps holders holders') (same : results'.filterMap HolderResult.disposal? =
      results.filterMap HolderResult.disposal?) : Disposals holders' results' := by
  cases h with
  | up live told recorded =>
    obtain ⟨asked, calls, -⟩ := steps.asks.asked
    rw [← steps.session] at calls
    refine .up ?_ (same.trans told) ?_
    · rw [steps.session, steps.asks.disposed, live]
    · rw [calls, List.mem_append, steps.session]
      rintro (old | new)
      · exact recorded old
      · obtain ⟨request, -, other⟩ := List.mem_map.mp new
        cases other
  | down ended again before told recorded first =>
    refine .down (steps.ended ended) again before (same.trans told) ?_ ?_
    · rw [steps.silent ended, recorded, steps.session]
    · rw [steps.session]
      exact first

/-- Only a disposal is told whether it disposed the session. -/
theorem disposal?_poll (other : call ≠ .dispose) :
    (holders.poll call).2.result.filterMap HolderResult.disposal? = [] := by
  have asked (holders : Holders) (request : Request) (ticket : TicketId) :
      (holders.pollAsked request ticket).2.result.filterMap HolderResult.disposal? = [] := by
    unfold pollAsked
    split <;> rfl
  have applied (holders : Holders) (profile : Profile) (ticket : TicketId) :
      (holders.pollApplied profile ticket).2.result.filterMap HolderResult.disposal? = [] := by
    unfold pollApplied
    split <;> rfl
  cases call with
  | sync number call =>
    simp only [poll]
    rcases (holders.sync number).pollCall call with ⟨after, next | result⟩ <;> rfl
  | route call =>
    simp only [poll]
    rcases holders.router.poll holders.env call with ⟨env, next | result⟩ <;> rfl
  | ask request ticket =>
    cases ticket with
    | some ticket => exact asked holders request ticket
    | none =>
      simp only [poll]
      rcases Session.request holders.env.engine holders.session request with
        ⟨engine, journal, failure | ticket⟩
      · rfl
      · exact asked _ request ticket
  | apply profile ticket =>
    cases ticket with
    | some ticket => exact applied holders profile ticket
    | none =>
      simp only [poll]
      rcases holders.env.applyProfile holders.session profile with ⟨env, failure | ticket⟩
      · rfl
      · exact applied _ profile ticket
  | dispose => exact absurd rfl other

/-- A disposal of a session that was disposed does nothing. -/
theorem steps_dispose (tidy : holders.env.Tidy) (ended : holders.Ended) :
    Steps holders (holders.poll .dispose).1 ∧
      (holders.poll .dispose).2 = .finished (.disposed false) := by
  have again : Session.dispose holders.env.engine holders.session =
      (holders.env.engine, [], false) := if_pos ended
  simp only [poll, Environment.disposeSession, again, and_true]
  exact ⟨rfl, rfl, tidy_engine tidy _ _, .refl _ _⟩

/-- The first disposal. -/
theorem down_dispose {results : List HolderResult}
    (there : holders.session < holders.env.engine.sessions.length)
    (live : holders.env.engine.isDisposed holders.session = false)
    (told : results.filterMap HolderResult.disposal? = [])
    (recorded : .dispose holders.session ∉ holders.env.engine.callsOf holders.session) :
    (holders.poll .dispose).2 = .finished (.disposed true) ∧
      Disposals (holders.poll .dispose).1 (results ++ [.disposed true]) := by
  have first : Session.dispose holders.env.engine holders.session =
      (holders.env.engine.dispose holders.session, [.disposeSession], true) :=
    if_neg (by simp [live])
  simp only [poll, Environment.disposeSession, first]
  refine ⟨trivial, .down ?_ 0 _ ?_ ?_ recorded⟩
  · simp [Ended, Environment.log, Engine.isDisposed, Engine.dispose, Engine.record, there]
  · rw [List.filterMap_append, told]
    rfl
  · simp [Environment.log, Engine.callsOf, Engine.dispose, Engine.record, EngineCall.session?]

/-! ## One action -/

variable {work : Work Holders HolderCall HolderResult} {action : Action HolderRequest HolderMove}

/-- Calls of the holders are under way, and none of them has a result yet. -/
structure Running (work : Work Holders HolderCall HolderResult) : Prop where
  sound : Sound work.state work.calls
  numbered : work.Numbered
  given : ∀ entry ∈ work.results, entry.1 < work.started
  unanswered : ∀ job ∈ work.jobs, work.resultsOf job.number = []

theorem Running.run (h : Running work) (actions : List (Action HolderRequest HolderMove)) :
    Running (machine.run work actions) where
  sound := sound_keeps.run h.sound actions
  numbered := Machine.numbered_run h.numbered actions
  given := Machine.results_lt_run h.numbered h.given actions
  unanswered := Machine.unanswered_run h.numbered h.given h.unanswered actions

/-- An action that is not the first disposal. -/
theorem Running.steps (h : Running work)
    (later : work.state.Ended ∨ ∀ before after number,
      work.jobs = before ++ ⟨number, .dispose⟩ :: after → action ≠ .poll before.length) :
    Steps work.state (machine.perform work action).state := by
  have tidy := h.sound.tidy
  cases action with
  | start request =>
    simp only [Machine.perform]
    cases machine.accept work.state request <;> exact .refl tidy
  | poll place =>
    cases at_place : work.jobs[place]? with
    | none =>
      rw [Machine.perform_poll_none at_place]
      exact .refl tidy
    | some job =>
      obtain ⟨before, after, split, rfl⟩ := Machine.split_at_place at_place
      rw [Machine.state_poll split]
      obtain ⟨number, call⟩ := job
      by_cases other : call = .dispose
      · subst other
        rcases later with ended | never
        · exact (steps_dispose tidy ended).1
        · exact absurd rfl (never before after number split)
      · exact steps_poll tidy h.sound.there other
  | cancel place =>
    simp only [Machine.perform]
    cases work.jobs[place]? with
    | none => exact .refl tidy
    | some job => exact steps_cancel tidy job.call
  | move way => exact steps_surround tidy h.sound.there way

theorem Running.disposals (h : Running work)
    (account : Disposals work.state (work.results.map (·.2))) :
    Disposals (machine.perform work action).state
      ((machine.perform work action).results.map (·.2)) := by
  by_cases own : ∃ before after number, work.jobs = before ++ ⟨number, .dispose⟩ :: after ∧
      action = .poll before.length
  · obtain ⟨before, after, number, split, rfl⟩ := own
    have told : (machine.perform work (.poll before.length)).results.map (·.2) =
        work.results.map (·.2) ++ (work.state.poll .dispose).2.result := by
      rw [Machine.results_poll split, List.map_append, List.map_map]
      exact congrArg _ (List.map_id _)
    have reached : (machine.perform work (.poll before.length)).state =
        (work.state.poll .dispose).1 := Machine.state_poll split
    rw [told, reached]
    cases account with
    | up live told recorded =>
      obtain ⟨outcome, down⟩ := down_dispose h.sound.there live told recorded
      rw [outcome]
      exact down
    | down ended again first told recorded none =>
      obtain ⟨steps, outcome⟩ := steps_dispose h.sound.tidy ended
      refine .down (steps.ended ended) (again + 1) first ?_ ?_ ?_
      · rw [outcome, List.filterMap_append, told, List.replicate_succ']
        rfl
      · rw [steps.silent ended, steps.session, recorded]
      · rw [steps.session]
        exact none
  · refine account.steps (h.steps (.inr fun before after number split same =>
      own ⟨before, after, number, split, same⟩)) ?_
    cases action with
    | start request =>
      simp only [Machine.perform]
      cases machine.accept work.state request <;> rfl
    | poll place =>
      cases at_place : work.jobs[place]? with
      | none => rw [Machine.perform_poll_none at_place]
      | some job =>
        obtain ⟨before, after, split, rfl⟩ := Machine.split_at_place at_place
        obtain ⟨number, call⟩ := job
        have other : call ≠ .dispose := fun same =>
          own ⟨before, after, number, same ▸ split, rfl⟩
        have none := @disposal?_poll work.state call other
        rw [Machine.results_poll split, List.map_append, List.map_map, List.filterMap_append]
        have same : (work.state.poll call).2.result.map
            ((·.2) ∘ fun result => (number, result)) = (work.state.poll call).2.result :=
          List.map_id _
        exact (congrArg (_ ++ ·) ((congrArg _ same).trans none)).trans (List.append_nil _)
    | cancel place =>
      simp only [Machine.perform]
      cases work.jobs[place]? <;> rfl
    | move way => rfl

/-! ## One call -/

variable {number : Nat} {job : Job HolderCall} {asked : TicketId × Request}
  {actions more : List (Action HolderRequest HolderMove)}

/-- What becomes of a call that is bound for a session that was disposed: it is under way, and with
its next chance it is turned away unless it waits in a lane; or it has been turned away. -/
def Refused (work : Work Holders HolderCall HolderResult) (number : Nat) : Prop :=
  (∃ call before after, work.jobs = before ++ ⟨number, call⟩ :: after ∧
    work.resultsOf number = [] ∧ call.Bound work.state.filters ∧
      TurnsAway work.state ((before ++ after).map (·.call)) call) ∨
  work.call? number = none ∧ ∃ result, work.resultsOf number = [result] ∧
    result.isTurnedAway = true

/-- With this chance a call gets the engine's own answer to what it has asked for.  It ends with it;
documents one after another go on, and are refused if there are more and the session was
disposed. -/
def Concluded (work : Work Holders HolderCall HolderResult) (place : Nat) (job : Job HolderCall)
    (asked : TicketId × Request) : Prop :=
  let answer := work.state.env.engine.answer asked.2
  let after := machine.perform work (.poll place)
  (∃ engine, work.state.env.engine.collect? asked.1 = some (engine, answer)) ∧
    (∀ result, job.call.answered answer = .finished result →
      ∀ more, (machine.run after more).resultsOf job.number = [result]) ∧
    ∀ next, job.call.answered answer = .pending next → work.state.Ended →
      next.Bound work.state.filters → ∀ more, machine.KeepsUp job.number after more →
        Refused (machine.run after more) job.number

/-- A call waits for the engine's answer: nothing else makes it go on. -/
def Awaiting (work : Work Holders HolderCall HolderResult) (job : Job HolderCall)
    (asked : TicketId × Request) : Prop :=
  job ∈ work.jobs ∧ work.resultsOf job.number = [] ∧ ∀ place, work.jobs[place]? = some job →
    work.state.env.engine.Unanswered asked.1 ∧ machine.perform work (.poll place) = work ∨
      Concluded work place job asked

/-- A call is bound for the session, or has been turned away. -/
inductive Barred (work : Work Holders HolderCall HolderResult) (number : Nat) : Prop where
  | bound (call : HolderCall) (found : work.call? number = some call)
      (bound : call.Bound work.state.filters)
  | away (gone : work.call? number = none) (result : HolderResult)
      (told : work.resultsOf number = [result]) (turned : result.isTurnedAway = true)

theorem Running.at_place (h : Running work) {before after : List (Job HolderCall)}
    (split : work.jobs = before ++ job :: after) :
    Sound work.state (job.call :: (before ++ after).map (·.call)) :=
  sound_keeps.at_place h.sound split

theorem Running.mem_split (h : Running work) {call : HolderCall}
    (found : work.call? number = some call) : work.resultsOf number = [] ∧
      ∃ before after, work.jobs = before ++ ⟨number, call⟩ :: after := by
  have mem := Work.mem_of_call? found
  obtain ⟨before, after, split⟩ := List.append_of_mem mem
  exact ⟨h.unanswered _ mem, before, after, split⟩

theorem Barred.refused (h : Running work) (ended : work.state.Ended)
    (barred : Barred work number) : Refused work number := by
  cases barred with
  | bound call found bound =>
    obtain ⟨none, before, after, split⟩ := h.mem_split found
    exact .inl ⟨call, before, after, split, none, bound, (h.at_place split).turns_away ended bound⟩
  | away gone result told turned => exact .inr ⟨gone, result, told, turned⟩

/-- A chance that turns its call away. -/
theorem Running.barred_poll (h : Running work) {before after : List (Job HolderCall)}
    (split : work.jobs = before ++ job :: after)
    (same : (work.state.poll job.call).1.filters = work.state.filters)
    (turns : TurnsAway work.state ((before ++ after).map (·.call)) job.call) :
    Barred (machine.perform work (.poll before.length)) job.number := by
  have found := @Machine.call?_poll_own _ _ _ _ _ machine _ h.numbered _ _ _ split
  have told := @Machine.resultsOf_poll _ _ _ _ _ machine _ _ _ _ split job.number
  have none := h.unanswered job (by simp [split])
  rw [none, if_pos rfl, List.nil_append] at told
  have state : (machine.perform work (.poll before.length)).state =
      (work.state.poll job.call).1 := Machine.state_poll split
  rcases turns with ⟨result, outcome, turned⟩ | ⟨next, outcome, bound, -⟩
  · refine .away ?_ result ?_ turned
    · exact found.trans (congrArg (·.rest.head?) outcome)
    · exact told.trans (congrArg Progress.result outcome)
  · refine .bound next (found.trans (congrArg (·.rest.head?) outcome)) ?_
    rw [state, same]
    exact bound

theorem Running.barred_perform (h : Running work) (ended : work.state.Ended)
    (barred : Barred work number) (given : number < work.started)
    (kept : ¬Machine.GivesUp number work action) :
    Barred (machine.perform work action) number := by
  have steps := @Running.steps work action h (.inl ended)
  cases barred with
  | bound call found bound =>
    rcases Machine.kept_perform h.numbered found kept with ⟨same, -⟩ | ⟨before, after, split, rfl⟩
    · refine .bound call same ?_
      rw [filters, steps.filters]
      exact bound
    · refine @Running.barred_poll work ⟨number, call⟩ h _ _ split ?_
        ((h.at_place split).turns_away ended bound)
      have filters := steps.filters
      rw [Machine.state_poll split] at filters
      exact filters
  | away gone result told turned =>
    obtain ⟨gone', told'⟩ := Machine.gone_perform given gone action
    exact .away gone' result (told'.trans told) turned

theorem Running.barred_run (h : Running work) (ended : work.state.Ended)
    (barred : Barred work number) (given : number < work.started)
    (kept : machine.KeepsUp number work more) : Refused (machine.run work more) number := by
  induction more generalizing work with
  | nil => exact barred.refused h ended
  | cons action rest ih =>
    obtain ⟨first, later⟩ := kept
    exact ih (h.run [action]) ((h.steps (.inl ended)).ended ended)
      (h.barred_perform ended barred given first)
      (Nat.lt_of_lt_of_le given (Machine.started_le work action)) later

/-- **What a chance does for a call that waits for an answer.** -/
theorem Running.chance (h : Running work) (own : job.call.asked? = some asked) {place : Nat}
    (at_place : work.jobs[place]? = some job) :
    work.state.env.engine.Unanswered asked.1 ∧ machine.perform work (.poll place) = work ∨
      Concluded work place job asked := by
  obtain ⟨before, after, split, rfl⟩ := Machine.split_at_place at_place
  have sound := h.at_place split
  cases collected : work.state.env.engine.collect? asked.1 with
  | none =>
    exact .inl ⟨Engine.unanswered_of_collect? (sound.underway own) collected,
      Machine.perform_poll_idle split (poll_unanswered own collected)⟩
  | some outcome =>
    obtain ⟨engine, answer⟩ := outcome
    obtain rfl := sound.own_answer own collected
    obtain ⟨ends, goes⟩ := sound.answered own collected
    have given := h.numbered.given job (by simp [split])
    have started := Nat.lt_of_lt_of_le given
      (@Machine.started_le _ _ _ _ _ machine work (.poll before.length))
    refine .inr ⟨⟨engine, collected⟩, fun result same more => ?_,
      fun next same ended bound more kept => ?_⟩
    · have gone := @Machine.call?_poll_own _ _ _ _ _ machine _ h.numbered _ _ _ split
      have told := @Machine.resultsOf_poll _ _ _ _ _ machine _ _ _ _ split job.number
      rw [h.unanswered job (by simp [split]), if_pos rfl, List.nil_append] at told
      exact ((Machine.gone_run started (gone.trans (congrArg (·.rest.head?) (ends result same)))
        more).2).trans (told.trans (congrArg Progress.result (ends result same)))
    · have steps := @Running.steps work (.poll before.length) h (.inl ended)
      have filters := steps.filters
      rw [Machine.state_poll split] at filters
      exact (h.run [.poll before.length]).barred_run (steps.ended ended)
        (h.barred_poll split filters (goes next same ended bound)) started kept

theorem Running.awaiting (h : Running work) (mem : job ∈ work.jobs)
    (own : job.call.asked? = some asked) : Awaiting work job asked :=
  ⟨mem, h.unanswered job mem, fun _ at_place => h.chance own at_place⟩

/-- A call that waits for an answer waits on, or gets it. -/
theorem Running.awaiting_run (h : Running work) (mem : job ∈ work.jobs)
    (own : job.call.asked? = some asked) (kept : machine.KeepsUp job.number work more) :
    Awaiting (machine.run work more) job asked ∨ ∃ earlier place rest,
      more = earlier ++ .poll place :: rest ∧ Concluded (machine.run work earlier) place job asked := by
  induction more generalizing work with
  | nil => exact .inl (h.awaiting mem own)
  | cons action rest ih =>
    obtain ⟨first, later⟩ := kept
    have go (there : job ∈ (machine.perform work action).jobs) :
        Awaiting (machine.run work (action :: rest)) job asked ∨ ∃ earlier place rest',
          action :: rest = earlier ++ .poll place :: rest' ∧
            Concluded (machine.run work earlier) place job asked := by
      rcases ih (h.run [action]) there later with waits | ⟨earlier, place, rest', same, concluded⟩
      · exact .inl waits
      · exact .inr ⟨action :: earlier, place, rest', by rw [same]; rfl, concluded⟩
    rcases Machine.kept_perform h.numbered (h.numbered.call?_of_mem mem) first with
      ⟨same, -⟩ | ⟨before, after, split, rfl⟩
    · exact go (Work.mem_of_call? same)
    · have at_place : work.jobs[before.length]? = some job := by simp [split]
      rcases h.chance own at_place with ⟨-, idle⟩ | concluded
      · exact go (by rw [idle]; exact mem)
      · exact .inr ⟨[], before.length, rest, rfl, concluded⟩

/-! ## Every run -/

/-- Whose session it is stays as it is. -/
theorem session_keeps (session : SessionId) : machine.Keeps fun holders calls =>
    Sound holders calls ∧ holders.session = session where
  perm hp h := ⟨h.1.perm hp, h.2⟩
  accept h accepted := ⟨h.1.accepts accepted, h.2⟩
  poll h := ⟨h.1.polls, h.1.same_poll.1.trans h.2⟩
  drop h := ⟨h.1.cancels, (steps_cancel h.1.tidy _).session.trans h.2⟩
  move way h := ⟨h.1.surrounds way, (steps_surround h.1.tidy h.1.there way).session.trans h.2⟩

theorem Running.disposals_run (h : Running work)
    (account : Disposals work.state (work.results.map (·.2))) :
    Disposals (machine.run work actions).state
      ((machine.run work actions).results.map (·.2)) := by
  induction actions generalizing work with
  | nil => exact account
  | cons action rest ih => exact ih (h.run [action]) (h.disposals account)

theorem Running.silent_run (h : Running work) (ended : work.state.Ended) :
    (machine.run work more).state.env.engine.callsOf (machine.run work more).state.session =
      work.state.env.engine.callsOf work.state.session := by
  induction more generalizing work with
  | nil => rfl
  | cons action rest ih =>
    have steps := @Running.steps work action h (.inl ended)
    exact (ih (h.run [action]) (steps.ended ended)).trans (steps.silent ended)

/-- Nobody is on the way yet. -/
theorem running_idle (tidy : holders.env.Tidy) (counted : holders.env.engine.Counted)
    (there : holders.session < holders.env.engine.sessions.length)
    (empty : ∀ way ∈ holders.ways, way.2 = .empty) : Running (.idle holders) where
  sound := by
    refine ⟨tidy, there, nofun, ⟨holders.env.engine.underway, counted, .refl _⟩, nofun,
      fun number => ?_⟩
    have none : (holders.way number).2 = .empty := by
      unfold way
      cases found : holders.ways[number]? with
      | none => rfl
      | some way => exact empty way (List.mem_of_getElem? found)
    show (holders.way number).2.Sound []
    rw [none]
    exact Lanes.sound_empty
  numbered := .idle holders
  given := nofun
  unanswered := nofun

/-- **Nothing reaches a session that was disposed.**  Whatever the holders of a session do, with any
answers of the engine: the first disposal is told that it did it, any other one that it did not, and
the first one is the last thing recorded of the session.  A call that the engine has gets its own
answer, before and after.  A call that is bound for the session when it is disposed, or comes later,
and is not given up is turned away, as soon as it does not wait in a lane for another one. -/
theorem nothing_reaches_disposed {holders : Holders} (tidy : holders.env.Tidy)
    (counted : holders.env.engine.Counted)
    (there : holders.session < holders.env.engine.sessions.length)
    (live : holders.env.engine.isDisposed holders.session = false)
    (unrecorded : .dispose holders.session ∉ holders.env.engine.callsOf holders.session)
    (empty : ∀ way ∈ holders.ways, way.2 = .empty)
    (actions : List (Action HolderRequest HolderMove)) :
    let work := machine.run (.idle holders) actions
    (work.state.session = holders.session ∧
      Disposals work.state (work.results.map (·.2))) ∧
    (work.state.Ended → ∀ more,
      (machine.run work more).state.env.engine.callsOf holders.session =
        work.state.env.engine.callsOf holders.session) ∧
    (∀ job ∈ work.jobs, ∀ asked ∈ job.call.asked?, ∀ more,
      machine.KeepsUp job.number work more → Awaiting (machine.run work more) job asked ∨
        ∃ earlier place rest, more = earlier ++ .poll place :: rest ∧
          Concluded (machine.run work earlier) place job asked) ∧
    (work.state.Ended → ∀ job ∈ work.jobs, job.call.Bound work.state.filters → ∀ more,
      machine.KeepsUp job.number work more → Refused (machine.run work more) job.number) := by
  intro work
  have outset := running_idle tidy counted there empty
  have running : Running work := outset.run actions
  have same (more : List (Action HolderRequest HolderMove)) :
      (machine.run (.idle holders) more).state.session = holders.session :=
    ((session_keeps holders.session).run ⟨outset.sound, rfl⟩ more).2
  refine ⟨⟨same actions, outset.disposals_run (.up live rfl unrecorded)⟩, fun ended more => ?_,
    fun job mem asked own more kept => running.awaiting_run mem own kept,
    fun ended job mem bound more kept => ?_⟩
  · have silent := @Running.silent_run work more running ended
    have later : (machine.run work more).state.session = holders.session := by
      rw [← machine.run_append]
      exact same (actions ++ more)
    rw [later, same actions] at silent
    exact silent
  · exact running.barred_run ended (.bound job.call (running.numbered.call?_of_mem mem) bound)
      (running.numbered.given job mem) kept

/-- Of three changes on two ways the engine has the first one, the second one waits behind it and
the third one has not run; then the session is disposed twice. -/
theorem nothing_reaches_disposed_of_two_ways :
    let doc (name : String) (version : Int) : Document :=
      ⟨⟨"file:///" ++ name ++ ".qs"⟩, "qsharp", version, "", false⟩
    let engine : Engine := { Engine.initial ⟨false, false, false⟩ ⟨false, false, false, []⟩
      ["file:///x.qs@1"] with sessions := [⟨false, none⟩] }
    let holders : Holders := ⟨.initial engine ⟨.directory []⟩ (.memory .standard) [], 0, 0,
      [(⟨"qsharp"⟩, .empty), (⟨"qsharp"⟩, .empty)]⟩
    let actions : List (Action HolderRequest HolderMove) :=
      [.start (.sync 0 (.changed (doc "x" 1))), .poll 0, .start (.sync 0 (.changed (doc "x" 2))),
        .poll 1, .start (.sync 1 (.changed (doc "x" 3))), .start .dispose, .start .dispose, .poll 4,
        .poll 3]
    let work := machine.run (.idle holders) actions
    work.results = [(4, .disposed true), (3, .disposed false)] ∧
      work.jobs.map (·.number) = [0, 1, 2] ∧
      (∀ more, (machine.run work more).state.env.engine.callsOf 0 =
        [.request 0 (.update ⟨"file:///x.qs"⟩ 1 ""), .dispose 0]) ∧
      (∃ call, work.call? 0 = some call ∧ Awaiting work ⟨0, call⟩
        (0, .update ⟨"file:///x.qs"⟩ 1 "")) ∧
      ∀ number ∈ [1, 2], ∀ more, machine.KeepsUp number work more →
        Refused (machine.run work more) number := by
  intro doc engine holders actions work
  have ended : work.state.Ended := by
    show work.state.env.engine.isDisposed work.state.session = true
    decide +kernel
  have results : work.results = [(4, .disposed true), (3, .disposed false)] := by decide +kernel
  have jobs : work.jobs =
      [⟨0, .sync 0 (.forward ⟨doc "x" 1, false, .calling 0 0 0⟩)⟩,
        ⟨1, .sync 0 (.forward ⟨doc "x" 2, false, .queued 0 1⟩)⟩,
        ⟨2, .sync 1 (.forward (.update (doc "x" 3)))⟩] := by decide +kernel
  have calls : work.state.env.engine.callsOf 0 =
      [.request 0 (.update ⟨"file:///x.qs"⟩ 1 ""), .dispose 0] := by decide +kernel
  have filters : work.state.filters = [⟨"qsharp"⟩, ⟨"qsharp"⟩] := by decide +kernel
  have reached : machine.run (.idle holders) actions = work := rfl
  have nothing := @nothing_reaches_disposed holders ⟨nofun, nofun⟩
    ⟨rfl, .nil, nofun⟩ (by decide) rfl (by decide) (by decide) actions
  dsimp only at nothing
  rw [reached] at nothing
  clear_value work
  obtain ⟨-, silent, answers, refuses⟩ := nothing
  have own : work.call? 0 = some (.sync 0 (.forward ⟨doc "x" 1, false, .calling 0 0 0⟩)) := by
    simp [Work.call?, jobs]
  refine ⟨results, by simp [jobs], fun more => (silent ended more).trans calls,
    ⟨_, own, ?_⟩, fun number mem more kept => ?_⟩
  · rcases answers _ (Work.mem_of_call? own) _ rfl [] trivial with waits | ⟨earlier, _, _, none, -⟩
    · exact waits
    · exact absurd none (by simp)
  · rcases List.mem_cons.mp mem with rfl | mem
    · have second : (⟨1, .sync 0 (.forward ⟨doc "x" 2, false, .queued 0 1⟩)⟩ : Job HolderCall) ∈
          work.jobs := by simp [jobs]
      exact refuses ended _ second trivial more kept
    · obtain rfl := List.mem_singleton.mp mem
      have third : (⟨2, .sync 1 (.forward (.update (doc "x" 3)))⟩ : Job HolderCall) ∈
          work.jobs := by simp [jobs]
      refine refuses ended _ third ?_ more kept
      rw [filters]
      rfl

end Holders
end EngineSync
