import EngineSync.Proofs.Edits
import EngineSync.Proofs.LaneOrder
import EngineSync.Scenario.Disposal

/-!
# Disposals inside each other

The release action of a handle may dispose any handles, itself and those that are just being
disposed included, and these run their own release actions before it goes on.  `Family.Acts` says
how these calls nest, one inside the other, and what happens in which order; `Family.run`, which
works off one agenda, does the same (`Family.run_acts`), so every course of disposals comes to an
end.

What is kept along a course is one equation about each handle: its release action sets out once if
the handle is spent by then and was not before, and else never (`Family.Acts.spends`).
-/
namespace EngineSync

/-- What happens to a handle: its release action sets out, or a call that disposes it returns and
tells whether it was this call that ran the action. -/
inductive DisposalEvent where
  | started (id : HandleId)
  | returned (id : HandleId) (ran : Bool)
deriving DecidableEq, Repr

namespace Handles
variable {ρ : Type} {table : Handles ρ} {id other : HandleId}

/-- Whether there is a handle whose release action was taken. -/
def isSpent (table : Handles ρ) (id : HandleId) : Bool :=
  (table.get? id).any Handle.isDisposed

theorem not_isSpent_of_pending? {release : String × ρ} (found : table.pending? id = some release) :
    table.isSpent id = false := by
  obtain ⟨handle, at_id, held⟩ := Option.bind_eq_some_iff.mp found
  obtain ⟨action, there, -⟩ := Option.map_eq_some_iff.mp held
  simp [isSpent, at_id, Handle.isDisposed, there]

theorem isSpent_retire (lt : id < table.all.length) :
    (table.retire id).isSpent other = (decide (other = id) || table.isSpent other) := by
  unfold isSpent get? retire
  by_cases same : other = id
  · subst same
    simp [List.getElem?_eq_getElem lt, Handle.isDisposed]
  · simp [same, Ne.symm same]

theorem isSpent_add (label : String) (release : ρ) :
    (table.add label release).1.isSpent id = table.isSpent id := by
  unfold isSpent get? add
  by_cases lt : id < table.all.length
  · rw [List.getElem?_append_left lt]
  · rw [List.getElem?_append_right (Nat.le_of_not_lt lt),
      List.getElem?_eq_none (Nat.le_of_not_lt lt)]
    cases id - table.all.length <;> simp [Handle.isDisposed]

/-- A handle that is there is live just as long as it is not spent. -/
theorem isLive_iff : table.isLive id = true ↔ id < table.all.length ∧ table.isSpent id = false := by
  unfold isLive pending? isSpent
  cases found : table.get? id with
  | none =>
    have out := List.getElem?_eq_none_iff.mp found
    simp [Nat.not_lt.mpr out]
  | some handle =>
    have lt := (List.getElem?_eq_some_iff.mp found).1
    cases held : handle.release <;> simp [lt, Handle.isDisposed, held]

end Handles

namespace Family
open DisposalEvent

/-! ## Courses of disposals -/

/-- What part of a release action does that makes no other action run; disposing a handle that is
spent is such a part, disposing one that is live is not. -/
def plain? (family : Family) : ReleaseStep → Option (List DisposalEvent × Family)
  | .note note => some ([], family.report note)
  | .look owner other =>
    some ([], family.report (.looked owner other ((family.find? other).map family.handles.isDisposed)))
  | .dispose owner other =>
    match family.find? other with
    | none => some ([], family.report (.disposed owner other none))
    | some id =>
      match family.handles.pending? id with
      | none => some ([returned id false], family.report (.disposed owner other (some false)))
      | some _ => none

/-- Parts of release actions one after another, with what happens meanwhile.  A handle that is live
runs its own release action before the call that disposes it returns. -/
inductive Acts : Family → List ReleaseStep → List DisposalEvent → Family → Prop where
  | done (family) : Acts family [] [] family
  | plain {family step log between rest log' after} (does : family.plain? step = some (log, between))
      (more : Acts between rest log' after) : Acts family (step :: rest) (log ++ log') after
  | nested {family owner other id label action log between rest log' after}
      (found : family.find? other = some id)
      (live : family.handles.pending? id = some (label, action))
      (inner : Acts (family.take id label) action log between)
      (more : Acts (between.report (.disposed owner other (some true))) rest log' after) :
      Acts family (.dispose owner other :: rest)
        (started id :: log ++ returned id true :: log') after

/-- A call that disposes a handle: what happens until it returns, and whether it ran the action. -/
inductive Disposes (family : Family) (id : HandleId) : List DisposalEvent → Family → Bool → Prop where
  | spent (gone : family.handles.pending? id = none) :
      Disposes family id [returned id false] family false
  | ran {label action log after} (live : family.handles.pending? id = some (label, action))
      (inner : Acts (family.take id label) action log after) :
      Disposes family id (started id :: log ++ [returned id true]) after true

/-- A call that disposes a handle, with what happened until it returned. -/
structure Visit where
  id : HandleId
  log : List DisposalEvent
  ran : Bool
deriving DecidableEq, Repr

/-- Handles are disposed one after another. -/
inductive Visits : Family → List HandleId → List Visit → Family → Prop where
  | done (family) : Visits family [] [] family
  | next {family id rest log between ran visits after}
      (disposes : family.Disposes id log between ran) (more : Visits between rest visits after) :
      Visits family (id :: rest) (⟨id, log, ran⟩ :: visits) after

variable {family after after' : Family} {agenda : List ReleaseStep} {log log' : List DisposalEvent}
  {id other : HandleId} {ran ran' : Bool} {ids : List HandleId} {visits visits' : List Visit}

theorem plain?_dispose_live {owner name label : String} {action : ReleaseAction}
    (found : family.find? name = some id)
    (live : family.handles.pending? id = some (label, action)) :
    family.plain? (.dispose owner name) = none := by
  simp [plain?, found, live]

namespace Acts

/-- What stands first on an agenda is done before the rest. -/
theorem split {first rest : List ReleaseStep} (acts : Acts family (first ++ rest) log after) :
    ∃ log₁ between log₂, Acts family first log₁ between ∧ Acts between rest log₂ after ∧
      log = log₁ ++ log₂ := by
  generalize whole : first ++ rest = agenda at acts
  induction acts generalizing first with
  | done family =>
    obtain ⟨rfl, rfl⟩ := List.append_eq_nil_iff.mp whole
    exact ⟨[], family, [], .done family, .done family, rfl⟩
  | @plain family step log between rest' log' after does more ih =>
    cases first with
    | nil =>
      obtain rfl : rest = step :: rest' := whole
      exact ⟨[], family, log ++ log', .done family, .plain does more, rfl⟩
    | cons step first =>
      obtain ⟨rfl, tail⟩ := List.cons.inj whole
      obtain ⟨log₁, middle, log₂, acts, later, rfl⟩ := ih tail
      exact ⟨log ++ log₁, middle, log₂, .plain does acts, later, (List.append_assoc ..).symm⟩
  | @nested family owner other id label action log between rest' log' after found live inner more _ ih =>
    cases first with
    | nil =>
      obtain rfl : rest = .dispose owner other :: rest' := whole
      exact ⟨[], family, _, .done family, .nested found live inner more, rfl⟩
    | cons step first =>
      obtain ⟨rfl, tail⟩ := List.cons.inj whole
      obtain ⟨log₁, middle, log₂, acts, later, rfl⟩ := ih tail
      exact ⟨_, middle, log₂, .nested found live inner acts, later, by simp⟩

/-- There is one course only. -/
theorem unique (acts : Acts family agenda log after) (acts' : Acts family agenda log' after') :
    log' = log ∧ after' = after := by
  induction acts generalizing log' after' with
  | done family =>
    cases acts'
    exact ⟨rfl, rfl⟩
  | plain does more ih =>
    cases acts' with
    | plain does' more' =>
      cases does.symm.trans does'
      obtain ⟨rfl, rfl⟩ := ih more'
      exact ⟨rfl, rfl⟩
    | nested found live => cases (plain?_dispose_live found live).symm.trans does
  | nested found live inner more ih ih' =>
    cases acts' with
    | plain does' => cases (plain?_dispose_live found live).symm.trans does'
    | nested found' live' inner' more' =>
      cases found.symm.trans found'
      cases live.symm.trans live'
      obtain ⟨rfl, rfl⟩ := ih inner'
      obtain ⟨rfl, rfl⟩ := ih' more'
      exact ⟨rfl, rfl⟩

end Acts

/-! ## Working off an agenda -/

theorem run_plain {step : ReleaseStep} {rest : List ReleaseStep}
    (does : family.plain? step = some (log, after)) :
    family.run (step :: rest) = after.run rest := by
  cases step with
  | note note =>
    cases does
    rw [run]
  | look owner other =>
    cases does
    rw [run]
  | dispose owner other =>
    simp only [plain?] at does
    rw [run]
    cases found : family.find? other with
    | none =>
      rw [found] at does
      cases does
      rfl
    | some id =>
      simp only [found] at does ⊢
      split at does
      · next gone =>
        cases does
        split
        · rfl
        · next live => cases gone.symm.trans live
      · cases does

theorem run_nested {owner name label : String} {action : ReleaseAction} {rest : List ReleaseStep}
    (found : family.find? name = some id)
    (live : family.handles.pending? id = some (label, action)) :
    family.run (.dispose owner name :: rest) =
      (family.take id label).run (action ++ .note (.disposed owner name (some true)) :: rest) := by
  rw [run]
  simp only [found]
  split
  · next gone => cases gone.symm.trans live
  · next label' action' live' =>
    cases live.symm.trans live'
    rfl

/-- **Working off an agenda runs the actions inside each other**, and it comes to an end. -/
theorem run_acts (family : Family) (agenda : List ReleaseStep) :
    ∃ log, Acts family agenda log (family.run agenda) := by
  have plain {family between : Family} {step : ReleaseStep} {rest : List ReleaseStep}
      {log : List DisposalEvent} (does : family.plain? step = some (log, between))
      (more : ∃ log', Acts between rest log' (between.run rest)) :
      ∃ log', Acts family (step :: rest) log' (family.run (step :: rest)) := by
    obtain ⟨log', acts⟩ := more
    exact ⟨log ++ log', by rw [run_plain does]; exact .plain does acts⟩
  induction family, agenda using Family.run.induct with
  | case1 family => exact ⟨[], by rw [run]; exact .done family⟩
  | case2 family note rest ih => exact plain rfl ih
  | case3 family owner other rest ih => exact plain rfl ih
  | case4 family owner other rest missing ih =>
    have does : family.plain? (.dispose owner other) =
        some ([], family.report (.disposed owner other none)) := by simp [plain?, missing]
    exact plain does ih
  | case5 family owner other rest id found gone ih =>
    have does : family.plain? (.dispose owner other) =
        some ([returned id false], family.report (.disposed owner other (some false))) := by
      simp [plain?, found, gone]
    exact plain does ih
  | case6 family owner other rest id found label action live _ ih =>
    -- the action stands in front of the rest, and the note between them tells where it ends
    obtain ⟨log, acts⟩ := ih
    obtain ⟨inner, between, later, first, second, rfl⟩ := acts.split
    rw [run_nested found live]
    cases second with
    | plain does more =>
      cases does
      exact ⟨_, .nested found live first more⟩

theorem dispose_disposes (family : Family) (id : HandleId) :
    ∃ log, Disposes family id log (family.dispose id).1 (family.dispose id).2 := by
  unfold dispose
  split
  · next gone => exact ⟨_, .spent gone⟩
  · next label action live =>
    obtain ⟨log, acts⟩ := run_acts (family.take id label) action
    exact ⟨_, .ran live acts⟩

theorem Disposes.unique (disposes : Disposes family id log after ran)
    (disposes' : Disposes family id log' after' ran') : log' = log ∧ after' = after ∧ ran' = ran := by
  cases disposes with
  | spent gone =>
    cases disposes' with
    | spent gone' => exact ⟨rfl, rfl, rfl⟩
    | ran live' => cases gone.symm.trans live'
  | ran live inner =>
    cases disposes' with
    | spent gone' => cases gone'.symm.trans live
    | ran live' inner' =>
      cases live.symm.trans live'
      obtain ⟨rfl, rfl⟩ := inner.unique inner'
      exact ⟨rfl, rfl, rfl⟩

/-- Disposing handles one after another is a row of such calls, and the count is that of the calls
that ran an action. -/
theorem disposeEach_visits (family : Family) (ids : List HandleId) :
    ∃ visits, Visits family ids visits (disposeEach dispose family ids).1 ∧
      (disposeEach dispose family ids).2 = visits.countP (·.ran) := by
  induction ids generalizing family with
  | nil => exact ⟨[], .done family, rfl⟩
  | cons id rest ih =>
    obtain ⟨log, disposes⟩ := dispose_disposes family id
    simp only [disposeEach]
    revert disposes
    rcases family.dispose id with ⟨between, ran⟩
    intro disposes
    obtain ⟨visits, more, count⟩ := ih between
    refine ⟨⟨id, log, ran⟩ :: visits, .next disposes more, ?_⟩
    rw [List.countP_cons, ← count]
    cases ran <;> rfl

theorem Visits.unique (visited : Visits family ids visits after)
    (visited' : Visits family ids visits' after') : visits' = visits ∧ after' = after := by
  induction visited generalizing visits' after' with
  | done family =>
    cases visited'
    exact ⟨rfl, rfl⟩
  | next disposes more ih =>
    cases visited' with
    | next disposes' more' =>
      obtain ⟨rfl, rfl, rfl⟩ := disposes.unique disposes'
      obtain ⟨rfl, rfl⟩ := ih more'
      exact ⟨rfl, rfl⟩

theorem Visits.map_id (visited : Visits family ids visits after) : visits.map (·.id) = ids := by
  induction visited with
  | done => rfl
  | next _ _ ih => rw [List.map_cons, ih]

/-! ## What a course does to each handle -/

/-- What a course does to the handles: their number stays, and of each one the action sets out, and
a call returns that ran it, once if it is spent by now and was not before, and else never. -/
structure Spends (log : List DisposalEvent) (family after : Family) : Prop where
  length : after.handles.all.length = family.handles.all.length
  runs : ∀ id, log.count (started id) + (family.handles.isSpent id).toNat =
    (after.handles.isSpent id).toNat
  returns : ∀ id, log.count (returned id true) = log.count (started id)

namespace Spends
variable {between : Family}

theorem refl (family : Family) : Spends [] family family :=
  ⟨rfl, fun _ => by simp, fun _ => rfl⟩

theorem trans (h : Spends log family between) (h' : Spends log' between after) :
    Spends (log ++ log') family after where
  length := h'.length.trans h.length
  runs id := by
    have first := h.runs id
    have second := h'.runs id
    rw [List.count_append]
    omega
  returns id := by rw [List.count_append, List.count_append, h.returns, h'.returns]

/-- What is no handle makes no difference. -/
theorem of_eq (h : Spends log family after) (before : family.handles = between.handles) :
    Spends log between after :=
  ⟨before ▸ h.length, before ▸ h.runs, h.returns⟩

/-- A handle that runs its action is spent from the start. -/
theorem nested {label : String} {action : ReleaseAction}
    (live : family.handles.pending? id = some (label, action))
    (inner : Spends log (family.take id label) after) :
    Spends (DisposalEvent.started id :: log ++ [DisposalEvent.returned id true]) family after := by
  have lt := Handles.lt_of_pending? live
  refine ⟨?_, fun other => ?_, fun other => ?_⟩
  · rw [inner.length]
    exact List.length_modify ..
  · have equation := inner.runs other
    rw [take, Handles.isSpent_retire lt] at equation
    by_cases same : other = id
    · subst same
      have fresh := Handles.not_isSpent_of_pending? live
      simp [fresh] at equation ⊢
      omega
    · simpa [same, Ne.symm same] using equation
  · by_cases same : other = id
    · subst same
      simp [inner.returns]
    · simp [inner.returns, Ne.symm same]

end Spends

theorem plain?_spends {step : ReleaseStep} (does : family.plain? step = some (log, after)) :
    Spends log family after := by
  cases step with
  | note note =>
    cases does
    exact (Spends.refl _).of_eq rfl
  | look owner other =>
    cases does
    exact (Spends.refl _).of_eq rfl
  | dispose owner other =>
    simp only [plain?] at does
    split at does
    · cases does
      exact (Spends.refl _).of_eq rfl
    · split at does
      · cases does
        exact ⟨rfl, fun _ => by simp [report], fun _ => by simp⟩
      · cases does

theorem Acts.spends (acts : Acts family agenda log after) : Spends log family after := by
  induction acts with
  | done family => exact .refl family
  | plain does _ ih => exact (plain?_spends does).trans ih
  | @nested family owner other id label action log between rest log' after found live _ _ ih ih' =>
    have rest : Spends log' between after := ih'.of_eq rfl
    simpa using (Spends.nested live ih).trans rest

theorem Disposes.spends (disposes : Disposes family id log after ran) : Spends log family after := by
  cases disposes with
  | spent gone => exact ⟨rfl, fun _ => by simp, fun _ => by simp⟩
  | ran live inner => exact .nested live inner.spends

theorem Visits.spends (visited : Visits family ids visits after) :
    Spends (visits.flatMap (·.log)) family after := by
  induction visited with
  | done family => exact .refl family
  | next disposes _ ih => exact disposes.spends.trans ih

/-- A handle is live after a course if it was live before and its action did not set out. -/
theorem Spends.isLive_iff (spends : Spends log family after) :
    after.handles.isLive id = true ↔ family.handles.isLive id = true ∧ started id ∉ log := by
  have once := spends.runs id
  rw [Handles.isLive_iff, Handles.isLive_iff, spends.length, ← List.count_eq_zero]
  revert once
  cases family.handles.isSpent id <;> cases after.handles.isSpent id <;> intro once <;>
    simp at once ⊢ <;> omega

theorem Disposes.ran_iff (disposes : Disposes family id log after ran) :
    ran = true ↔ family.handles.isLive id = true := by
  cases disposes with
  | spent gone => simp [Handles.isLive, gone]
  | ran live => simp [Handles.isLive, live]

/-- Whoever is disposed is not live any more. -/
theorem Disposes.gone (disposes : Disposes family id log after ran) :
    after.handles.isLive id = false := by
  rw [Bool.eq_false_iff, Ne, disposes.spends.isLive_iff]
  rintro ⟨live, fresh⟩
  cases disposes with
  | spent gone => simp [Handles.isLive, gone] at live
  | ran live inner => simp at fresh

/-- **A visited handle runs its action** if it was live at the start and no earlier visit has run
it, be it that of the same handle or one whose action has disposed it. -/
theorem Visits.ran_iff (visited : Visits family ids visits after) {before later : List Visit}
    {visit : Visit} (split : visits = before ++ visit :: later) :
    visit.ran = true ↔ family.handles.isLive visit.id = true ∧
      ∀ earlier ∈ before, started visit.id ∉ earlier.log := by
  induction visited generalizing before with
  | done => simp at split
  | next disposes more ih =>
    cases before with
    | nil =>
      obtain ⟨rfl, rfl⟩ := List.cons.inj split
      simpa using disposes.ran_iff
    | cons first before =>
      obtain ⟨rfl, rest⟩ := List.cons.inj split
      rw [ih rest, disposes.spends.isLive_iff]
      simp [and_assoc]

theorem Visits.gone (visited : Visits family ids visits after) :
    ∀ id ∈ ids, after.handles.isLive id = false := by
  induction visited with
  | done => nofun
  | @next family id rest log between ran visits after disposes more ih =>
    intro other mem
    rcases List.mem_cons.mp mem with rfl | later
    · rw [Bool.eq_false_iff, Ne, more.spends.isLive_iff, disposes.gone]
      simp
    · exact ih other later

end Family

namespace Scenario.Disposal.State
open Family DisposalEvent

/-! ## Sequences of steps -/

/-- The state at the start of a step, which has no notes yet. -/
def unnoted (state : State) : State :=
  { state with family := { state.family with notes := [] } }

/-- The handles that a step disposes, in order. -/
def disposed (state : State) : Step → List HandleId
  | .dispose id => (state.family.find? id).toList
  | .makeOwner owner | .disposeAll owner | .dropOwner owner =>
    ((state.owners.lookup owner).map (·.held.reverse)).getD []
  | _ => []

/-- Steps one after another. -/
def run (state : State) (steps : List Step) : State :=
  steps.foldl (fun state step => (state.step step).1) state

/-- Steps one after another, with the calls that dispose handles. -/
inductive Course : State → List Step → List Visit → State → Prop where
  | done (state : State) : Course state [] [] state
  | next {state : State} {step steps visits family visits' after}
      (visited : state.unnoted.family.Visits (state.disposed step) visits family)
      (more : Course (state.step step).1 steps visits' after) :
      Course state (step :: steps) (visits ++ visits') after

variable {state after after' : State} {steps : List Step} {visits visits' : List Visit}
  {family : Family}

/-- An owner is torn down. -/
theorem disposeAll_visits (family : Family) (owner : Disposables) :
    ∃ visits after, family.Visits owner.held.reverse visits after ∧
      (family.disposeAll owner).1.handles = after.handles ∧
      (family.disposeAll owner).2 = visits.countP (·.ran) := by
  obtain ⟨visits, visited, count⟩ := disposeEach_visits family owner.held.reverse
  refine ⟨visits, _, visited, ?_, ?_⟩
  · unfold Family.disposeAll
    dsimp only
    split <;> rfl
  · rw [← count]
    unfold Family.disposeAll
    dsimp only
    split <;> rfl

theorem dropOwner_visits (state : State) (owner : String) :
    ∃ visits after,
      state.family.Visits (((state.owners.lookup owner).map (·.held.reverse)).getD []) visits after ∧
      (state.dropOwner owner).family.handles = after.handles := by
  unfold dropOwner
  cases found : state.owners.lookup owner with
  | none => exact ⟨[], _, .done _, rfl⟩
  | some disposables =>
    obtain ⟨visits, after, visited, handles, -⟩ := disposeAll_visits state.family disposables
    exact ⟨visits, after, visited, handles⟩

/-- What is done with a handle is done with the one that has the name, if there is one. -/
theorem withHandle_elim {P : State × Answer → Prop} (state : State) (name : String)
    {answer : HandleId → State × Answer}
    (missing : state.family.find? name = none → P (state, .refused noHandle))
    (found : ∀ id, state.family.find? name = some id → P (answer id)) :
    P (state.withHandle name answer) := by
  unfold withHandle
  cases named : state.family.find? name with
  | none => exact missing named
  | some id => exact found id named

/-- What is done with an owner is done with the one that has the name, if there is one. -/
theorem withOwner_elim {P : State × Answer → Prop} (state : State) (name : String)
    {answer : Disposables → State × Answer}
    (missing : state.owners.lookup name = none → P (state, .refused noOwner))
    (found : ∀ owner, state.owners.lookup name = some owner → P (answer owner)) :
    P (state.withOwner name answer) := by
  unfold withOwner
  cases named : state.owners.lookup name with
  | none => exact missing named
  | some owner => exact found owner named

theorem step_dispose {name : String} {id : HandleId} (found : state.family.find? name = some id) :
    state.step (.dispose name) =
      ({ state with family := (state.unnoted.family.dispose id).1 },
        .flag (state.unnoted.family.dispose id).2) := by
  have here : state.unnoted.family.find? name = some id := found
  show state.unnoted.withHandle name _ = _
  rw [withHandle, here]
  rfl

theorem step_disposeAll {name : String} {owner : Disposables}
    (found : state.owners.lookup name = some owner) :
    state.step (.disposeAll name) =
      (State.setOwner { state with family := (state.unnoted.family.disposeAll owner).1 } name .empty,
        .count (state.unnoted.family.disposeAll owner).2) := by
  have here : state.unnoted.owners.lookup name = some owner := found
  show state.unnoted.withOwner name _ = _
  rw [withOwner, here]
  rfl

/-- **A step disposes handles one after another**; whatever else it does, it spends none. -/
theorem step_visits (state : State) (step : Step) :
    ∃ visits family, state.unnoted.family.Visits (state.disposed step) visits family ∧
      ∀ id, (state.step step).1.family.handles.isSpent id = family.handles.isSpent id := by
  let Spent (visited : List HandleId) (next : State × Answer) : Prop :=
    ∃ visits family, state.unnoted.family.Visits visited visits family ∧
      ∀ id, next.1.family.handles.isSpent id = family.handles.isSpent id
  have nothing {next : State × Answer}
      (handles : next.1.family.handles = state.unnoted.family.handles) : Spent [] next :=
    ⟨[], _, .done _, fun id => by rw [handles]⟩
  show Spent (state.disposed step) (state.step step)
  cases step with
  | make id label disposes looks => exact ⟨[], _, .done _, fun id => Handles.isSpent_add _ _⟩
  | makeSilent id label => exact ⟨[], _, .done _, fun id => Handles.isSpent_add _ _⟩
  | forget id => exact nothing rfl
  | clone _ name | isDisposed name | label name | outline name =>
    exact state.unnoted.withHandle_elim name (fun _ => nothing rfl) fun _ _ => nothing rfl
  | size name | outlineOwner name =>
    exact state.unnoted.withOwner_elim name (fun _ => nothing rfl) fun _ _ => nothing rfl
  | push name id =>
    exact state.unnoted.withOwner_elim name (fun _ => nothing rfl) fun _ _ =>
      state.unnoted.withHandle_elim id (fun _ => nothing rfl) fun _ _ => nothing rfl
  | extend name ids =>
    refine state.unnoted.withOwner_elim name (fun _ => nothing rfl) fun owner _ => ?_
    dsimp only
    split <;> exact nothing rfl
  | dispose name =>
    refine state.unnoted.withHandle_elim name (fun missing => ?_) fun id found => ?_
    · have none : state.family.find? name = none := missing
      simp only [disposed, none]
      exact nothing rfl
    · have here : state.family.find? name = some id := found
      obtain ⟨log, disposes⟩ := dispose_disposes state.unnoted.family id
      simp only [disposed, here]
      exact ⟨_, _, .next disposes (.done _), fun _ => rfl⟩
  | makeOwner name | dropOwner name =>
    obtain ⟨visits, after, visited, handles⟩ := dropOwner_visits state.unnoted name
    exact ⟨visits, after, visited, fun id => congrArg (·.isSpent id) handles⟩
  | disposeAll name =>
    refine state.unnoted.withOwner_elim name (fun missing => ?_) fun owner found => ?_
    · have none : state.owners.lookup name = none := missing
      simp only [disposed, none]
      exact nothing rfl
    · have here : state.owners.lookup name = some owner := found
      obtain ⟨visits, after, visited, handles, -⟩ := disposeAll_visits state.unnoted.family owner
      simp only [disposed, here]
      exact ⟨visits, after, visited, fun id => congrArg (·.isSpent id) handles⟩

/-- **Every sequence of steps has a course**, so every call in it returns. -/
theorem run_course (state : State) (steps : List Step) :
    ∃ visits, Course state steps visits (state.run steps) := by
  induction steps generalizing state with
  | nil => exact ⟨[], .done state⟩
  | cons step rest ih =>
    obtain ⟨visits, family, visited, -⟩ := state.step_visits step
    obtain ⟨visits', more⟩ := ih (state.step step).1
    exact ⟨visits ++ visits', .next visited more⟩

theorem Course.unique (course : Course state steps visits after)
    (course' : Course state steps visits' after') : visits' = visits ∧ after' = after := by
  induction course generalizing visits' after' with
  | done state =>
    cases course'
    exact ⟨rfl, rfl⟩
  | next visited more ih =>
    cases course' with
    | next visited' more' =>
      obtain ⟨rfl, rfl⟩ := visited.unique visited'
      obtain ⟨rfl, rfl⟩ := ih more'
      exact ⟨rfl, rfl⟩

/-- A course makes a handle run its action, and a call return that ran it, once if the handle is
spent by now and was not before, and else never. -/
theorem Course.spends (course : Course state steps visits after) (id : HandleId) :
    let log := visits.flatMap (·.log)
    log.count (started id) + (state.family.handles.isSpent id).toNat =
        (after.family.handles.isSpent id).toNat ∧
      log.count (returned id true) = log.count (started id) := by
  induction course with
  | done state => simp
  | @next state step steps visits family visits' after visited more ih =>
    obtain ⟨visits, family', visited', spent⟩ := state.step_visits step
    obtain ⟨rfl, rfl⟩ := visited'.unique visited
    have first := visited.spends
    have runs : _ + (state.family.handles.isSpent id).toNat = _ := first.runs id
    rw [spent] at ih
    obtain ⟨later, returns⟩ := ih
    rw [List.flatMap_append]
    refine ⟨?_, ?_⟩
    · rw [List.count_append]
      omega
    · rw [List.count_append, List.count_append, first.returns, returns]

/-! ## What owners hold -/

/-- The handles that an owner holds after a step, if it held some before. -/
def heldAfter (state : State) (name : String) (held : List HandleId) : Step → List HandleId
  | .makeOwner owner | .disposeAll owner | .dropOwner owner => if owner = name then [] else held
  | .push owner id => if owner = name then held ++ (state.family.find? id).toList else held
  | .extend owner ids =>
    if owner = name then held ++ (ids.mapM state.family.find?).getD [] else held
  | _ => held

/-- The handles that were added to an owner since it was emptied or made, in order. -/
def added (state : State) (name : String) (held : List HandleId) : List Step → List HandleId
  | [] => held
  | step :: rest => added (state.step step).1 name (state.heldAfter name held step) rest

theorem lookup_setOwner (state : State) (name other : String) (owner : Disposables) :
    (state.setOwner name owner).owners.lookup other =
      if other = name then some owner else state.owners.lookup other := by
  rw [setOwner, List.lookup_cons, lookup_filter]
  by_cases same : other = name
  · simp [same]
  · rw [beq_eq_false_iff_ne.mpr same, if_neg same, if_neg same]

theorem lookup_dropOwner (state : State) (name other : String) :
    (state.dropOwner name).owners.lookup other =
      if other = name then none else state.owners.lookup other := by
  unfold dropOwner
  cases found : state.owners.lookup name with
  | none =>
    by_cases same : other = name
    · rw [if_pos same, same, found]
    · rw [if_neg same]
  | some owner => exact lookup_filter state.owners name other

/-- An owner holds what it held before and what the step has added, as long as it is there. -/
theorem held_step (state : State) (step : Step) {name : String} {held : List HandleId}
    (holds : ∀ owner, state.owners.lookup name = some owner → owner.held = held) :
    ∀ owner, (state.step step).1.owners.lookup name = some owner →
      owner.held = state.heldAfter name held step := by
  let Holds (held : List HandleId) (next : State × Answer) : Prop :=
    ∀ owner, next.1.owners.lookup name = some owner → owner.held = held
  have same {next : State × Answer} (owners : next.1.owners = state.owners) : Holds held next :=
    fun owner found => holds owner (owners ▸ found)
  have absent {other : String} (missing : state.owners.lookup other = none) (more : List HandleId)
      (answer : Answer) : Holds (if other = name then more else held) (state.unnoted, answer) := by
    intro owner found
    have there : state.owners.lookup name = some owner := found
    have apart : other ≠ name := fun same => by cases missing.symm.trans (same ▸ there)
    rw [if_neg apart]
    exact holds owner there
  have put {next : State × Answer} {other : String} {owner' : Disposables}
      (owners : next.1.owners.lookup name =
        if name = other then some owner' else state.owners.lookup name) :
      Holds (if other = name then owner'.held else held) next := by
    intro owner found
    rw [owners] at found
    by_cases here : name = other
    · rw [if_pos here] at found
      cases found
      rw [if_pos here.symm]
    · rw [if_neg here] at found
      rw [if_neg (Ne.symm here)]
      exact holds owner found
  -- what is added to an owner comes behind what it holds
  have extended {next : State × Answer} {other : String} {owner' : Disposables}
      (there : state.owners.lookup other = some owner') (more : List HandleId)
      (owners : next.1.owners.lookup name =
        if name = other then some ⟨owner'.held ++ more⟩ else state.owners.lookup name) :
      Holds (if other = name then held ++ more else held) next := by
    by_cases here : other = name
    · have own := holds owner' (here ▸ there)
      simpa [here, own] using put owners
    · simpa [here] using put owners
  show Holds (state.heldAfter name held step) (state.step step)
  cases step with
  | make | makeSilent | forget => exact same rfl
  | clone _ other | isDisposed other | label other | outline other | dispose other =>
    exact state.unnoted.withHandle_elim other (fun _ => same rfl) fun _ _ => same rfl
  | size other | outlineOwner other =>
    exact state.unnoted.withOwner_elim other (fun _ => same rfl) fun _ _ => same rfl
  | makeOwner other =>
    refine @put _ other .empty ((lookup_setOwner _ other name .empty).trans ?_)
    by_cases here : name = other
    · rw [if_pos here, if_pos here]
    · rw [if_neg here, if_neg here]
      exact (lookup_dropOwner state.unnoted other name).trans (if_neg here)
  | dropOwner other =>
    intro owner found
    have left := (lookup_dropOwner state.unnoted other name).symm.trans found
    by_cases here : name = other
    · rw [if_pos here] at left
      cases left
    · rw [if_neg here] at left
      exact (holds owner left).trans (if_neg (Ne.symm here)).symm
  | disposeAll other =>
    exact state.unnoted.withOwner_elim other (fun missing => absent missing [] _)
      fun owner found => put (lookup_setOwner _ other name .empty)
  | push other id =>
    refine state.unnoted.withOwner_elim other (fun missing => absent missing _ _) fun owner found => ?_
    refine state.unnoted.withHandle_elim id (fun missing => ?_) fun handle there => ?_
    · have none : state.family.find? id = none := missing
      simpa [heldAfter, none] using same rfl
    · have here : state.family.find? id = some handle := there
      simp only [heldAfter, here]
      exact extended found [handle] (lookup_setOwner _ other name _)
  | extend other ids =>
    refine state.unnoted.withOwner_elim other (fun missing => absent missing _ _) fun owner found => ?_
    dsimp only
    split
    · next missing =>
      have none : ids.mapM state.family.find? = none := missing
      simpa [heldAfter, none] using same rfl
    · next handles there =>
      have here : ids.mapM state.family.find? = some handles := there
      simp only [heldAfter, here]
      exact extended found handles (lookup_setOwner _ other name _)

theorem held_run (state : State) (steps : List Step) {name : String} {held : List HandleId}
    (holds : ∀ owner, state.owners.lookup name = some owner → owner.held = held) :
    ∀ owner, (state.run steps).owners.lookup name = some owner →
      owner.held = state.added name held steps := by
  induction steps generalizing state held with
  | nil => exact holds
  | cons step rest ih => exact ih _ (state.held_step step holds)

end Scenario.Disposal.State

open Scenario.Disposal Family DisposalEvent

/-- **Handles are released once each, whatever disposes what.**  Handles may be disposed in any
order, by any of their names, alone or by owners that hold them any number of times, and the release
actions may dispose any handles while they run.  Every sequence of steps has a course, and only one,
so every call returns.  No release action sets out twice, and of the calls that dispose a handle one
returns that it ran the action, if the handle is spent by then and was not before, and else none.

An owner that is torn down visits what was added to it from the last handle to the first; a visit
runs the action of its handle if the handle was live and no earlier visit has run it, be it another
one of the same handle or one whose action disposed it.  The answer counts these visits.  The owner
is empty then, or gone if it was dropped, and every handle that it held is disposed. -/
theorem disposal_over_any_graph (start : State) (steps : List Step) :
    let after := start.run steps
    ∃ visits, start.Course steps visits after ∧
      (∀ visits' after', start.Course steps visits' after' → visits' = visits ∧ after' = after) ∧
      (∀ name id, after.family.find? name = some id → ∃ log family ran,
        after.unnoted.family.Disposes id log family ran ∧ (after.step (.dispose name)).2 = .flag ran ∧
          (after.step (.dispose name)).1.family = family) ∧
      (∀ id, let log := visits.flatMap (·.log)
        log.count (started id) ≤ 1 ∧ log.count (returned id true) = log.count (started id) ∧
          log.count (returned id true) + (start.family.handles.isSpent id).toNat =
            (after.family.handles.isSpent id).toNat) ∧
      ∀ name owner, after.owners.lookup name = some owner →
        (∀ held, (∀ owner, start.owners.lookup name = some owner → owner.held = held) →
          owner.held = start.added name held steps) ∧
        ∃ visits family, after.unnoted.family.Visits owner.held.reverse visits family ∧
          visits.map (·.id) = owner.held.reverse ∧
          (∀ before visit later, visits = before ++ visit :: later →
            (visit.ran = true ↔ after.family.handles.isLive visit.id = true ∧
              ∀ earlier ∈ before, started visit.id ∉ earlier.log)) ∧
          (after.step (.disposeAll name)).2 = .count (visits.countP (·.ran)) ∧
          (after.step (.disposeAll name)).1.owners.lookup name = some .empty ∧
          (after.step (.dropOwner name)).1.owners.lookup name = none ∧
          ∀ step ∈ [Step.disposeAll name, .dropOwner name], ∀ id ∈ owner.held,
            (after.step step).1.family.handles.isDisposed id = true := by
  intro after
  obtain ⟨visits, course⟩ := start.run_course steps
  refine ⟨visits, course, fun _ _ other => course.unique other, fun name id found => ?_, fun id => ?_,
    fun name owner found => ?_⟩
  · obtain ⟨log, disposes⟩ := dispose_disposes after.unnoted.family id
    rw [State.step_dispose found]
    exact ⟨log, _, _, disposes, rfl, rfl⟩
  · obtain ⟨runs, returns⟩ := course.spends id
    refine ⟨?_, returns, returns ▸ runs⟩
    have once := Bool.toNat_le (after.family.handles.isSpent id)
    exact Nat.le_trans (Nat.le_trans (Nat.le_add_right _ _) (Nat.le_of_eq runs)) once
  · obtain ⟨visits, family, visited, handles, count⟩ :=
      State.disposeAll_visits after.unnoted.family owner
    have torn := State.step_disposeAll found
    have dropped : (after.step (.dropOwner name)).1 = after.unnoted.dropOwner name := rfl
    have gone {id : HandleId} (mem : id ∈ owner.held) : family.handles.isDisposed id = true := by
      rw [Handles.isDisposed, visited.gone id (List.mem_reverse.mpr mem)]
      rfl
    refine ⟨fun held holds => State.held_run start steps holds owner found, visits, family, visited,
      visited.map_id, fun before visit later split => visited.ran_iff split, ?_, ?_, ?_, ?_⟩
    · rw [torn, count]
    · rw [torn, State.lookup_setOwner, if_pos rfl]
    · rw [dropped, State.lookup_dropOwner, if_pos rfl]
    · intro step either id mem
      rcases (by simpa using either : step = .disposeAll name ∨ step = .dropOwner name) with rfl | rfl
      · rw [torn]
        show Handles.isDisposed (after.unnoted.family.disposeAll owner).1.handles id = true
        rw [handles]
        exact gone mem
      · have same : (after.unnoted.dropOwner name).family =
            (after.unnoted.family.disposeAll owner).1 := by
          have there : after.unnoted.owners.lookup name = some owner := found
          rw [State.dropOwner, there]
        rw [dropped, same, handles]
        exact gone mem

/-- Two handles dispose each other, and the first one itself; an owner holds the first one twice,
the second time under another name. -/
theorem disposal_over_any_graph_of_cycle :
    let start := Scenario.Disposal.State.initial
    let steps : List Step := [.make "a" "a" ["b", "a"] [], .make "b" "b" ["a"] [], .clone "c" "a",
      .makeOwner "o", .extend "o" ["a", "b"], .push "o" "c"]
    let after := start.run steps
    after.owners.lookup "o" = some ⟨[0, 1, 0]⟩ ∧ start.added "o" [] steps = [0, 1, 0] ∧
      ∃ visits family, after.unnoted.family.Visits [0, 1, 0] visits family ∧
        visits.map (·.id) = [0, 1, 0] ∧ visits.countP (·.ran) = 1 ∧
        ∀ id ∈ [0, 1], (after.step (.dropOwner "o")).1.family.handles.isDisposed id = true := by
  intro start steps after
  have found : after.owners.lookup "o" = some ⟨[0, 1, 0]⟩ := by decide +kernel
  obtain ⟨-, -, -, -, -, owners⟩ := disposal_over_any_graph start steps
  obtain ⟨added, visits, family, visited, ids, -, count, -, -, gone⟩ := owners "o" _ found
  have one : (after.step (.disposeAll "o")).2 = .count 1 := by decide +kernel
  refine ⟨found, (added [] nofun).symm, visits, family, visited, ids, ?_, fun id mem => ?_⟩
  · exact Answer.count.inj (count.symm.trans one)
  · exact gone _ (by simp) id (List.mem_append_left [0] mem)

end EngineSync
