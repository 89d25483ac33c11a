import Mathlib.Tactic.ByContra
import EngineSync.FeatureGate.Switchboard

/-!
# Callers that share a gate

Any number of callers work on one gate at the same time, each on its own agenda.  The gate is behind
a lock: a caller takes it before a section and gives it back with the section's end, and until then
nobody else gets into one.  Between the sections run the registrar and the release actions, which
may ask for a state of the gate themselves; while one caller is at that, the others go on.

A section touches the gate and nothing else, and whatever else is done does not touch the gate, so
the lock is never held while a callback runs (`Callers.Locked`).  What a task keeps, whoever does it
and whatever the others have still to do, every run keeps (`Callers.Keeps.run`).
-/
namespace EngineSync

namespace GateTask

/-- Whether a task is a section: it needs the lock of the gate. -/
def isSection : GateTask → Bool
  | .request _ | .offer _ _ | .observe _ => true
  | .register _ | .produce _ _ | .release _ | .finish _ _ => false

/-- Whether a task starts or ends a run of the registrar, or releases a handle. -/
def isCallback : GateTask → Bool
  | .register _ | .produce _ _ | .release _ => true
  | .request _ | .offer _ _ | .observe _ | .finish _ _ => false

end GateTask

/-- A gate with what is around it, who holds its lock, and what each caller has still to do. -/
structure Callers where
  board : Switchboard
  holder : Option Nat
  agendas : List (List GateTask)
deriving DecidableEq, Repr

/-- What happens next: somebody else asks for a state of the gate, a handle is made that disables
it, somebody disposes a handle, or a caller takes the lock or goes on with its next task. -/
inductive CallersAction where
  | call (enabled : Bool)
  | teardown
  | dispose (id : HandleId)
  | lock (caller : Nat)
  | advance (caller : Nat)
deriving DecidableEq, Repr

namespace Switchboard

/-- Whether a handle may be disposed from outside: the registrar did not make it, or the gate has
released it already. -/
def mayDispose (board : Switchboard) (id : HandleId) : Bool :=
  match board.handles.get? id with
  | some ⟨_, some (.callback _)⟩ | none => false
  | some _ => true

/-- How often a callback was run. -/
def ran (board : Switchboard) (callback : Callback) : Nat :=
  board.notes.count (.ran callback)

variable (board : Switchboard)

/-- Whoever may dispose a handle runs no callback by that. -/
theorem not_callback_of_mayDispose {id : HandleId} (allowed : board.mayDispose id = true) :
    id < board.handles.all.length ∧
      ∀ label callback, board.handles.pending? id ≠ some (label, .callback callback) := by
  cases found : board.handles.get? id with
  | none => simp [mayDispose, found] at allowed
  | some handle =>
    refine ⟨(List.getElem?_eq_some_iff.mp found).1, fun label callback pending => ?_⟩
    obtain ⟨label', release⟩ := handle
    simp only [Handles.pending?, found, Option.bind_some, Option.map_eq_some_iff,
      Prod.mk.injEq] at pending
    obtain ⟨release', own, -, rfl⟩ := pending
    cases own
    simp [mayDispose, found] at allowed

/-- A request touches the gate and nothing else. -/
theorem step_request (request : GateRequest) :
    ∃ gate, (board.step (.request request)).1 = { board with gate } := by
  simp only [step]
  split
  · split <;> exact ⟨board.gate, rfl⟩
  · split <;> exact ⟨_, rfl⟩

/-- So does the end of a request that enables. -/
theorem step_offer (request : GateRequest) (handles : List HandleId) :
    ∃ gate, (board.step (.offer request handles)).1 = { board with gate } := by
  simp only [step]
  split <;> exact ⟨_, rfl⟩

/-- Outside of the sections nobody touches the gate. -/
theorem step_gate {task : GateTask} (outside : task.isSection = false) :
    (board.step task).1.gate = board.gate := by
  cases task with
  | request | offer | observe => cases outside
  | register request => simp [step, report, spend]
  | produce request run => simp [step]
  | finish request transition => simp [step]
  | release id =>
    simp only [step]
    split
    · rfl
    · split <;> rfl

/-- What is not a callback makes none run. -/
theorem step_ran {task : GateTask} (other : task.isCallback = false) (callback : Callback) :
    (board.step task).1.ran callback = board.ran callback := by
  cases task with
  | register | produce | release => cases other
  | request request =>
    obtain ⟨gate, same⟩ := board.step_request request
    rw [same]
    rfl
  | offer request handles =>
    obtain ⟨gate, same⟩ := board.step_offer request handles
    rw [same]
    rfl
  | observe callback' => simp [step, ran, report]
  | finish request transition =>
    have silent : (finishNote request transition).count (.ran callback) = 0 := by
      unfold finishNote
      split <;> simp
    simp [step, ran, List.count_append, silent]

/-- The width of the gate is fixed. -/
theorem step_width (task : GateTask) : (board.step task).1.gate.width = board.gate.width := by
  cases outside : task.isSection with
  | false => rw [step_gate board outside]
  | true =>
    cases task with
    | register | produce | release | finish => cases outside
    | observe callback => rfl
    | request request =>
      simp only [step]
      split
      · split <;> rfl
      · split <;> rfl
    | offer request handles =>
      simp only [step, FeatureGate.offer]
      split <;> split <;> simp_all

end Switchboard

namespace Callers

/-- A disabled gate that nobody has called yet. -/
def initial (name : String) (width : Nat) (script : List (Callback × List CallbackAction)) :
    Callers :=
  ⟨.initial name width script, none, []⟩

/-- One action.  A caller that is not there, that has nothing left to do or that has to wait for the
lock stays as it is. -/
def perform (callers : Callers) : CallersAction → Callers
  | .call enabled =>
    { callers with agendas := callers.agendas ++ [[.request ⟨none, enabled⟩]] }
  | .teardown => { callers with board := callers.board.makeTeardown.1 }
  | .dispose id =>
    if callers.board.mayDispose id then
      { callers with agendas := callers.agendas ++ [[.release id]] }
    else callers
  | .lock caller =>
    match callers.holder, callers.agendas[caller]? with
    | none, some (task :: _) =>
      if task.isSection then { callers with holder := some caller } else callers
    | _, _ => callers
  | .advance caller =>
    match callers.agendas[caller]? with
    | some (task :: agenda) =>
      if task.isSection && callers.holder ≠ some caller then callers
      else
        let (board, tasks) := callers.board.step task
        { board
          holder := if task.isSection then none else callers.holder
          agendas := callers.agendas.set caller (tasks ++ agenda) }
    | _ => callers

/-- Actions one after another. -/
def run (callers : Callers) (actions : List CallersAction) : Callers :=
  actions.foldl perform callers

/-- The next task of a caller. -/
def next? (callers : Callers) (caller : Nat) : Option GateTask :=
  callers.agendas[caller]?.bind (·.head?)

/-- What all callers have still to do. -/
def tasks (callers : Callers) : List GateTask :=
  callers.agendas.flatten

/-- Whoever holds the lock is in a section. -/
def Locked (callers : Callers) : Prop :=
  ∀ caller, callers.holder = some caller → ∃ task ∈ callers.next? caller, task.isSection = true

variable {callers : Callers}

theorem next?_eq_some {caller : Nat} {task : GateTask} :
    callers.next? caller = some task ↔
      ∃ agenda, callers.agendas[caller]? = some (task :: agenda) := by
  simp only [next?, Option.bind_eq_some_iff]
  constructor
  · rintro ⟨agenda, found, head⟩
    obtain ⟨rest, rfl⟩ := List.head?_eq_some_iff.mp head
    exact ⟨rest, found⟩
  · rintro ⟨agenda, found⟩
    exact ⟨_, found, rfl⟩

/-- What happens to the tasks of a caller that goes on. -/
theorem perform_advance {caller : Nat} {task : GateTask} {agenda : List GateTask}
    (found : callers.agendas[caller]? = some (task :: agenda))
    (free : task.isSection = true → callers.holder = some caller) :
    callers.perform (.advance caller) =
      { board := (callers.board.step task).1
        holder := if task.isSection then none else callers.holder
        agendas := callers.agendas.set caller ((callers.board.step task).2 ++ agenda) } := by
  simp only [perform, found]
  split
  · next waits =>
    simp only [Bool.and_eq_true, decide_eq_true_eq] at waits
    exact absurd (free waits.1) waits.2
  · rfl

/-- A caller goes on with its next task, or nothing happens. -/
theorem perform_advance_cases (callers : Callers) (caller : Nat) :
    callers.perform (.advance caller) = callers ∨
      ∃ task agenda, callers.agendas[caller]? = some (task :: agenda) ∧
        (task.isSection = true → callers.holder = some caller) := by
  cases found : callers.agendas[caller]? with
  | none => exact .inl (by simp [perform, found])
  | some agenda =>
    cases agenda with
    | nil => exact .inl (by simp [perform, found])
    | cons task agenda =>
      by_cases waits : task.isSection = true ∧ callers.holder ≠ some caller
      · refine .inl ?_
        simp [perform, found, waits.1, waits.2]
      · exact .inr ⟨task, agenda, rfl, fun section' => not_not.mp fun other =>
          waits ⟨section', other⟩⟩

/-! ## The lock -/

/-- **Whoever holds the lock is in a section**, whatever happens. -/
theorem Locked.perform (locked : callers.Locked) (action : CallersAction) :
    (callers.perform action).Locked := by
  have joined (agenda : List GateTask) :
      ({ callers with agendas := callers.agendas ++ [agenda] } : Callers).Locked := by
    intro caller holds
    obtain ⟨task, next, inside⟩ := locked caller holds
    obtain ⟨rest, found⟩ := next?_eq_some.mp next
    refine ⟨task, next?_eq_some.mpr ⟨rest, ?_⟩, inside⟩
    exact (List.getElem?_append_left (List.getElem?_eq_some_iff.mp found).1).trans found
  cases action with
  | call enabled => exact joined _
  | teardown => exact locked
  | dispose id =>
    simp only [Callers.perform]
    split
    · exact joined _
    · exact locked
  | lock caller =>
    simp only [Callers.perform]
    split
    · next free found =>
      split
      · next inside =>
        rintro _ ⟨⟩
        exact ⟨_, next?_eq_some.mpr ⟨_, found⟩, inside⟩
      · exact locked
    · exact locked
  | advance caller =>
    rcases perform_advance_cases callers caller with same | ⟨task, agenda, found, free⟩
    · rw [same]
      exact locked
    · rw [perform_advance found free]
      cases inside : task.isSection with
      | true => exact nofun
      | false =>
        -- whoever goes on here is not in a section, so the lock is somebody else's
        intro other holds
        obtain ⟨task', next, inside'⟩ := locked other holds
        obtain ⟨rest, found'⟩ := next?_eq_some.mp next
        have apart : caller ≠ other := by
          rintro rfl
          rw [found] at found'
          cases found'
          rw [inside] at inside'
          cases inside'
        refine ⟨task', next?_eq_some.mpr ⟨rest, ?_⟩, inside'⟩
        exact (List.getElem?_set_ne apart).trans found'

theorem Locked.run (locked : callers.Locked) (actions : List CallersAction) :
    (callers.run actions).Locked := by
  induction actions generalizing callers with
  | nil => exact locked
  | cons action rest ih => exact ih (locked.perform action)

/-- A caller that runs a callback does not hold the lock. -/
theorem Locked.not_callback (locked : callers.Locked) {caller : Nat} {task : GateTask}
    (next : callers.next? caller = some task) (callback : task.isCallback = true) :
    callers.holder ≠ some caller := by
  intro holds
  obtain ⟨task', next', inside⟩ := locked caller holds
  rw [next] at next'
  cases next'
  cases task with
  | request | offer | observe => cases callback
  | register | produce | release | finish => cases inside

/-- Only a caller whose next task is a callback makes one run. -/
theorem perform_ran {action : CallersAction} {callback : Callback}
    (more : (callers.perform action).board.ran callback ≠ callers.board.ran callback) :
    ∃ caller task, action = .advance caller ∧ callers.next? caller = some task ∧
      task.isCallback = true := by
  cases action with
  | call | teardown => exact absurd rfl more
  | dispose id =>
    simp only [perform] at more
    split at more <;> exact absurd rfl more
  | lock caller =>
    simp only [perform] at more
    split at more
    · split at more <;> exact absurd rfl more
    · exact absurd rfl more
  | advance caller =>
    rcases perform_advance_cases callers caller with same | ⟨task, agenda, found, free⟩
    · rw [same] at more
      exact absurd rfl more
    · rw [perform_advance found free] at more
      refine ⟨caller, task, rfl, next?_eq_some.mpr ⟨agenda, found⟩, ?_⟩
      by_contra other
      exact more (callers.board.step_ran (Bool.not_eq_true _ ▸ other) callback)

/-! ## Every run -/

/-- A property of the board and of what the callers have still to do, in any order, that every task
and everybody who comes keeps. -/
structure Keeps (Inv : Switchboard → List GateTask → Prop) : Prop where
  perm : ∀ {board tasks tasks'}, tasks.Perm tasks' → Inv board tasks → Inv board tasks'
  call : ∀ {board tasks} enabled, Inv board tasks → Inv board (.request ⟨none, enabled⟩ :: tasks)
  teardown : ∀ {board tasks}, Inv board tasks → Inv board.makeTeardown.1 tasks
  dispose : ∀ {board tasks id}, Inv board tasks → board.mayDispose id = true →
    Inv board (.release id :: tasks)
  step : ∀ {board task tasks}, Inv board (task :: tasks) →
    Inv (board.step task).1 ((board.step task).2 ++ tasks)

variable {Inv : Switchboard → List GateTask → Prop}

theorem Keeps.perform (keeps : Keeps Inv) (h : Inv callers.board callers.tasks)
    (action : CallersAction) :
    Inv (callers.perform action).board (callers.perform action).tasks := by
  have joined {board : Switchboard} (task : GateTask) (h : Inv board (task :: callers.tasks)) :
      Inv board (callers.agendas ++ [[task]]).flatten := by
    refine keeps.perm ?_ h
    simpa [tasks] using (List.perm_append_singleton task callers.agendas.flatten).symm
  cases action with
  | call enabled => exact joined _ (keeps.call enabled h)
  | teardown => exact keeps.teardown h
  | dispose id =>
    simp only [Callers.perform]
    split
    · next allowed => exact joined _ (keeps.dispose h allowed)
    · exact h
  | lock caller =>
    simp only [Callers.perform]
    split
    · split <;> exact h
    · exact h
  | advance caller =>
    rcases perform_advance_cases callers caller with same | ⟨task, agenda, found, free⟩
    · rw [same]
      exact h
    · rw [perform_advance found free]
      -- the invariant is about the tasks in any order, so the one that is done may come first
      obtain ⟨lt, here⟩ := List.getElem?_eq_some_iff.mp found
      obtain ⟨before, after, split, -, replaced⟩ :=
        @List.exists_of_set _ _ ((callers.board.step task).2 ++ agenda) _ lt
      rw [here] at split
      have first : Inv callers.board (task :: (agenda ++ (before ++ after).flatten)) := by
        refine keeps.perm ?_ h
        rw [tasks, split, List.flatten_append, List.flatten_cons, List.flatten_append]
        exact List.perm_append_comm_assoc before.flatten (task :: agenda) after.flatten
      refine keeps.perm ?_ (keeps.step first)
      show List.Perm _ (callers.agendas.set caller _).flatten
      rw [replaced, List.flatten_append, List.flatten_append, List.flatten_cons, ← List.append_assoc]
      exact List.perm_append_comm_assoc _ before.flatten after.flatten

/-- **What every task keeps, every run keeps.** -/
theorem Keeps.run (keeps : Keeps Inv) (h : Inv callers.board callers.tasks)
    (actions : List CallersAction) :
    Inv (callers.run actions).board (callers.run actions).tasks := by
  induction actions generalizing callers with
  | nil => exact h
  | cons action rest ih => exact ih (keeps.perform h action)

theorem width_run {width : Nat} (start : callers.board.gate.width = width)
    (actions : List CallersAction) : (callers.run actions).board.gate.width = width := by
  have keeps : Keeps fun board _ => board.gate.width = width := {
    perm := fun _ h => h
    call := fun _ h => h
    teardown := fun h => h
    dispose := fun h _ => h
    step := fun h => (Switchboard.step_width ..).trans h }
  exact keeps.run start actions

end Callers
end EngineSync
