import Mathlib.Algebra.Order.Ring.Int
import EngineSync.Proofs.Callers
import EngineSync.Proofs.Releases

/-!
# Nothing is lost around a shared gate

Whatever the callers of a gate do, each in its own time, every handle that a run of the registrar
made is in one place: in the set that the gate holds, in a set that some caller has still to hand
in, or on the way to its release, which comes once.  Sets stay whole until they are taken apart for
release.  And whoever hands a set in will report it, just as whoever takes one out, so the reports
tell the state of the gate once nobody is at work (`gate_conserves`).

The places are counted over all callers at once: what one of them does moves handles from one place
to another and leaves the others' places alone.
-/
namespace EngineSync

namespace GateTask

/-- The set that a task hands in. -/
def offers? : GateTask → Option (List HandleId)
  | .offer _ handles => some handles
  | _ => none

/-- The handle that a task releases. -/
def releases? : GateTask → Option HandleId
  | .release id => some id
  | _ => none

/-- Whether a task is the end of a run of the registrar. -/
def produces (run : Nat) : GateTask → Bool
  | .produce _ run' => run' = run
  | _ => false

/-- Whether a task ends a request with a transition. -/
def ends (transition : Transition) : GateTask → Bool
  | .finish _ transition' => transition' = transition
  | _ => false

/-- Whether a task hands nothing on and reports nothing, as all that a script has a callback do. -/
def isIdle : GateTask → Bool
  | .request _ | .register _ | .observe _ => true
  | .produce _ _ | .offer _ _ | .release _ | .finish _ _ => false

theorem countP_produces_produce (run run' : Nat) (request : GateRequest) (tasks : List GateTask) :
    (GateTask.produce request run' :: tasks).countP (produces run) =
      tasks.countP (produces run) + if run' = run then 1 else 0 := by
  simp [List.countP_cons, produces]

theorem countP_ends_finish (transition transition' : Transition) (request : GateRequest)
    (tasks : List GateTask) :
    (GateTask.finish request transition' :: tasks).countP (ends transition) =
      tasks.countP (ends transition) + if transition' = transition then 1 else 0 := by
  simp [List.countP_cons, ends]

end GateTask

namespace Switchboard
variable (board : Switchboard) (tasks : List GateTask)

/-- The sets of handles that are not taken apart: the one the gate holds and those to be handed
in. -/
def sets : List (List HandleId) :=
  board.gate.active.toList ++ tasks.filterMap GateTask.offers?

/-- The handles that somebody has in hand. -/
def custody : List HandleId :=
  (board.sets tasks).flatten ++ tasks.filterMap GateTask.releases?

/-- Handles that one run of the registrar made, all of them, and none is released. -/
def Complete (ids : List HandleId) : Prop :=
  ∃ run, 0 < run ∧ run ≤ board.runs ∧ ids.map board.handles.release? =
    (List.range board.gate.width).map fun index => some (.callback (.release run index))

/-- How many handles have a callback to run still. -/
def live (callback : Callback) : Nat :=
  board.handles.liveWeight fun release => if release = .callback callback then 1 else 0

/-- How many requests ended with a transition. -/
def ended (transition : Transition) : Nat :=
  board.results.countP (·.2 = transition)

/-- **What the tasks of all callers keep.**  A handle that the registrar made is in one hand until
it is released; sets are whole; a place of a run of the registrar is to be made, made or released,
and only once; and the requests that changed the gate are reported or will be. -/
structure Conserves : Prop where
  known : ∀ id ∈ board.custody tasks, id < board.handles.all.length
  owned : ∀ id callback, board.handles.release? id = some (.callback callback) →
    (board.custody tasks).count id = 1
  whole : ∀ ids ∈ board.sets tasks, board.Complete ids
  placed : ∀ run index, board.live (.release run index) + board.ran (.release run index) +
      (if index < board.gate.width then tasks.countP (GateTask.produces run) else 0) =
    if 0 < run ∧ run ≤ board.runs ∧ index < board.gate.width then 1 else 0
  running : ∀ run, 0 < tasks.countP (GateTask.produces run) → 0 < run ∧ run ≤ board.runs
  started : ∀ run, board.live (.register run) + board.ran (.register run) =
    if 0 < run ∧ run ≤ board.runs then 1 else 0
  balance : board.ended .registered + tasks.countP (GateTask.ends .registered) =
    board.ended .disposed + tasks.countP (GateTask.ends .disposed) +
      if board.gate.isEnabled then 1 else 0

end Switchboard

/-! ## The table of handles -/

/-- The handle that a run of the registrar makes for a place. -/
def Callback.handle (run index : Nat) : Handle GateRelease :=
  ⟨(Callback.release run index).name, some (.callback (.release run index))⟩

namespace Handles

theorem liveWeight_eq_sum {ρ : Type} (table : Handles ρ) (weight : ρ → Nat) :
    table.liveWeight weight =
      (table.all.map fun handle => (handle.release.map weight).getD 0).sum := by
  rw [liveWeight, List.sum_eq_foldr, List.foldr_map]

theorem liveWeight_extend {ρ : Type} (table : Handles ρ) (made : List (Handle ρ))
    (weight : ρ → Nat) : (table.extend made).liveWeight weight =
      table.liveWeight weight + (made.map fun handle => (handle.release.map weight).getD 0).sum := by
  rw [liveWeight_eq_sum, liveWeight_eq_sum, extend, List.map_append, List.sum_append]

/-- A handle with a release was there, or it is one of those that were made. -/
theorem release?_extend_cases {ρ : Type} {table : Handles ρ} {made : List (Handle ρ)} {id : HandleId}
    {release : ρ} (h : (table.extend made).release? id = some release) :
    table.release? id = some release ∨
      ∃ place, id = table.all.length + place ∧ made[place]?.bind (·.release) = some release := by
  by_cases lt : id < table.all.length
  · exact .inl ((release?_extend made lt).symm.trans h)
  · obtain ⟨place, rfl⟩ := Nat.exists_eq_add_of_le (Nat.le_of_not_lt lt)
    exact .inr ⟨place, rfl, (release?_made made place).symm.trans h⟩

/-- A release that some handle has still to run counts. -/
theorem liveWeight_pos {ρ : Type} [DecidableEq ρ] {table : Handles ρ} {release : ρ} :
    0 < table.liveWeight (fun release' => if release' = release then 1 else 0) ↔
      ∃ id, table.release? id = some release := by
  have there (handle : Handle ρ) :
      0 < (handle.release.map fun release' => if release' = release then 1 else 0).getD 0 ↔
        handle.release = some release := by
    cases handle.release with
    | none => simp
    | some release' => by_cases same : release' = release <;> simp [same]
  simp only [liveWeight_eq_sum, List.sum_pos_iff_exists_pos_nat, List.mem_map, exists_exists_and_eq_and,
    there]
  constructor
  · rintro ⟨handle, mem, has⟩
    obtain ⟨id, found⟩ := List.mem_iff_getElem?.mp mem
    exact ⟨id, by simp [release?, pending?, get?, found, has]⟩
  · rintro ⟨id, has⟩
    obtain ⟨label, pending⟩ := release?_eq_some.mp has
    simp only [pending?, Option.bind_eq_some_iff, Option.map_eq_some_iff, Prod.mk.injEq] at pending
    obtain ⟨handle, found, release', own, -, rfl⟩ := pending
    exact ⟨handle, List.mem_of_getElem? found, own⟩

end Handles

namespace Switchboard
variable {board board' : Switchboard} {tasks tasks' : List GateTask}

/-- A run of the registrar adds its handles to the table, in order. -/
theorem makeHandles_eq (run index count : Nat) (table : Handles GateRelease) :
    makeHandles run index count table =
      (table.extend ((List.range' index count).map (Callback.handle run)),
        List.range' table.all.length count) := by
  induction count generalizing index table with
  | zero => simp [makeHandles, Handles.extend]
  | succ count ih =>
    simp only [makeHandles, Handles.add, ih, List.range'_succ]
    simp [Handles.extend, Callback.handle]

/-- Idle tasks have no hand in anything that is counted. -/
theorem idle_append (board : Switchboard) {idle : List GateTask}
    (all : ∀ task ∈ idle, task.isIdle = true) (tasks : List GateTask) :
    board.sets (idle ++ tasks) = board.sets tasks ∧
      board.custody (idle ++ tasks) = board.custody tasks ∧
      (∀ run, (idle ++ tasks).countP (GateTask.produces run) =
        tasks.countP (GateTask.produces run)) ∧
      ∀ transition, (idle ++ tasks).countP (GateTask.ends transition) =
        tasks.countP (GateTask.ends transition) := by
  induction idle with
  | nil => exact ⟨rfl, rfl, fun _ => rfl, fun _ => rfl⟩
  | cons task idle ih =>
    obtain ⟨sets, custody, produces, ends⟩ :=
      ih fun task mem => all task (List.mem_cons_of_mem _ mem)
    have first := all task List.mem_cons_self
    cases task with
    | request | register | observe => exact ⟨sets, custody, produces, ends⟩
    | produce | offer | release | finish => cases first

/-- What a script has a callback do is idle. -/
theorem script_idle (actions : List CallbackAction) (callback : Callback) :
    ∀ task ∈ actions.map (CallbackAction.task callback), task.isIdle = true := by
  simp only [List.mem_map]
  rintro task ⟨action, -, rfl⟩
  cases action <;> rfl

/-- What is to be done once a set is taken apart: its handles are released, and the request ends. -/
theorem disbanded (ids : List HandleId) (request : GateRequest) (transition : Transition)
    (tasks : List GateTask) :
    let rest := ids.map GateTask.release ++ [.finish request transition] ++ tasks
    rest.filterMap GateTask.offers? = tasks.filterMap GateTask.offers? ∧
      rest.filterMap GateTask.releases? = ids ++ tasks.filterMap GateTask.releases? ∧
      (∀ run, rest.countP (GateTask.produces run) = tasks.countP (GateTask.produces run)) ∧
      ∀ transition', rest.countP (GateTask.ends transition') =
        tasks.countP (GateTask.ends transition') + if transition = transition' then 1 else 0 := by
  induction ids with
  | nil =>
    exact ⟨rfl, rfl, fun _ => rfl, fun transition' => GateTask.countP_ends_finish ..⟩
  | cons id ids ih =>
    obtain ⟨offers, releases, produces, ends⟩ := ih
    exact ⟨offers, congrArg (id :: ·) releases, produces, ends⟩

/-! ## Complete sets -/

theorem Complete.lives {ids : List HandleId} (h : board.Complete ids) :
    ∀ id ∈ ids, ∃ callback, board.handles.release? id = some (.callback callback) := by
  obtain ⟨run, -, -, row⟩ := h
  intro id mem
  have there : board.handles.release? id ∈ ids.map board.handles.release? :=
    List.mem_map_of_mem mem
  rw [row] at there
  obtain ⟨index, -, found⟩ := List.mem_map.mp there
  exact ⟨_, found.symm⟩

theorem Complete.length {ids : List HandleId} (h : board.Complete ids) :
    ids.length = board.gate.width := by
  obtain ⟨run, -, -, row⟩ := h
  simpa using congrArg List.length row

/-- A set stays complete while its handles keep their releases. -/
theorem Complete.keep {ids : List HandleId} (h : board.Complete ids)
    (runs : board.runs ≤ board'.runs) (width : board'.gate.width = board.gate.width)
    (kept : ∀ id ∈ ids, board'.handles.release? id = board.handles.release? id) :
    board'.Complete ids := by
  obtain ⟨run, pos, le, row⟩ := h
  exact ⟨run, pos, le.trans runs, by rw [List.map_congr_left kept, width]; exact row⟩

namespace Conserves

/-- Everything stays in its place while no handle is made or released and no set is made. -/
theorem move (h : board.Conserves tasks) (handles : board'.handles = board.handles)
    (runs : board'.runs = board.runs) (width : board'.gate.width = board.gate.width)
    (ran : ∀ callback, board'.ran callback = board.ran callback)
    (sets : ∀ ids ∈ board'.sets tasks', ids ∈ board.sets tasks)
    (custody : (board'.custody tasks').Perm (board.custody tasks))
    (produces : ∀ run, tasks'.countP (GateTask.produces run) =
      tasks.countP (GateTask.produces run))
    (balance : board'.ended .registered + tasks'.countP (GateTask.ends .registered) =
      board'.ended .disposed + tasks'.countP (GateTask.ends .disposed) +
        if board'.gate.isEnabled then 1 else 0) : board'.Conserves tasks' where
  known := by
    intro id mem
    rw [handles]
    exact h.known id (custody.mem_iff.mp mem)
  owned := by
    intro id callback live
    rw [custody.count_eq]
    exact h.owned id callback (handles ▸ live)
  whole := by
    intro ids mem
    exact (h.whole ids (sets ids mem)).keep runs.ge width fun id _ => by rw [handles]
  placed := by
    intro run index
    rw [live, handles, ran, produces, width, runs]
    exact h.placed run index
  running := by
    intro run some'
    rw [runs]
    exact h.running run (produces run ▸ some')
  started := by
    intro run
    rw [live, handles, ran, runs]
    exact h.started run
  balance := balance

/-- The callers are in no order. -/
theorem perm (h : board.Conserves tasks) (tasks_perm : tasks.Perm tasks') :
    board.Conserves tasks' := by
  have sets : (board.sets tasks').Perm (board.sets tasks) :=
    (tasks_perm.symm.filterMap _).append_left _
  have counts (p : GateTask → Bool) : tasks'.countP p = tasks.countP p :=
    tasks_perm.symm.countP_eq p
  refine h.move rfl rfl rfl (fun _ => rfl) (fun ids mem => sets.mem_iff.mp mem) ?_
    (fun run => counts _) ?_
  · exact sets.flatten.append (tasks_perm.symm.filterMap _)
  · rw [counts, counts]
    exact h.balance

/-- Idle tasks may come and go. -/
theorem idle_iff {idle : List GateTask} (all : ∀ task ∈ idle, task.isIdle = true) :
    board.Conserves (idle ++ tasks) ↔ board.Conserves tasks := by
  obtain ⟨sets, custody, produces, ends⟩ := board.idle_append all tasks
  constructor
  · intro h
    refine h.move rfl rfl rfl (fun _ => rfl) (by simp [sets]) (by rw [custody])
      (fun run => (produces run).symm) ?_
    rw [← ends, ← ends]
    exact h.balance
  · intro h
    refine h.move rfl rfl rfl (fun _ => rfl) (by simp [sets]) (by rw [custody]) produces ?_
    rw [ends, ends]
    exact h.balance

theorem idle_cons {task : GateTask} (idle : task.isIdle = true) :
    board.Conserves (task :: tasks) ↔ board.Conserves tasks :=
  idle_iff (List.forall_mem_singleton.mpr idle)

/-! ## Handles are made -/

/-- Making handles leaves the sets complete that were so. -/
theorem whole_extend (h : board.Conserves tasks) {made : List (Handle GateRelease)}
    (handles : board'.handles = board.handles.extend made) (runs : board'.runs = board.runs)
    (width : board'.gate.width = board.gate.width) :
    ∀ ids ∈ board.sets tasks, board'.Complete ids := by
  intro ids mem
  have whole := h.whole ids mem
  refine whole.keep runs.ge width fun id held => ?_
  obtain ⟨callback, lives⟩ := whole.lives id held
  rw [handles, Handles.release?_extend made (Handles.lt_of_release? lives)]

theorem live_makeTeardown (board : Switchboard) (callback : Callback) :
    board.makeTeardown.1.live callback = board.live callback :=
  (Handles.liveWeight_extend board.handles [_] _).trans (by simp [live])

/-- A handle that disables the gate concerns nobody. -/
theorem teardown (h : board.Conserves tasks) : board.makeTeardown.1.Conserves tasks where
  known := by
    intro id mem
    exact (h.known id mem).trans_le (by simp [makeTeardown, Handles.add])
  owned := by
    intro id callback live
    rcases Handles.release?_extend_cases live with before | ⟨place, -, made⟩
    · exact h.owned id callback before
    · cases place with
      | zero => cases made
      | succ place => cases made
  whole := h.whole_extend rfl rfl rfl
  placed := by
    intro run index
    rw [live_makeTeardown]
    exact h.placed run index
  running := h.running
  started := by
    intro run
    rw [live_makeTeardown]
    exact h.started run
  balance := h.balance

/-- The row of a run of the registrar has each of its callbacks once. -/
theorem sum_handle (run run' index width : Nat) :
    (((List.range width).map (Callback.handle run)).map fun handle =>
      (handle.release.map fun release =>
        if release = .callback (.release run' index) then 1 else 0).getD 0).sum =
      if run = run' ∧ index < width then 1 else 0 := by
  induction width with
  | zero => simp
  | succ width ih =>
    rw [List.range_succ, List.map_append, List.map_append, List.sum_append, ih]
    simp only [Callback.handle, List.map_cons, List.map_nil, Option.map_some, Option.getD_some,
      List.sum_singleton, GateRelease.callback.injEq, Callback.release.injEq]
    split <;> split <;> split <;> omega

/-- The end of a run of the registrar makes its handles. -/
theorem produce {request : GateRequest} {run : Nat}
    (h : board.Conserves (.produce request run :: tasks)) :
    (board.step (.produce request run)).1.Conserves
      ((board.step (.produce request run)).2 ++ tasks) := by
  have due : 0 < run ∧ run ≤ board.runs :=
    h.running run (by simp [GateTask.produces])
  let ids := List.range' board.handles.all.length board.gate.width
  let made := (List.range board.gate.width).map (Callback.handle run)
  let after : Switchboard := { board with handles := board.handles.extend made }
  have step : board.step (.produce request run) = (after, [.offer request ids]) := by
    simp only [Switchboard.step, makeHandles_eq, ← List.range_eq_range']
    rfl
  rw [step]
  show after.Conserves (.offer request ids :: tasks)
  -- the new set joins the others, and its handles are those that are new to the table
  have sets : (after.sets (.offer request ids :: tasks)).Perm (ids :: board.sets tasks) :=
    List.perm_middle
  have custody : (after.custody (.offer request ids :: tasks)).Perm (ids ++ board.custody tasks) :=
    (sets.flatten.append_right _).trans (by rw [List.flatten_cons, List.append_assoc]; rfl)
  have places : ids = (List.range board.gate.width).map (board.handles.all.length + ·) :=
    List.range'_eq_map_range ..
  exact {
    known := by
      intro id mem
      have length : after.handles.all.length = board.handles.all.length + board.gate.width := by
        simp [after, made, Handles.extend]
      rw [length]
      rcases List.mem_append.mp (custody.mem_iff.mp mem) with new | old
      · exact (List.mem_range'_1.mp new).2
      · exact Nat.lt_add_right _ (h.known id old)
    owned := by
      intro id callback live
      rw [custody.count_eq, List.count_append]
      rcases Handles.release?_extend_cases live with before | ⟨place, rfl, new⟩
      · have away : id ∉ ids := fun mem =>
          absurd (Handles.lt_of_release? before) (Nat.not_lt.mpr (List.mem_range'_1.mp mem).1)
        rw [List.count_eq_zero.mpr away, Nat.zero_add]
        exact h.owned id callback before
      · have lt : place < board.gate.width := by
          by_contra beyond
          rw [List.getElem?_eq_none (by simpa [made] using beyond)] at new
          cases new
        have away : board.handles.all.length + place ∉ board.custody tasks := fun mem =>
          absurd (h.known _ mem) (Nat.not_lt.mpr (Nat.le_add_right _ _))
        rw [List.count_eq_zero.mpr away]
        exact List.count_eq_one_of_mem (List.nodup_range' 1)
          (List.mem_range'_1.mpr ⟨Nat.le_add_right _ _, Nat.add_lt_add_left lt _⟩)
    whole := by
      intro ids' mem
      rcases List.mem_cons.mp (sets.mem_iff.mp mem) with rfl | old
      · refine ⟨run, due.1, due.2, ?_⟩
        show List.map (board.handles.extend made).release? ids = _
        rw [places, Handles.map_release?_made]
        refine List.map_congr_left fun index lt => ?_
        simp [made, Callback.handle, List.mem_range.mp lt]
      · have kept : after.handles = board.handles.extend made := rfl
        exact h.whole_extend kept rfl rfl ids' old
    placed := by
      intro run' index
      refine .trans ?_ (h.placed run' index)
      have grown : after.live (.release run' index) = board.live (.release run' index) +
          if run = run' ∧ index < board.gate.width then 1 else 0 :=
        (Handles.liveWeight_extend ..).trans (congrArg _ (sum_handle ..))
      have same : (GateTask.offer request ids :: tasks).countP (GateTask.produces run') =
          tasks.countP (GateTask.produces run') := rfl
      rw [grown, same, GateTask.countP_produces_produce]
      show _ + board.ran _ + ite (index < board.gate.width) _ 0 = _
      by_cases here : run = run' <;> by_cases inside : index < board.gate.width <;>
        simp only [here, inside, and_true, and_false, if_true, if_false] <;> omega
    running := fun run' some' =>
      h.running run' (some'.trans_le ((List.sublist_cons_self _ tasks).countP_le))
    started := by
      intro run'
      have none : after.live (.register run') = board.live (.register run') :=
        (Handles.liveWeight_extend ..).trans (by simp [made, Callback.handle, Function.comp_def, live])
      rw [none]
      exact h.started run'
    balance := h.balance }

/-! ## Handles are released -/

/-- Somebody else may dispose a handle that the registrar did not make. -/
theorem dispose {id : HandleId} (h : board.Conserves tasks) (allowed : board.mayDispose id = true) :
    board.Conserves (.release id :: tasks) := by
  have custody : (board.custody (.release id :: tasks)).Perm (id :: board.custody tasks) :=
    List.perm_middle
  obtain ⟨lt, foreign⟩ := board.not_callback_of_mayDispose allowed
  refine { h with known := ?_, owned := ?_ }
  · intro id' mem
    rcases List.mem_cons.mp (custody.mem_iff.mp mem) with rfl | old
    · exact lt
    · exact h.known id' old
  · intro id' callback live
    have apart : id ≠ id' := by
      rintro rfl
      obtain ⟨label, pending⟩ := Handles.release?_eq_some.mp live
      exact foreign label callback pending
    rw [custody.count_eq, List.count_cons_of_ne apart]
    exact h.owned id' callback live

/-- A handle without its release is let go. -/
theorem drop {id : HandleId} (h : board.Conserves (.release id :: tasks))
    (gate : board'.gate = board.gate) (runs : board'.runs = board.runs)
    (results : board'.results = board.results)
    (length : board'.handles.all.length = board.handles.all.length)
    (releases : ∀ id', board'.handles.release? id' =
      if id' = id then none else board.handles.release? id')
    (placed : ∀ callback, board'.live callback + board'.ran callback =
      board.live callback + board.ran callback) : board'.Conserves tasks := by
  have custody : (board.custody (.release id :: tasks)).Perm (id :: board'.custody tasks) := by
    simp only [Switchboard.custody, sets, gate]
    exact List.perm_middle
  refine ⟨?_, ?_, ?_, ?_, ?_, ?_, ?_⟩
  · intro id' mem
    rw [length]
    exact h.known id' (custody.mem_iff.mpr (List.mem_cons_of_mem id mem))
  · intro id' callback live
    rw [releases] at live
    split at live
    · cases live
    · next apart =>
      rw [← List.count_cons_of_ne (Ne.symm apart), ← custody.count_eq]
      exact h.owned id' callback live
  · intro ids mem
    rw [sets, gate] at mem
    have whole := h.whole ids mem
    refine whole.keep runs.ge (by rw [gate]) fun id' held => ?_
    -- a handle in a set is in one hand, so it is not this one
    have apart : id' ≠ id := by
      rintro rfl
      obtain ⟨callback, live⟩ := whole.lives id' held
      have once := h.owned id' callback live
      rw [custody.count_eq, List.count_cons_self] at once
      have away := List.count_eq_zero.mp (Nat.succ.inj once)
      exact away (List.mem_append_left _ (List.mem_flatten_of_mem (by rw [sets, gate]; exact mem) held))
    rw [releases, if_neg apart]
  · intro run index
    rw [placed, gate, runs]
    exact h.placed run index
  · rw [runs]
    exact h.running
  · intro run
    rw [placed, runs]
    exact h.started run
  · have balance := h.balance
    rw [ended, ended, results, gate]
    exact balance

/-- A handle is released once; what its release does besides is idle. -/
theorem release {id : HandleId} (h : board.Conserves (.release id :: tasks)) :
    (board.step (.release id)).1.Conserves ((board.step (.release id)).2 ++ tasks) := by
  cases pending : board.handles.pending? id with
  | none =>
    simp only [step, pending, List.nil_append]
    refine h.drop rfl rfl rfl rfl (fun id' => ?_) (fun _ => rfl)
    split
    · next here => rw [here, Handles.release?, pending]; rfl
    · rfl
  | some found =>
    obtain ⟨label, release⟩ := found
    have length : (board.handles.retire id).all.length = board.handles.all.length := by
      simp [Handles.retire]
    cases release with
    | disable =>
      simp only [step, pending]
      refine (idle_cons rfl).mpr (h.drop rfl rfl rfl length
        (fun id' => Handles.release?_retire id') (fun callback => ?_))
      have taken := Handles.liveWeight_retire
        (fun release => if release = .callback callback then 1 else 0) pending
      simp only [reduceCtorEq, if_false, Nat.add_zero] at taken
      exact congrArg (· + board.ran callback) taken
    | callback callback =>
      simp only [step, pending]
      refine (idle_iff (script_idle _ callback)).mpr (h.drop rfl rfl rfl length
        (fun id' => Handles.release?_retire id') (fun callback' => ?_))
      have taken := Handles.liveWeight_retire
        (fun release => if release = .callback callback' then 1 else 0) pending
      simp only [GateRelease.callback.injEq] at taken
      simp only [live, ran, log, report, spend, List.count_append, List.count_singleton,
        beq_iff_eq, GateNote.ran.injEq] at taken ⊢
      omega

/-! ## Sections -/

/-- A set is taken apart, and its handles are to be released. -/
theorem disband {gate : FeatureGate} {ids : List HandleId} {request : GateRequest}
    {transition : Transition} (h : board.Conserves tasks) (width : gate.width = board.gate.width)
    (set : (board.sets tasks).Perm (ids :: (gate.active.toList ++ tasks'.filterMap GateTask.offers?)))
    (releases : tasks.filterMap GateTask.releases? = tasks'.filterMap GateTask.releases?)
    (produces : ∀ run, tasks.countP (GateTask.produces run) = tasks'.countP (GateTask.produces run))
    (balance :
      board.ended .registered + (tasks'.countP (GateTask.ends .registered) +
          if transition = .registered then 1 else 0) =
        board.ended .disposed + (tasks'.countP (GateTask.ends .disposed) +
          if transition = .disposed then 1 else 0) + if gate.isEnabled then 1 else 0) :
    Conserves { board with gate }
      (ids.reverse.map GateTask.release ++ [.finish request transition] ++ tasks') := by
  obtain ⟨offers', releases', produces', ends'⟩ :=
    disbanded ids.reverse request transition tasks'
  refine h.move rfl rfl width (fun _ => rfl) (fun other mem => ?_) ?_
    (fun run => (produces' run).trans (produces run).symm) ?_
  · rw [sets, offers'] at mem
    exact set.mem_iff.mpr (List.mem_cons_of_mem ids mem)
  · have handles := set.flatten
    rw [List.flatten_cons] at handles
    rw [custody, custody, sets, offers', releases', releases]
    refine .trans ?_ (handles.append_right _).symm
    rw [← List.append_assoc]
    exact (List.perm_append_comm.trans ((List.reverse_perm ids).append_right _)).append_right _
  · rw [ends', ends']
    exact balance

/-- The first section of a request: it finds nothing to do, sends for a set or takes one out. -/
theorem request {request : GateRequest} (h : board.Conserves (.request request :: tasks)) :
    (board.step (.request request)).1.Conserves
      ((board.step (.request request)).2 ++ tasks) := by
  have h := (idle_cons rfl).mp h
  have unchanged : board.Conserves (.finish request .unchanged :: tasks) :=
    h.move rfl rfl rfl (fun _ => rfl) (fun _ mem => mem) (List.Perm.refl _) (fun _ => rfl) h.balance
  cases enabled : request.enabled with
  | true =>
    cases open' : board.gate.isEnabled with
    | true => simpa [step, enabled, open'] using unchanged
    | false => simpa [step, enabled, open'] using (idle_cons rfl).mpr h
  | false =>
    cases held : board.gate.active with
    | none =>
      have same : { board.gate with active := none } = board.gate := by rw [← held]
      simpa [step, enabled, FeatureGate.takeActive, held, same] using unchanged
    | some ids =>
      simp only [step, enabled, FeatureGate.takeActive, held, Bool.false_eq_true, if_false]
      refine h.disband rfl (by rw [sets, held]; rfl) rfl (fun _ => rfl) ?_
      have balance := h.balance
      simp only [FeatureGate.isEnabled, held, Option.isSome_some, if_true] at balance
      simpa [FeatureGate.isEnabled] using by omega

/-- The second section: the set is stored, or it is surplus and goes. -/
theorem offer {request : GateRequest} {ids : List HandleId}
    (h : board.Conserves (.offer request ids :: tasks)) :
    (board.step (.offer request ids)).1.Conserves
      ((board.step (.offer request ids)).2 ++ tasks) := by
  cases held : board.gate.active with
  | none =>
    simp only [step, FeatureGate.offer, held]
    have sets : Switchboard.sets { board with gate := { board.gate with active := some ids } }
        (.finish request .registered :: tasks) = board.sets (.offer request ids :: tasks) := by
      rw [Switchboard.sets, Switchboard.sets, held]
      rfl
    refine h.move rfl rfl rfl (fun _ => rfl) (fun other mem => sets ▸ mem)
      ((List.Perm.of_eq (congrArg List.flatten sets)).append_right _) (fun _ => rfl) ?_
    have balance := h.balance
    simp only [FeatureGate.isEnabled, held, Option.isSome_none, Bool.false_eq_true, if_false] at balance
    show board.ended _ + List.countP _ (_ :: tasks) = board.ended _ + List.countP _ (_ :: tasks) + 1
    rw [GateTask.countP_ends_finish, GateTask.countP_ends_finish]
    exact congrArg (· + 1) balance
  | some ids' =>
    simp only [step, FeatureGate.offer, held]
    exact h.disband rfl List.perm_middle rfl (fun _ => rfl) h.balance

/-! ## The registrar starts, requests end -/

/-- The registrar starts a run with the next number. -/
theorem register {request : GateRequest} (h : board.Conserves (.register request :: tasks)) :
    (board.step (.register request)).1.Conserves
      ((board.step (.register request)).2 ++ tasks) := by
  have h := (idle_cons rfl).mp h
  simp only [step, List.append_assoc]
  refine (idle_iff (script_idle _ _)).mpr ?_
  have noted (callback : Callback) :
      (board.notes ++ [GateNote.ran (.register (board.runs + 1))]).count (.ran callback) =
        board.ran callback + if .register (board.runs + 1) = callback then 1 else 0 := by
    rw [List.count_append, ran, List.count_singleton]
    simp only [beq_iff_eq, GateNote.ran.injEq]
  exact {
    known := h.known
    owned := h.owned
    whole := fun ids mem => (h.whole ids mem).keep (Nat.le_succ _) rfl fun _ _ => rfl
    placed := by
      intro run index
      have before := h.placed run index
      show board.live _ + (_ ++ [_]).count _ +
          ite (index < board.gate.width) (List.countP _ (_ :: tasks)) 0 =
        ite (0 < run ∧ run ≤ board.runs + 1 ∧ index < board.gate.width) 1 0
      rw [noted, if_neg (by rintro ⟨⟩), GateTask.countP_produces_produce]
      split_ifs at before ⊢ <;> omega
    running := by
      intro run due
      have before := h.running run
      have due := (GateTask.countP_produces_produce run (board.runs + 1) request tasks).symm ▸ due
      show 0 < run ∧ run ≤ board.runs + 1
      split_ifs at due <;> omega
    started := by
      intro run
      have before := h.started run
      show board.live _ + (_ ++ [_]).count _ = ite (0 < run ∧ run ≤ board.runs + 1) 1 0
      rw [noted]
      simp only [Callback.register.injEq]
      split_ifs at before ⊢ <;> omega
    balance := h.balance }

/-- A request ends; what it did to the gate is reported. -/
theorem finish {request : GateRequest} {transition : Transition}
    (h : board.Conserves (.finish request transition :: tasks)) :
    (board.step (.finish request transition)).1.Conserves
      ((board.step (.finish request transition)).2 ++ tasks) := by
  have ended (transition' : Transition) :
      Switchboard.ended (board.step (.finish request transition)).1 transition' +
          tasks.countP (GateTask.ends transition') =
        board.ended transition' +
          (GateTask.finish request transition :: tasks).countP (GateTask.ends transition') := by
    rw [GateTask.countP_ends_finish]
    simp only [step, Switchboard.ended, List.countP_append, List.countP_singleton, decide_eq_true_eq]
    omega
  refine h.move rfl rfl rfl (fun callback => ?_) (fun _ mem => mem) (List.Perm.refl _)
    (fun _ => rfl) ?_
  · have silent : (finishNote request transition).count (.ran callback) = 0 := by
      unfold finishNote
      split <;> simp
    simp [step, ran, List.count_append, silent]
  · exact (ended _).trans (h.balance.trans (congrArg (· + _) (ended _).symm))

/-- **Every task conserves**, whatever is to be done besides. -/
theorem step {task : GateTask} (h : board.Conserves (task :: tasks)) :
    (board.step task).1.Conserves ((board.step task).2 ++ tasks) := by
  cases task with
  | request => exact h.request
  | register => exact h.register
  | produce => exact h.produce
  | offer => exact h.offer
  | release => exact h.release
  | finish => exact h.finish
  | observe callback =>
    refine ((idle_cons rfl).mp h).move rfl rfl rfl (fun callback' => ?_) (fun _ mem => mem)
      (List.Perm.refl _) (fun _ => rfl) ((idle_cons rfl).mp h).balance
    simp [Switchboard.step, ran, report]

theorem keeps : Callers.Keeps Conserves where
  perm := fun tasks_perm h => h.perm tasks_perm
  call := fun _ h => (idle_cons rfl).mpr h
  teardown := teardown
  dispose := dispose
  step := step

theorem initial (name : String) (width : Nat) (script : List (Callback × List CallbackAction)) :
    (Switchboard.initial name width script).Conserves [] where
  known := nofun
  owned := nofun
  whole := nofun
  placed := by
    intro run index
    show 0 + 0 + ite (index < width) 0 0 = ite (0 < run ∧ run ≤ 0 ∧ index < width) 1 0
    split_ifs <;> omega
  running := nofun
  started := by
    intro run
    rw [if_neg fun due => absurd due.1 (Nat.not_lt.mpr due.2)]
    rfl
  balance := rfl

end Conserves
end Switchboard

namespace Callers

/-- Nobody is at a request: whoever has something to do at all is about to dispose a handle that
the registrar did not make or that is released already. -/
def AtRest (callers : Callers) : Prop :=
  ∀ task ∈ callers.tasks, ∃ id, task = .release id ∧ callers.board.mayDispose id = true

variable {callers : Callers}

theorem atRest_of_nil (nothing : callers.tasks = []) : callers.AtRest := by
  intro task mem
  rw [nothing] at mem
  cases mem

/-- At rest the live handles of the registrar are those that the gate holds. -/
theorem AtRest.live_iff (rest : callers.AtRest) (h : callers.board.Conserves callers.tasks)
    (id : HandleId) :
    (∃ callback, callers.board.handles.release? id = some (.callback callback)) ↔
      id ∈ callers.board.gate.held := by
  have held : callers.board.gate.held = callers.board.gate.active.toList.flatten := by
    cases active : callers.board.gate.active <;> simp [FeatureGate.held, active]
  have none_offered : callers.tasks.filterMap GateTask.offers? = [] := by
    refine List.filterMap_eq_nil_iff.mpr fun task mem => ?_
    obtain ⟨id, rfl, -⟩ := rest task mem
    rfl
  constructor
  · rintro ⟨callback, live⟩
    have once := h.owned id callback live
    have somewhere : id ∈ callers.board.custody callers.tasks :=
      List.count_pos_iff.mp (once ▸ Nat.one_pos)
    rw [Switchboard.custody, Switchboard.sets, none_offered, List.append_nil, ← held] at somewhere
    rcases List.mem_append.mp somewhere with stored | leaving
    · exact stored
    · obtain ⟨task, mem, releases⟩ := List.mem_filterMap.mp leaving
      obtain ⟨id', rfl, allowed⟩ := rest task mem
      cases releases
      obtain ⟨label, pending⟩ := Handles.release?_eq_some.mp live
      exact absurd pending ((callers.board.not_callback_of_mayDispose allowed).2 label callback)
  · intro stored
    rw [held] at stored
    obtain ⟨ids, active, mem⟩ := List.mem_flatten.mp stored
    exact (h.whole ids (List.mem_append_left _ active)).lives id mem

/-- At rest every handle that a run of the registrar made was released, or it is held. -/
theorem AtRest.ran_iff (rest : callers.AtRest) (h : callers.board.Conserves callers.tasks)
    {run index : Nat} (pos : 0 < run) (le : run ≤ callers.board.runs)
    (lt : index < callers.board.gate.width) :
    callers.board.ran (.release run index) = 0 ↔ ∃ id ∈ callers.board.gate.held,
      callers.board.handles.release? id = some (.callback (.release run index)) := by
  have made : callers.tasks.countP (GateTask.produces run) = 0 := by
    refine List.countP_eq_zero.mpr fun task mem => ?_
    obtain ⟨id, rfl, -⟩ := rest task mem
    exact Bool.false_ne_true
  have once : callers.board.live (.release run index) + callers.board.ran (.release run index) = 1 := by
    simpa [made, pos, le, lt] using h.placed run index
  have unreleased : callers.board.ran (.release run index) = 0 ↔
      0 < callers.board.live (.release run index) := by omega
  rw [unreleased, Switchboard.live, Handles.liveWeight_pos]
  constructor
  · rintro ⟨id, live⟩
    exact ⟨id, (rest.live_iff h id).mp ⟨_, live⟩, live⟩
  · rintro ⟨id, -, live⟩
    exact ⟨id, live⟩

/-- At rest everything that happened to the gate is reported. -/
theorem AtRest.ended_eq (rest : callers.AtRest) (h : callers.board.Conserves callers.tasks) :
    callers.board.ended .registered =
      callers.board.ended .disposed + if callers.board.gate.isEnabled then 1 else 0 := by
  have reported (transition : Transition) :
      callers.tasks.countP (GateTask.ends transition) = 0 := by
    refine List.countP_eq_zero.mpr fun task mem => ?_
    obtain ⟨id, rfl, -⟩ := rest task mem
    exact Bool.false_ne_true
  simpa [reported] using h.balance

/-- **A gate conserves**, whatever its callers do and in whatever order they come to it: it holds
nothing or one complete set of one run of the registrar; every callback is run at most once;
callbacks are run by callers that do not hold the lock; and whenever nobody is at a request, the
handles that are not released are those that the gate holds, and the reports of the requests tell
whether it is enabled. -/
theorem gate_conserves (name : String) (width : Nat)
    (script : List (Callback × List CallbackAction)) (actions : List CallersAction) :
    let callers := (initial name width script).run actions
    let board := callers.board
    (∀ ids ∈ board.gate.active, ids.length = width ∧ board.Complete ids) ∧
      (∀ callback, board.ran callback ≤ 1) ∧
      (∀ caller task, callers.next? caller = some task → task.isCallback = true →
        callers.holder ≠ some caller) ∧
      (∀ action callback, (callers.perform action).board.ran callback ≠ board.ran callback →
        ∃ caller task, action = .advance caller ∧ callers.next? caller = some task ∧
          task.isCallback = true) ∧
      (callers.AtRest →
        (∀ id, (∃ callback, board.handles.release? id = some (.callback callback)) ↔
          id ∈ board.gate.held) ∧
        (∀ run index, 0 < run → run ≤ board.runs → index < width →
          (board.ran (.release run index) = 0 ↔ ∃ id ∈ board.gate.held,
            board.handles.release? id = some (.callback (.release run index)))) ∧
        board.ended .registered =
          board.ended .disposed + if board.gate.isEnabled then 1 else 0) := by
  intro callers board
  have start : (initial name width script).board.Conserves (initial name width script).tasks :=
    .initial name width script
  have conserves : board.Conserves callers.tasks := Switchboard.Conserves.keeps.run start actions
  have unlocked : (initial name width script).Locked := nofun
  have locked : callers.Locked := unlocked.run actions
  have narrow : (initial name width script).board.gate.width = width := rfl
  have fixed : board.gate.width = width := width_run narrow actions
  refine ⟨?_, ?_, ?_, ?_, ?_⟩
  · intro ids active
    have whole := conserves.whole ids (List.mem_append_left _ (Option.mem_toList.mpr active))
    exact ⟨fixed ▸ whole.length, whole⟩
  · intro callback
    cases callback with
    | register run =>
      have started := conserves.started run
      split_ifs at started <;> omega
    | release run index =>
      have placed := conserves.placed run index
      split_ifs at placed <;> omega
  · exact fun caller task next callback holds => locked.not_callback next callback holds
  · exact fun action callback => perform_ran
  · intro rest
    exact ⟨rest.live_iff conserves,
      fun run index pos le lt => rest.ran_iff conserves pos le (fixed ▸ lt), rest.ended_eq conserves⟩

/-- Two callers enable at the same time and the second one overtakes: the set of the first run is
surplus, and while it is released, the release asks for the gate again. -/
theorem gate_conserves_of_race :
    let script := [(Callback.release 1 1, [CallbackAction.set true])]
    let actions : List CallersAction := [.call true, .call true,
      .lock 0, .advance 0, .lock 1, .advance 1, .advance 0, .advance 1, .advance 1, .advance 0,
      .lock 1, .advance 1, .advance 1, .lock 0, .advance 0, .advance 0,
      .lock 0, .advance 0, .advance 0, .advance 0, .advance 0]
    let callers := (initial "gate" 2 script).run actions
    callers.AtRest ∧ callers.board.gate.active = some [0, 1] ∧ callers.board.Complete [0, 1] ∧
      ∀ id, (∃ callback, callers.board.handles.release? id = some (.callback callback)) ↔
        id ∈ callers.board.gate.held := by
  intro script actions
  dsimp only
  obtain ⟨whole, -, -, -, rests⟩ := gate_conserves "gate" 2 script actions
  have nothing : ((initial "gate" 2 script).run actions).tasks = [] := by decide +kernel
  have rest := atRest_of_nil nothing
  exact ⟨rest, by decide +kernel, (whole [0, 1] (by decide +kernel)).2, (rests rest).1⟩

end Callers
end EngineSync
