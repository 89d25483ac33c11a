import EngineSync.FeatureGate.Requests

/-!
# Callers of a shared gate

A caller asks for a state of the gate and works off what that takes: sections on the gate, and
between them runs of the registrar and of release actions.  Both of these may ask for a state of
the gate themselves, as a script lays down.  Every part of a script is used once, so the work of
a caller ends.
-/
namespace EngineSync

/-- A run of the registrar, counted from one, or the release of one of the handles it made. -/
inductive Callback where
  | register (run : Nat)
  | release (run index : Nat)
deriving DecidableEq, Repr, Inhabited

/-- The name of a callback. -/
def Callback.name : Callback → String
  | .register run => "register " ++ Decimal.natural run
  | .release run index => "release " ++ Decimal.natural run ++ "." ++ Decimal.natural index

/-- What a callback does besides its own job. -/
inductive CallbackAction where
  | observe
  | set (enabled : Bool)
deriving DecidableEq, Repr, Inhabited

/-- A request for a state of the gate; a callback may have made it. -/
structure GateRequest where
  caller : Option Callback
  enabled : Bool
deriving DecidableEq, Repr, Inhabited

/-- What the release of a handle does: it is a callback, or it disables the gate. -/
inductive GateRelease where
  | callback (callback : Callback)
  | disable
deriving DecidableEq, Repr, Inhabited

/-- What callbacks report. -/
inductive GateNote where
  | ran (callback : Callback)
  | saw (callback : Callback) (enabled : Bool) (held : Nat)
  | got (callback : Callback) (enabled : Bool) (transition : Transition)
deriving DecidableEq, Repr, Inhabited

/-- The wording of a note. -/
def GateNote.text : GateNote → String
  | .ran callback => callback.name
  | .saw callback enabled held =>
    callback.name ++ " sees " ++ Text.flag enabled ++ " " ++ Decimal.natural held
  | .got callback enabled transition =>
    callback.name ++ (if enabled then " enable: " else " disable: ") ++ transition.name

/-- What a caller has still to do. -/
inductive GateTask where
  /-- The first section of a request. -/
  | request (request : GateRequest)
  /-- The start of the registrar. -/
  | register (request : GateRequest)
  /-- The end of the registrar: it returns the handles of its run. -/
  | produce (request : GateRequest) (run : Nat)
  /-- The second section of a request. -/
  | offer (request : GateRequest) (handles : List HandleId)
  /-- The release of a handle, unless it was released before. -/
  | release (handle : HandleId)
  /-- The end of a request. -/
  | finish (request : GateRequest) (transition : Transition)
  /-- A look at the gate. -/
  | observe (callback : Callback)
deriving DecidableEq, Repr, Inhabited

/-- A gate, the handles around it, and what is known of its callers. -/
structure Switchboard where
  gate : FeatureGate
  handles : Handles GateRelease
  runs : Nat
  script : List (Callback × List CallbackAction)
  results : List (GateRequest × Transition)
  notes : List GateNote
  journal : Journal
deriving DecidableEq, Repr, Inhabited

namespace CallbackAction

/-- The task that an action of a callback stands for. -/
def task (callback : Callback) : CallbackAction → GateTask
  | .observe => .observe callback
  | .set enabled => .request ⟨some callback, enabled⟩

end CallbackAction

namespace Switchboard

/-- A disabled gate for sets of `width` handles. -/
def initial (name : String) (width : Nat)
    (script : List (Callback × List CallbackAction)) : Switchboard :=
  ⟨.disabled name width, Handles.empty, 0, script, [], [], []⟩

/-- Adds a note. -/
def report (board : Switchboard) (note : GateNote) : Switchboard :=
  { board with notes := board.notes ++ [note] }

/-- Adds an entry to the journal. -/
def log (board : Switchboard) (entry : Entry) : Switchboard :=
  { board with journal := board.journal ++ [entry] }

/-- What the script has a callback do. -/
def actions (board : Switchboard) (callback : Callback) : List CallbackAction :=
  (board.script.lookup callback).getD []

/-- Uses up what the script has a callback do. -/
def spend (board : Switchboard) (callback : Callback) : Switchboard :=
  { board with script := board.script.eraseP (·.1 = callback) }

/-- Makes the handles of a run of the registrar from a place on. -/
def makeHandles (run index : Nat) : Nat → Handles GateRelease → Handles GateRelease × List HandleId
  | 0, handles => (handles, [])
  | more + 1, handles =>
    let callback := Callback.release run index
    let (handles, id) := handles.add callback.name (.callback callback)
    let (handles, ids) := makeHandles run (index + 1) more handles
    (handles, id :: ids)

/-- What a finished request leaves in the journal. -/
def finishEntry (gate : FeatureGate) : Transition → Journal
  | .registered => [.gateEnabled gate.name gate.width]
  | .disposed => [.gateDisabled gate.name]
  | .unchanged => []

/-- What a finished request leaves in the notes: only callbacks report theirs. -/
def finishNote (request : GateRequest) (transition : Transition) : List GateNote :=
  match request.caller with
  | some callback => [.got callback request.enabled transition]
  | none => []

/-- One task; the tasks that take its place. -/
def step (board : Switchboard) : GateTask → Switchboard × List GateTask
  | .request request =>
    if request.enabled then
      if board.gate.isEnabled then (board, [.finish request .unchanged])
      else (board, [.register request])
    else
      let (gate, taken) := board.gate.takeActive
      match taken with
      | none => ({ board with gate }, [.finish request .unchanged])
      | some handles =>
        ({ board with gate },
          handles.reverse.map GateTask.release ++ [.finish request .disposed])
  | .register request =>
    let run := board.runs + 1
    let callback := Callback.register run
    ((({ board with runs := run } : Switchboard).report (.ran callback)).spend callback,
      (board.actions callback).map (CallbackAction.task callback) ++ [.produce request run])
  | .produce request run =>
    let (handles, ids) := makeHandles run 0 board.gate.width board.handles
    ({ board with handles }, [.offer request ids])
  | .offer request handles =>
    let (gate, surplus) := board.gate.offer handles
    match surplus with
    | none => ({ board with gate }, [.finish request .registered])
    | some handles =>
      ({ board with gate }, handles.reverse.map GateTask.release ++ [.finish request .unchanged])
  | .release id =>
    match board.handles.pending? id with
    | none => (board, [])
    | some (label, release) =>
      let board := ({ board with handles := board.handles.retire id } : Switchboard).log
        (.disposeHandle label)
      match release with
      | .disable => (board, [.request ⟨none, false⟩])
      | .callback callback =>
        ((board.report (.ran callback)).spend callback,
          (board.actions callback).map (CallbackAction.task callback))
  | .finish request transition =>
    ({ board with
        results := board.results ++ [(request, transition)]
        notes := board.notes ++ finishNote request transition
        journal := board.journal ++ finishEntry board.gate transition }, [])
  | .observe callback =>
    (board.report (.saw callback board.gate.isEnabled board.gate.heldCount), [])

/-- What a task can still cost. -/
def taskWeight (width : Nat) : GateTask → Nat
  | .observe _ => 1
  | .finish _ _ => 1
  | .release _ => 3
  | .offer _ handles => 3 * handles.length + 2
  | .produce _ _ => 3 * width + 3
  | .register _ => 3 * width + 4
  | .request request => if request.enabled then 3 * width + 5 else 2

/-- What an agenda can still cost. -/
def agendaWeight (width : Nat) (agenda : List GateTask) : Nat :=
  agenda.foldr (fun task total => taskWeight width task + total) 0

/-- What a script can still cost. -/
def scriptWeight (width : Nat) (script : List (Callback × List CallbackAction)) : Nat :=
  script.foldr (fun (callback, actions) total =>
    agendaWeight width (actions.map (CallbackAction.task callback)) + total) 0

/-- What a caller can still cost, by its agenda, by the script and by the handles of the gate. -/
def weight (board : Switchboard) (agenda : List GateTask) : Nat :=
  agendaWeight board.gate.width agenda + scriptWeight board.gate.width board.script +
    3 * board.gate.held.length

@[simp] theorem agendaWeight_nil (width : Nat) : agendaWeight width [] = 0 := rfl

@[simp] theorem agendaWeight_cons (width : Nat) (task : GateTask) (agenda : List GateTask) :
    agendaWeight width (task :: agenda) = taskWeight width task + agendaWeight width agenda := rfl

@[simp] theorem agendaWeight_append (width : Nat) (first second : List GateTask) :
    agendaWeight width (first ++ second) =
      agendaWeight width first + agendaWeight width second := by
  induction first with
  | nil => simp
  | cons task first ih =>
    rw [List.cons_append, agendaWeight_cons, agendaWeight_cons, ih, Nat.add_assoc]

@[simp] theorem agendaWeight_reverse (width : Nat) (agenda : List GateTask) :
    agendaWeight width agenda.reverse = agendaWeight width agenda := by
  induction agenda with
  | nil => rfl
  | cons task agenda ih =>
    rw [List.reverse_cons, agendaWeight_append, ih, agendaWeight_cons, agendaWeight_cons,
      agendaWeight_nil]
    omega

@[simp] theorem agendaWeight_release (width : Nat) (handles : List HandleId) :
    agendaWeight width (handles.map GateTask.release) = 3 * handles.length := by
  induction handles with
  | nil => rfl
  | cons id rest ih =>
    simp only [List.map_cons, agendaWeight_cons, ih, taskWeight, List.length_cons]
    omega

@[simp] theorem length_makeHandles (run index count : Nat) (handles : Handles GateRelease) :
    (makeHandles run index count handles).2.length = count := by
  induction count generalizing index handles with
  | zero => rfl
  | succ count ih => simp [makeHandles, ih]

/-- What a callback is to do was part of the script and is spent with it. -/
theorem scriptWeight_spend (width : Nat) (board : Switchboard) (callback : Callback) :
    agendaWeight width ((board.actions callback).map (CallbackAction.task callback)) +
      scriptWeight width (board.spend callback).script = scriptWeight width board.script := by
  simp only [actions, spend]
  induction board.script with
  | nil => rfl
  | cons entry rest ih =>
    obtain ⟨key, actions⟩ := entry
    by_cases same : key = callback
    · subst same
      simp [scriptWeight]
    · have other : (callback == key) = false := by
        simpa using fun equal => same equal.symm
      simp only [List.lookup_cons, other, List.eraseP_cons, same, decide_false, cond_false,
        scriptWeight, List.foldr_cons]
      simp only [scriptWeight] at ih
      omega

/-- Every task costs something. -/
theorem weight_step (board : Switchboard) (task : GateTask) (agenda : List GateTask) :
    (board.step task).1.weight ((board.step task).2 ++ agenda) < board.weight (task :: agenda) := by
  cases task with
  | request request =>
    simp only [step]
    split
    · split <;> simp_all [weight, taskWeight]
    · simp only [FeatureGate.takeActive]
      split
      · simp_all [weight, taskWeight, FeatureGate.held]
      · simp_all [weight, taskWeight, FeatureGate.held]
        omega
  | register request =>
    have := scriptWeight_spend board.gate.width board (.register (board.runs + 1))
    simp only [step, weight, spend, report, agendaWeight_append, agendaWeight_cons,
      agendaWeight_nil, taskWeight] at this ⊢
    omega
  | produce request run =>
    simp only [step, weight, agendaWeight_append, agendaWeight_cons, agendaWeight_nil, taskWeight,
      length_makeHandles]
    omega
  | offer request handles =>
    simp only [step, FeatureGate.offer]
    cases held : board.gate.active <;>
      simp [weight, taskWeight, FeatureGate.held, held] <;> omega
  | release id =>
    simp only [step]
    cases board.handles.pending? id with
    | none => simp [weight, taskWeight]
    | some found =>
      obtain ⟨label, release⟩ := found
      cases release with
      | disable =>
        simp only [weight, log, agendaWeight_append, agendaWeight_cons, agendaWeight_nil,
          taskWeight]
        simp
      | callback callback =>
        have := scriptWeight_spend board.gate.width board callback
        simp only [weight, log, actions, spend, report, agendaWeight_append, agendaWeight_cons,
          taskWeight] at this ⊢
        omega
  | finish request transition => simp [step, weight, taskWeight]
  | observe callback => simp [step, weight, taskWeight, report]

/-- Works off an agenda. -/
def run (board : Switchboard) : List GateTask → Switchboard
  | [] => board
  | task :: agenda =>
    have := weight_step board task agenda
    (board.step task).1.run ((board.step task).2 ++ agenda)
termination_by agenda => board.weight agenda

/-- A request from outside, carried out with all its callbacks; the transition it ended with. -/
def setShared (board : Switchboard) (enabled : Bool) : Switchboard × Transition :=
  let board := board.run [.request ⟨none, enabled⟩]
  (board, (board.results.getLast?.map (·.2)).getD .unchanged)

/-- Disposes a handle; tells whether this released it. -/
def dispose (board : Switchboard) (id : HandleId) : Switchboard × Bool :=
  (board.run [.release id], board.handles.isLive id)

/-- Makes a handle that disables the gate when it is disposed. -/
def makeTeardown (board : Switchboard) : Switchboard × HandleId :=
  let (handles, id) := board.handles.add board.gate.teardownLabel .disable
  ({ board with handles }, id)

/-- The release of a handle by the owner of the gate; callbacks cannot reach the gate now and only
report their run. -/
def releaseOwned (board : Switchboard) (id : HandleId) : Switchboard :=
  match board.handles.pending? id with
  | some (label, .callback callback) =>
    (({ board with handles := board.handles.retire id } : Switchboard).log
      (.disposeHandle label)).report (.ran callback)
  | _ => board

/-- What the owner of the gate calls; callbacks only report their runs. -/
def ownedCalls : GateCalls Switchboard where
  register board :=
    let run := board.runs + 1
    let (handles, ids) := makeHandles run 0 board.gate.width board.handles
    (({ board with runs := run, handles } : Switchboard).report (.ran (.register run)), ids)
  dispose := releaseOwned
  log := log

/-- A request by the only owner of the gate, which nobody else can touch meanwhile. -/
def setOwned (board : Switchboard) (enabled : Bool) : Switchboard × Transition :=
  let (gated, transition) := Gated.setOwned ownedCalls ⟨board.gate, board⟩ enabled
  ({ gated.around with gate := gated.gate }, transition)

end Switchboard
end EngineSync
