import EngineSync.FeatureGate.Switchboard
import EngineSync.Proofs.Releases

/-!
# One owner or several

A gate that is shared is asked in sections, with the registrar and the releases between them, and a
gate with one owner is asked in one go.  As long as the callbacks leave the gate alone and nobody
else comes, a section finds the gate as the one before left it, so both ways come to the same
(`Gated.setShared_eq`).  So does the agenda of a caller, with a script that asks for nothing
(`Switchboard.setShared_told`).  Each request starts from what the others left, so this goes for
every sequence of them.
-/
namespace EngineSync

/-- What requests one after another answer: the transition of each and the state it leaves. -/
def answers {α : Type} (request : α → Bool → α × Transition) (state : α) :
    List Bool → List (Transition × α)
  | [] => []
  | enabled :: rest =>
    let (state, transition) := request state enabled
    (transition, state) :: answers request state rest

/-- **A request comes to the same either way**, whatever the registrar and the releases do around
the gate. -/
theorem Gated.setShared_eq {σ : Type} (calls : GateCalls σ) (gated : Gated σ) (enabled : Bool) :
    gated.setShared calls enabled = gated.setOwned calls enabled := by
  obtain ⟨⟨name, width, active⟩, around⟩ := gated
  cases enabled with
  | true => cases active <;> rfl
  | false => cases active <;> rfl

namespace Switchboard
variable {board shared owned : Switchboard}

/-! ## Agendas -/

theorem run_nil (board : Switchboard) : board.run [] = board := by
  rw [run]

theorem run_cons (board : Switchboard) (task : GateTask) (agenda : List GateTask) :
    board.run (task :: agenda) = (board.step task).1.run ((board.step task).2 ++ agenda) := by
  rw [run]

/-! ## Callbacks that leave the gate alone -/

/-- No callback does anything besides its own job. -/
def Quiet (script : List (Callback × List CallbackAction)) : Prop :=
  ∀ entry ∈ script, entry.2 = []

/-- The board with another script and with other results of its callers. -/
def told (board : Switchboard) (script : List (Callback × List CallbackAction))
    (results : List (GateRequest × Transition)) : Switchboard :=
  { board with script, results }

variable {script : List (Callback × List CallbackAction)}
  {results : List (GateRequest × Transition)}

theorem Quiet.actions (quiet : Quiet script) (callback : Callback) :
    (board.told script results).actions callback = [] := by
  show (script.lookup callback).getD [] = []
  unfold Quiet at quiet
  induction script with
  | nil => rfl
  | cons entry rest ih =>
    obtain ⟨key, actions⟩ := entry
    obtain rfl : actions = [] := quiet (key, actions) List.mem_cons_self
    rw [List.lookup_cons]
    split
    · rfl
    · exact ih fun entry mem => quiet entry (List.mem_cons_of_mem _ mem)

theorem Quiet.spend (quiet : Quiet script) (callback : Callback) :
    Quiet (script.eraseP (·.1 = callback)) :=
  fun entry mem => quiet entry (List.mem_of_mem_eraseP mem)

/-- All releases are the registrar's. -/
def OnlyCallbacks (board : Switchboard) : Prop :=
  ∀ id label, board.handles.pending? id ≠ some (label, .disable)

/-- A quiet caller releases a handle as an owner does. -/
theorem step_release (quiet : Quiet script) (only : board.OnlyCallbacks) (id : HandleId) :
    ∃ script', Quiet script' ∧ (board.told script results).step (.release id) =
      ((board.releaseOwned id).told script' results, []) := by
  simp only [step, releaseOwned]
  cases found : board.handles.pending? id with
  | none =>
    have none : (board.told script results).handles.pending? id = none := found
    rw [none]
    exact ⟨script, quiet, rfl⟩
  | some pending =>
    obtain ⟨label, release⟩ := pending
    have some : (board.told script results).handles.pending? id = some (label, release) := found
    rw [some]
    cases release with
    | disable => exact absurd found (only id label)
    | callback callback =>
      have nothing := @Quiet.actions { board with handles := board.handles.retire id } script results
        quiet callback
      refine ⟨_, quiet.spend callback, ?_⟩
      exact congrArg₂ Prod.mk rfl (congrArg (List.map (CallbackAction.task callback)) nothing)

theorem OnlyCallbacks.releaseOwned (only : board.OnlyCallbacks) (id : HandleId) :
    (board.releaseOwned id).OnlyCallbacks := by
  unfold Switchboard.releaseOwned
  split
  · intro id' label' found
    have here : (board.handles.retire id).pending? id' = some (label', .disable) := found
    rw [Handles.pending?_retire] at here
    split at here
    · cases here
    · exact only id' label' here
  · exact only

/-- Handles one after another. -/
theorem run_releases (quiet : Quiet script) (only : board.OnlyCallbacks) (ids : List HandleId)
    (agenda : List GateTask) :
    ∃ script', Quiet script' ∧ (ids.foldl Switchboard.releaseOwned board).OnlyCallbacks ∧
      (board.told script results).run (ids.map .release ++ agenda) =
        ((ids.foldl Switchboard.releaseOwned board).told script' results).run agenda := by
  induction ids generalizing board script with
  | nil => exact ⟨script, quiet, only, rfl⟩
  | cons id ids ih =>
    obtain ⟨between, quiet', first⟩ := @step_release board script results quiet only id
    obtain ⟨script', quiet'', only', rest⟩ := ih quiet' (only.releaseOwned id)
    refine ⟨script', quiet'', only', ?_⟩
    rw [List.map_cons, List.cons_append, run_cons, first]
    exact rest

theorem OnlyCallbacks.makeHandles {table : Handles GateRelease}
    (only : ∀ id label, table.pending? id ≠ some (label, .disable)) (run index count : Nat) :
    ∀ id label, (makeHandles run index count table).1.pending? id ≠ some (label, .disable) := by
  induction count generalizing index table with
  | zero => exact only
  | succ count ih =>
    have added (id : HandleId) (label : String) :
        (table.add (Callback.release run index).name (.callback (.release run index))).1.pending? id ≠
          some (label, .disable) := by
      rw [Handles.pending?_add]
      split
      · simp
      · exact only id label
    exact ih added (index + 1)

/-! ## Requests from outside -/

/-- The end of a request. -/
theorem run_finish (request : GateRequest) (outside : request.caller = none)
    (transition : Transition) :
    (board.told script results).run [.finish request transition] =
      ({ board with journal := board.journal ++ finishEntry board.gate transition }).told script
        (results ++ [(request, transition)]) := by
  rw [run_cons]
  show Switchboard.run _ [] = _
  rw [run_nil]
  simp [step, told, finishNote, outside]

/-- The release of a handle pays no heed to the gate. -/
theorem releaseOwned_with (gate : FeatureGate) (id : HandleId) :
    ({ board with gate } : Switchboard).releaseOwned id = { board.releaseOwned id with gate } := by
  simp only [releaseOwned]
  split <;> rfl

theorem foldl_releaseOwned_with (gate : FeatureGate) (ids : List HandleId) :
    ids.foldl releaseOwned ({ board with gate } : Switchboard) =
      { ids.foldl releaseOwned board with gate } := by
  induction ids generalizing board with
  | nil => rfl
  | cons id ids ih =>
    rw [List.foldl_cons, releaseOwned_with]
    exact ih

/-- The owner of a gate might as well ask it as one of many. -/
theorem setOwned_eq (board : Switchboard) (enabled : Bool) :
    board.setOwned enabled =
      let (gated, transition) := Gated.setShared ownedCalls ⟨board.gate, board⟩ enabled
      ({ gated.around with gate := gated.gate }, transition) := by
  rw [Gated.setShared_eq]
  rfl

/-- What an owner's request and a quiet caller's have in common: the same board but for the script
and the results, and the same transition as the last of these. -/
def Agree (shared : Switchboard) (owned : Switchboard × Transition)
    (results : List (GateRequest × Transition)) (request : GateRequest) : Prop :=
  ∃ script, Quiet script ∧ owned.1.OnlyCallbacks ∧
    shared = owned.1.told script (results ++ [(request, owned.2)])

/-- A quiet caller disables the gate as its owner does. -/
theorem run_disable (quiet : Quiet script) (only : board.OnlyCallbacks) :
    Agree ((board.told script results).run [.request ⟨none, false⟩]) (board.setOwned false) results
      ⟨none, false⟩ := by
  rw [setOwned_eq, run_cons]
  let gate : FeatureGate := { board.gate with active := none }
  let taken : Switchboard := { board with gate }
  cases active : board.gate.active with
  | none =>
    have first : (board.told script results).step (.request ⟨none, false⟩) =
        (taken.told script results, [.finish ⟨none, false⟩ .unchanged]) := by
      simp [step, told, FeatureGate.takeActive, active, taken, gate]
    have asked : Gated.setShared ownedCalls ⟨board.gate, board⟩ false =
        (⟨gate, board⟩, .unchanged) := by
      simp [Gated.setShared, Gated.disableShared, FeatureGate.takeActive, active, gate]
    rw [first, asked]
    refine ⟨script, quiet, only, ?_⟩
    show Switchboard.run _ [_] = _
    rw [run_finish _ rfl]
    simp [finishEntry, taken, told]
  | some ids =>
    have first : (board.told script results).step (.request ⟨none, false⟩) =
        (taken.told script results,
          ids.reverse.map .release ++ [.finish ⟨none, false⟩ .disposed]) := by
      simp [step, told, FeatureGate.takeActive, active, taken, gate]
    have asked : Gated.setShared ownedCalls ⟨board.gate, board⟩ false =
        (⟨gate, (ids.reverse.foldl releaseOwned board).log (.gateDisabled gate.name)⟩,
          .disposed) := by
      simp [Gated.setShared, Gated.disableShared, FeatureGate.takeActive, active, gate, ownedCalls,
        GateCalls.release]
    obtain ⟨script', quiet', only', released⟩ := @run_releases taken script results quiet only
      ids.reverse [.finish ⟨none, false⟩ .disposed]
    rw [foldl_releaseOwned_with] at only' released
    rw [first, asked, List.append_nil, released, run_finish _ rfl]
    exact ⟨script', quiet', only', rfl⟩

/-- A quiet caller enables the gate as its owner does. -/
theorem run_enable (quiet : Quiet script) (only : board.OnlyCallbacks) :
    Agree ((board.told script results).run [.request ⟨none, true⟩]) (board.setOwned true) results
      ⟨none, true⟩ := by
  rw [setOwned_eq, run_cons]
  cases active : board.gate.active with
  | some ids =>
    have first : (board.told script results).step (.request ⟨none, true⟩) =
        (board.told script results, [.finish ⟨none, true⟩ .unchanged]) := by
      simp [step, told, FeatureGate.isEnabled, active]
    have asked : Gated.setShared ownedCalls ⟨board.gate, board⟩ true =
        (⟨board.gate, board⟩, .unchanged) := by
      simp [Gated.setShared, Gated.enableShared, FeatureGate.isEnabled, active]
    rw [first, asked]
    refine ⟨script, quiet, only, ?_⟩
    show Switchboard.run _ [_] = _
    rw [run_finish _ rfl]
    simp [finishEntry, told]
  | none =>
    let request : GateRequest := ⟨none, true⟩
    let run := board.runs + 1
    let made := makeHandles run 0 board.gate.width board.handles
    let gate : FeatureGate := { board.gate with active := some made.2 }
    let called : Switchboard := ({ board with runs := run } : Switchboard).report
      (.ran (.register run))
    let script' := script.eraseP (·.1 = Callback.register run)
    -- the gate is found closed, the registrar starts and ends, and the set is handed in
    have looked : (board.told script results).step (.request request) =
        (board.told script results, [.register request]) := by
      simp [step, told, FeatureGate.isEnabled, active, request]
    have started : (board.told script results).step (.register request) =
        (called.told script' results, [.produce request run]) := by
      have nothing := @Quiet.actions board script results quiet (.register run)
      simp only [step]
      rw [show (board.told script results).runs = board.runs from rfl, nothing]
      rfl
    have ended : (called.told script' results).step (.produce request run) =
        ({ called with handles := made.1 }.told script' results, [.offer request made.2]) := rfl
    have stored : ({ called with handles := made.1 }.told script' results).step
          (.offer request made.2) =
        ({ called with handles := made.1, gate }.told script' results,
          [.finish request .registered]) := by
      simp [step, told, FeatureGate.offer, active, called, report, gate]
    have asked : Gated.setShared ownedCalls ⟨board.gate, board⟩ true =
        (⟨gate, ({ called with handles := made.1 } : Switchboard).log
          (.gateEnabled gate.name gate.width)⟩, .registered) := by
      simp [Gated.setShared, Gated.enableShared, FeatureGate.isEnabled, FeatureGate.offer, active,
        ownedCalls, gate, called, report, made, run]
    rw [looked, asked]
    refine ⟨script', quiet.spend _, OnlyCallbacks.makeHandles only run 0 board.gate.width, ?_⟩
    show Switchboard.run _ [_] = _
    rw [run_cons, started]
    show Switchboard.run _ [_] = _
    rw [run_cons, ended]
    show Switchboard.run _ [_] = _
    rw [run_cons, stored]
    show Switchboard.run _ [_] = _
    rw [run_finish _ rfl]
    rfl

/-- **A quiet caller does what the owner does**, at every request. -/
theorem setShared_told (quiet : Quiet script) (only : board.OnlyCallbacks) (enabled : Bool) :
    ∃ script', Quiet script' ∧ (board.setOwned enabled).1.OnlyCallbacks ∧
      (board.told script results).setShared enabled =
        ((board.setOwned enabled).1.told script'
          (results ++ [(⟨none, enabled⟩, (board.setOwned enabled).2)]),
          (board.setOwned enabled).2) := by
  have agree : Agree ((board.told script results).run [.request ⟨none, enabled⟩])
      (board.setOwned enabled) results ⟨none, enabled⟩ := by
    cases enabled with
    | true => exact run_enable quiet only
    | false => exact run_disable quiet only
  obtain ⟨script', quiet', only', same⟩ := agree
  refine ⟨script', quiet', only', ?_⟩
  simp only [setShared, same]
  exact congrArg (Prod.mk _) (by simp [told])

/-- Two boards show the same: the gate with what it holds, the handles, the runs of the registrar,
what was reported, by callbacks in the order in which they ran, and the journal. -/
structure Alike (board board' : Switchboard) : Prop where
  gate : board.gate = board'.gate
  handles : board.handles = board'.handles
  runs : board.runs = board'.runs
  notes : board.notes = board'.notes
  journal : board.journal = board'.journal

/-- So it does at any number of requests. -/
theorem answers_told (quiet : Quiet script) (only : board.OnlyCallbacks) (requests : List Bool) :
    List.Forall₂ (fun shared owned => shared.1 = owned.1 ∧ shared.2.Alike owned.2)
      (answers setShared (board.told script results) requests)
      (answers setOwned board requests) := by
  induction requests generalizing board script results with
  | nil => exact .nil
  | cons enabled rest ih =>
    obtain ⟨script', quiet', only', same⟩ := @setShared_told board script results quiet only enabled
    simp only [answers, same]
    exact .cons ⟨rfl, rfl, rfl, rfl, rfl, rfl⟩ (ih quiet' only')

end Switchboard

/-! ## The formatting gate -/

theorem disposeEach_fst {σ : Type} (dispose : σ → HandleId → σ × Bool) (state : σ)
    (ids : List HandleId) :
    (disposeEach dispose state ids).1 = ids.foldl (fun state id => (dispose state id).1) state := by
  induction ids generalizing state with
  | nil => rfl
  | cons id ids ih => exact ih (dispose state id).1

namespace Environment
variable {env around : Environment}

/-- What the formatting gate for a language calls. -/
def gateCalls (language : String) : GateCalls Environment where
  register env := env.registerProviders language ProviderKind.formatting
  dispose env handle := (env.disposePlain handle).1
  log env entry := env.log [entry]

/-- Registering pays no heed to the gates. -/
theorem registerProviders_setGate (id : GateId) (gate : FeatureGate) (language : String)
    (kinds : List ProviderKind) :
    (env.setGate id gate).registerProviders language kinds =
      ((env.registerProviders language kinds).1.setGate id gate,
        (env.registerProviders language kinds).2) := by
  rw [registerProviders_eq, registerProviders_eq]
  rfl

/-- Releases that dispose no other handle pay no heed to the gates. -/
theorem disposePlain_setGate (id : GateId) (gate : FeatureGate) (handle : HandleId) :
    ((env.setGate id gate).disposePlain handle).1 = (env.disposePlain handle).1.setGate id gate := by
  have pending : (env.setGate id gate).handles.pending? handle = env.handles.pending? handle := rfl
  unfold disposePlain take?
  rw [pending]
  cases env.handles.pending? handle with
  | none => rfl
  | some found =>
    obtain ⟨label, release⟩ := found
    cases release <;> rfl

theorem release_setGate (language : String) (id : GateId) (gate : FeatureGate)
    (handles : List HandleId) :
    (gateCalls language).release (env.setGate id gate) handles =
      ((gateCalls language).release env handles).setGate id gate := by
  unfold GateCalls.release
  induction handles.reverse generalizing env with
  | nil => rfl
  | cons handle handles ih =>
    rw [List.foldl_cons, List.foldl_cons]
    show List.foldl _ ((env.setGate id gate).disposePlain handle).1 handles = _
    rw [disposePlain_setGate]
    exact ih

theorem release_gates (language : String) (handles : List HandleId) :
    ((gateCalls language).release env handles).gates = env.gates := by
  unfold GateCalls.release
  induction handles.reverse generalizing env with
  | nil => rfl
  | cons handle handles ih => exact ih.trans (disposePlain_gates env handle)

/-- The formatting gate is asked as a shared one. -/
theorem setEnabled_eq (env : Environment) (id : GateId) (enabled : Bool) :
    env.setEnabled id enabled =
      let (gated, transition) := Gated.setShared (gateCalls (env.formattingGate id).language)
        ⟨env.gate id, env⟩ enabled
      (gated.around.setGate id gated.gate, transition) := by
  cases active : (env.gate id).active with
  | none =>
    cases enabled with
    | true =>
      -- registering leaves the gate closed, so the new set is taken
      have still := gate_of_gates (registerProviders_gates env (env.formattingGate id).language
        ProviderKind.formatting) id
      simp only [setEnabled, enableGate, Gated.setShared, Gated.enableShared, FeatureGate.isEnabled,
        FeatureGate.offer, active, gateCalls, still, if_true, Option.isSome_none,
        Bool.false_eq_true, if_false]
      rfl
    | false =>
      have closed : { env.gate id with active := Option.none } = env.gate id := by rw [← active]
      simp [setEnabled, disableGate, Gated.setShared, Gated.disableShared, FeatureGate.takeActive,
        active, closed, setGate_self]
  | some ids =>
    cases enabled with
    | true =>
      simp [setEnabled, enableGate, Gated.setShared, Gated.enableShared, FeatureGate.isEnabled,
        active, setGate_self]
    | false =>
      have released := @release_setGate env (env.formattingGate id).language id
        { env.gate id with active := Option.none } ids
      simp only [GateCalls.release, gateCalls] at released
      simp only [setEnabled, disableGate, Gated.setShared, Gated.disableShared,
        FeatureGate.takeActive, active, Bool.false_eq_true, if_false, GateCalls.release]
      rw [disposeEach_fst, released]
      rfl

/-- What an owner's request does around the gate it does whatever gate stands there, and it leaves
the gates there alone. -/
theorem setOwned_setGate (language : String) (id : GateId) (gate gate' : FeatureGate)
    (enabled : Bool) :
    let asked := Gated.setOwned (gateCalls language) ⟨gate, around⟩ enabled
    Gated.setOwned (gateCalls language) ⟨gate, around.setGate id gate'⟩ enabled =
        (⟨asked.1.gate, asked.1.around.setGate id gate'⟩, asked.2) ∧
      asked.1.around.gates = around.gates := by
  cases active : gate.active with
  | none =>
    cases enabled with
    | true =>
      simp only [Gated.setOwned, active]
      refine ⟨?_, registerProviders_gates around language _⟩
      simp only [gateCalls, registerProviders_setGate]
      rfl
    | false => simp [Gated.setOwned, active]
  | some ids =>
    cases enabled with
    | true => simp [Gated.setOwned, active]
    | false =>
      simp only [Gated.setOwned, active]
      refine ⟨?_, release_gates language ids⟩
      rw [release_setGate]
      rfl

/-- One request to the formatting gate. -/
theorem setEnabled_step {id : GateId} (place : id < around.gates.length) (gate : FeatureGate)
    (enabled : Bool) :
    let asked := Gated.setOwned (gateCalls (around.formattingGate id).language) ⟨gate, around⟩
      enabled
    (around.setGate id gate).setEnabled id enabled =
      (asked.1.around.setGate id asked.1.gate, asked.2) := by
  have here : (around.setGate id gate).gate id = gate := by
    rw [gate_setGate, if_pos ⟨rfl, place⟩]
  rw [setEnabled_eq, Gated.setShared_eq, here, language_setGate]
  obtain ⟨same, -⟩ := @setOwned_setGate around (around.formattingGate id).language id gate gate
    enabled
  simp only [same, setGate_setGate]

/-- Requests to the formatting gate, one after another. -/
theorem answers_setEnabled {id : GateId} (place : id < around.gates.length) (gate : FeatureGate)
    (requests : List Bool) :
    answers (fun env => env.setEnabled id) (around.setGate id gate) requests =
      (answers (Gated.setOwned (gateCalls (around.formattingGate id).language)) ⟨gate, around⟩
        requests).map fun answer => (answer.1, answer.2.around.setGate id answer.2.gate) := by
  -- the gate that stands in `around` is the one of the start all along, and nobody looks at it
  induction requests generalizing gate around with
  | nil => rfl
  | cons enabled rest ih =>
    let asked := Gated.setOwned (gateCalls (around.formattingGate id).language) ⟨gate, around⟩
      enabled
    have still : asked.1.around.gates = around.gates :=
      (@setOwned_setGate around (around.formattingGate id).language id gate gate enabled).2
    have same : asked.1.around.formattingGate id = around.formattingGate id := by
      rw [formattingGate, still]
      rfl
    have further := ih (still ▸ place) asked.1.gate
    rw [same] at further
    simp only [answers, setEnabled_step place, List.map_cons]
    exact congrArg (List.cons _) further

end Environment

/-! ## Sequences of requests -/

/-- **One owner or several, the answers are the same**, whatever states are asked for one after
another.  What is around the gate may be anything that the registrar and the releases work on, such
as a record of their runs: then the same transitions come, the same set is held after each request,
the registrar runs as often and the same releases run in the same order.  The agenda of a caller
shows so: with callbacks that leave the gate alone the board is after each request as an owner leaves
it.  The formatting gate, too, is answered as by its only owner. -/
theorem requests_agree (requests : List Bool) :
    (∀ (σ : Type) (calls : GateCalls σ) (gated : Gated σ),
        answers (Gated.setShared calls) gated requests =
          answers (Gated.setOwned calls) gated requests) ∧
      (∀ board : Switchboard, Switchboard.Quiet board.script → board.OnlyCallbacks →
        List.Forall₂ (fun shared owned => shared.1 = owned.1 ∧ shared.2.Alike owned.2)
          (answers Switchboard.setShared board requests)
          (answers Switchboard.setOwned board requests)) ∧
      ∀ (env : Environment) (id : GateId), id < env.gates.length →
        answers (fun env => env.setEnabled id) env requests =
          (answers (Gated.setOwned (Environment.gateCalls (env.formattingGate id).language))
            ⟨env.gate id, env⟩ requests).map fun answer =>
              (answer.1, answer.2.around.setGate id answer.2.gate) := by
  refine ⟨fun σ calls gated => ?_, fun board quiet only => ?_, fun env id place => ?_⟩
  · rw [show Gated.setShared calls = Gated.setOwned calls from
      funext fun gated => funext fun enabled => Gated.setShared_eq calls gated enabled]
  · exact Switchboard.answers_told quiet only requests
  · have asked := Environment.answers_setEnabled place (env.gate id) requests
    rwa [Environment.setGate_self] at asked

/-- A registrar that returns one handle twice, around a gate that was open to begin with; the trail
has a run of the registrar as `none`.  On the board the script has an entry, with nothing in it. -/
theorem requests_agree_on_trails :
    let requests := [true, false, false, true, true, false]
    let calls : GateCalls (List (Option HandleId)) :=
      ⟨fun trail => (trail ++ [none], [4, 5, 4]), fun trail id => trail ++ [some id],
        fun trail _ => trail⟩
    let gated : Gated (List (Option HandleId)) := ⟨⟨"trail", 3, some [1, 2, 3]⟩, []⟩
    let board := Switchboard.initial "board" 2 [(.release 1 0, [])]
    let env := (Environment.initial (.initial ⟨false, false, false⟩ default []) .empty
      (.memory .standard) []).makeGate "qsharp" |>.1
    answers (Gated.setShared calls) gated requests =
        answers (Gated.setOwned calls) gated requests ∧
      (answers (Gated.setShared calls) gated requests).map (·.1) =
        [.unchanged, .disposed, .unchanged, .registered, .unchanged, .disposed] ∧
      (answers (Gated.setShared calls) gated requests).getLast?.map (·.2.around) =
        some [some 3, some 2, some 1, none, some 4, some 5, some 4] ∧
      (answers Switchboard.setShared board requests).map (·.1) =
        [.registered, .disposed, .unchanged, .registered, .unchanged, .disposed] ∧
      (answers (fun env => env.setEnabled 0) env requests).map (·.1) =
        [.registered, .disposed, .unchanged, .registered, .unchanged, .disposed] := by
  intro requests calls gated board env
  have quiet : Switchboard.Quiet board.script := by
    intro entry mem
    obtain rfl := List.mem_singleton.mp mem
    rfl
  have only : board.OnlyCallbacks := by
    intro id label found
    cases found
  obtain ⟨either, boards, gates⟩ := requests_agree requests
  have owned : (answers Switchboard.setOwned board requests).map (·.1) =
      [.registered, .disposed, .unchanged, .registered, .unchanged, .disposed] := by decide
  have same : (answers Switchboard.setShared board requests).map (·.1) =
      (answers Switchboard.setOwned board requests).map (·.1) := by
    rw [← List.forall₂_eq_eq_eq, List.forall₂_map_left_iff, List.forall₂_map_right_iff]
    exact (boards board quiet only).imp fun _ _ agree => agree.1
  refine ⟨either _ calls gated, by decide, by decide, same.trans owned, ?_⟩
  rw [gates env 0 (by decide), List.map_map]
  decide

end EngineSync
