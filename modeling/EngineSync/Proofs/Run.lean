import Mathlib.Data.List.Forall2
import Mathlib.Data.List.InsertIdx
import EngineSync.Pending

/-!
# Runs

Calls that share a state are started, given the chance to go on and given up, one action after
another, and in between the surroundings move.  A run is a list of such actions in any order; each
chance goes to one call, which is what can happen between two moments at which somebody else could
look.  What every action keeps, a run keeps.  The chronicle of a run tells what its chances show,
and which call had them.
-/
namespace EngineSync

/-- What is left of a call: itself while it is pending, nothing once it has finished. -/
def Progress.rest {κ ρ : Type} : Progress κ ρ → List κ
  | .pending call => [call]
  | .finished _ => []

@[simp] theorem Progress.rest_pending {κ ρ : Type} (call : κ) :
    (Progress.pending call : Progress κ ρ).rest = [call] := rfl

@[simp] theorem Progress.rest_finished {κ ρ : Type} (result : ρ) :
    (Progress.finished result : Progress κ ρ).rest = [] := rfl

theorem Progress.rest_map {κ ρ κ' ρ' : Type} (progress : Progress κ ρ) (f : κ → κ')
    (g : ρ → ρ') : (progress.map f g).rest = progress.rest.map f := by
  cases progress <;> rfl

theorem Progress.mem_rest_head? {κ ρ : Type} {progress : Progress κ ρ} {call : κ} :
    call ∈ progress.rest.head? ↔ call ∈ progress.rest := by
  cases progress <;> simp [eq_comm]

theorem Progress.eq_pending {κ ρ : Type} {progress : Progress κ ρ} {next : κ}
    (mem : next ∈ progress.rest) : progress = .pending next := by
  cases progress with
  | pending call => rw [List.mem_singleton.mp mem]
  | finished result => cases mem

/-- Small steps one after another, each of which leaves some notes, until the call waits or has
finished. -/
inductive Chain {σ κ ρ ε : Type} (Hop : σ → κ → List ε → σ → Progress κ ρ → Prop) :
    σ → κ → List ε → σ → Progress κ ρ → Prop where
  | rest (state call) : Chain Hop state call [] state (.pending call)
  | finish {state call notes after result} (hop : Hop state call notes after (.finished result)) :
      Chain Hop state call notes after (.finished result)
  | step {state call notes between call' notes' after progress}
      (hop : Hop state call notes between (.pending call'))
      (more : Chain Hop between call' notes' after progress) :
      Chain Hop state call (notes ++ notes') after progress

theorem Chain.single {σ κ ρ ε : Type} {Hop : σ → κ → List ε → σ → Progress κ ρ → Prop}
    {state after : σ} {call : κ} {notes : List ε} {progress : Progress κ ρ}
    (hop : Hop state call notes after progress) : Chain Hop state call notes after progress := by
  cases progress with
  | pending call' =>
    rw [← List.append_nil notes]
    exact .step hop (.rest after call')
  | finished result => exact .finish hop

theorem Chain.trans {σ κ ρ ε : Type} {Hop : σ → κ → List ε → σ → Progress κ ρ → Prop}
    {state between after : σ} {call call' : κ} {notes notes' : List ε} {progress : Progress κ ρ}
    (first : Chain Hop state call notes between (.pending call'))
    (more : Chain Hop between call' notes' after progress) :
    Chain Hop state call (notes ++ notes') after progress := by
  generalize reached : Progress.pending call' = middle at first
  induction first with
  | rest =>
    cases reached
    exact more
  | finish => cases reached
  | step hop _ ih =>
    rw [List.append_assoc]
    exact .step hop (ih more reached)

/-- What each step keeps, a chain of steps keeps. -/
theorem Chain.keeps {σ κ ρ ε : Type} {Hop : σ → κ → List ε → σ → Progress κ ρ → Prop}
    (Inv : σ → List κ → List ε → Prop)
    (step : ∀ {state call notes after progress history}, Inv state [call] history →
      Hop state call notes after progress → Inv after progress.rest (history ++ notes))
    {state after : σ} {call : κ} {notes history : List ε} {progress : Progress κ ρ}
    (chain : Chain Hop state call notes after progress) (h : Inv state [call] history) :
    Inv after progress.rest (history ++ notes) := by
  induction chain generalizing history with
  | rest => simpa using h
  | finish hop => exact step h hop
  | step hop more ih =>
    rw [← List.append_assoc]
    exact ih (step h hop)

/-- What each step keeps of the state and the call, whatever it notes. -/
theorem Chain.carries {σ κ ρ ε : Type} {Hop : σ → κ → List ε → σ → Progress κ ρ → Prop}
    (Inv : σ → List κ → Prop)
    (step : ∀ {state call notes after progress}, Inv state [call] →
      Hop state call notes after progress → Inv after progress.rest)
    {state after : σ} {call : κ} {notes : List ε} {progress : Progress κ ρ}
    (chain : Chain Hop state call notes after progress) (h : Inv state [call]) :
    Inv after progress.rest := by
  induction chain with
  | rest => exact h
  | finish hop => exact step h hop
  | step hop _ ih => exact ih (step h hop)

/-- Steps one after another from what is so as long as the call goes on, to what is so at its
end. -/
theorem Chain.ends {σ κ ρ ε : Type} {Hop : σ → κ → List ε → σ → Progress κ ρ → Prop}
    {Inv : σ → κ → Prop} {End : ρ → Prop}
    (step : ∀ {state call notes after progress}, Inv state call →
      Hop state call notes after progress →
        (∀ next ∈ progress.rest, Inv after next) ∧ ∀ result, progress = .finished result → End result)
    {state after : σ} {call : κ} {notes : List ε} {progress : Progress κ ρ}
    (chain : Chain Hop state call notes after progress) (h : Inv state call) :
    (∀ next ∈ progress.rest, Inv after next) ∧ ∀ result, progress = .finished result → End result := by
  induction chain with
  | rest => exact ⟨fun next mem => List.mem_singleton.mp mem ▸ h, nofun⟩
  | finish hop => exact step h hop
  | step hop _ ih => exact ih ((step h hop).1 _ List.mem_cons_self)

/-- Calls that share a state: how they go on and are given up, which requests become calls, and how
the surroundings move. -/
structure Machine (σ κ ρ α μ : Type) where
  poll : σ → κ → σ × Progress κ ρ
  drop : σ → κ → σ
  accept : σ → α → Option κ
  move : σ → μ → σ

/-- A call under way, by a number that is never used again. -/
structure Job (κ : Type) where
  number : Nat
  call : κ
deriving DecidableEq, Repr, Inhabited

/-- The shared state, the calls under way in the order in which they were started, how many were
started, and the results of those that finished. -/
structure Work (σ κ ρ : Type) where
  state : σ
  jobs : List (Job κ)
  started : Nat
  results : List (Nat × ρ)

/-- What happens next; calls are named by their place among those under way. -/
inductive Action (α μ : Type) where
  | start (request : α)
  | poll (place : Nat)
  | cancel (place : Nat)
  | move (way : μ)
deriving DecidableEq, Repr

/-- The action with another request. -/
def Action.map {α β μ : Type} (f : α → β) : Action α μ → Action β μ
  | .start request => .start (f request)
  | .poll place => .poll place
  | .cancel place => .cancel place
  | .move way => .move way

/-- The same action, but for requests that are alike. -/
def Action.Alike {α μ : Type} (like : α → α → Prop) : Action α μ → Action α μ → Prop
  | .start request, .start request' => like request request'
  | action, action' => action = action'

theorem Action.Alike.map_eq {α β μ : Type} {like : α → α → Prop} {f : α → β}
    {action action' : Action α μ} (alike : action.Alike like action')
    (same : ∀ request request', like request request' → f request = f request') :
    action.map f = action'.map f := by
  cases action with
  | start request =>
    cases action' with
    | start request' => exact congrArg Action.start (same request request' alike)
    | poll | cancel | move => cases alike
  | poll place | cancel place | move way =>
    obtain rfl := alike
    rfl

theorem Action.map_eq_of_alike {α β μ : Type} {like : α → α → Prop} {f : α → β}
    {actions actions' : List (Action α μ)}
    (alike : List.Forall₂ (Action.Alike like) actions actions')
    (same : ∀ request request', like request request' → f request = f request') :
    actions.map (Action.map f) = actions'.map (Action.map f) := by
  induction alike with
  | nil => rfl
  | cons first rest ih => rw [List.map_cons, List.map_cons, ih, first.map_eq same]

namespace Work
variable {σ κ ρ : Type}

/-- Nothing was started. -/
def idle (state : σ) : Work σ κ ρ :=
  ⟨state, [], 0, []⟩

/-- The calls under way. -/
def calls (work : Work σ κ ρ) : List κ :=
  work.jobs.map (·.call)

/-- The state and the calls seen in another way. -/
def map {τ η : Type} (work : Work σ κ ρ) (f : σ → τ) (g : κ → η) : Work τ η ρ :=
  ⟨f work.state, work.jobs.map fun job => ⟨job.number, g job.call⟩, work.started, work.results⟩

end Work

namespace Machine
variable {σ κ ρ α μ : Type} (m : Machine σ κ ρ α μ)

/-- One action.  An action on a place where no call is does nothing. -/
def perform (work : Work σ κ ρ) : Action α μ → Work σ κ ρ
  | .start request =>
    match m.accept work.state request with
    | none => work
    | some call =>
      { work with jobs := work.jobs ++ [⟨work.started, call⟩], started := work.started + 1 }
  | .poll place =>
    match work.jobs[place]? with
    | none => work
    | some job =>
      match m.poll work.state job.call with
      | (state, .pending call) =>
        { work with state, jobs := work.jobs.set place ⟨job.number, call⟩ }
      | (state, .finished result) =>
        { work with
          state
          jobs := work.jobs.eraseIdx place
          results := work.results ++ [(job.number, result)] }
  | .cancel place =>
    match work.jobs[place]? with
    | none => work
    | some job =>
      { work with state := m.drop work.state job.call, jobs := work.jobs.eraseIdx place }
  | .move way => { work with state := m.move work.state way }

/-- Actions one after another. -/
def run (work : Work σ κ ρ) (actions : List (Action α μ)) : Work σ κ ρ :=
  actions.foldl m.perform work

@[simp] theorem run_nil (work : Work σ κ ρ) : m.run work [] = work := rfl

@[simp] theorem run_cons (work : Work σ κ ρ) (action : Action α μ) (rest : List (Action α μ)) :
    m.run work (action :: rest) = m.run (m.perform work action) rest := rfl

theorem run_append (work : Work σ κ ρ) (before after : List (Action α μ)) :
    m.run work (before ++ after) = m.run (m.run work before) after :=
  List.foldl_append

/-- The machine that keeps notes besides: of what a chance shows, and of what is given up. -/
def noting {ε : Type} (m : Machine σ κ ρ α μ) (shown given : σ → κ → List ε) :
    Machine (σ × List ε) κ ρ α μ where
  poll noted call :=
    let (state, progress) := m.poll noted.1 call
    ((state, noted.2 ++ shown noted.1 call), progress)
  drop noted call := (m.drop noted.1 call, noted.2 ++ given noted.1 call)
  accept noted request := m.accept noted.1 request
  move noted way := (m.move noted.1 way, noted.2)

/-- What an action shows, with the number of the call that had the chance. -/
def told {ε : Type} (shown : σ → κ → List ε) (work : Work σ κ ρ) :
    Action α μ → List (Nat × ε)
  | .poll place =>
    match work.jobs[place]? with
    | none => []
    | some job => (shown work.state job.call).map (job.number, ·)
  | _ => []

/-- What a run shows. -/
def chronicle {ε : Type} (shown : σ → κ → List ε) (work : Work σ κ ρ) :
    List (Action α μ) → List (Nat × ε)
  | [] => []
  | action :: rest => told shown work action ++ chronicle shown (m.perform work action) rest

theorem chronicle_append {ε : Type} (shown : σ → κ → List ε) (work : Work σ κ ρ)
    (before after : List (Action α μ)) :
    m.chronicle shown work (before ++ after) =
      m.chronicle shown work before ++ m.chronicle shown (m.run work before) after := by
  induction before generalizing work with
  | nil => rfl
  | cons action rest ih => simp [chronicle, ih]

/-! ## One action -/

theorem split_at_place {jobs : List (Job κ)} {place : Nat} {job : Job κ}
    (h : jobs[place]? = some job) :
    ∃ before after, jobs = before ++ job :: after ∧ before.length = place := by
  obtain ⟨hlt, rfl⟩ := List.getElem?_eq_some_iff.mp h
  refine ⟨jobs.take place, jobs.drop (place + 1), ?_, by simp; omega⟩
  rw [List.getElem_cons_drop, List.take_append_drop]

variable {m}

/-- What a call's chance to go on does to the calls under way. -/
theorem perform_poll {work : Work σ κ ρ} {before after : List (Job κ)} {job : Job κ}
    (h : work.jobs = before ++ job :: after) :
    m.perform work (.poll before.length) =
      { work with
        state := (m.poll work.state job.call).1
        jobs := before ++ ((m.poll work.state job.call).2.rest.map (⟨job.number, ·⟩)) ++ after
        results := match (m.poll work.state job.call).2 with
          | .pending _ => work.results
          | .finished result => work.results ++ [(job.number, result)] } := by
  have at_place : work.jobs[before.length]? = some job := by simp [h]
  simp only [perform, at_place]
  rcases m.poll work.state job.call with ⟨state, call | result⟩
  · simp [h]
  · simp [h, List.eraseIdx_append_of_length_le]

theorem state_poll {work : Work σ κ ρ} {before after : List (Job κ)} {job : Job κ}
    (h : work.jobs = before ++ job :: after) :
    (m.perform work (.poll before.length)).state = (m.poll work.state job.call).1 := by
  rw [perform_poll h]

/-- A call that finishes leaves its result. -/
theorem result_poll {work : Work σ κ ρ} {before after : List (Job κ)} {job : Job κ} {result : ρ}
    (h : work.jobs = before ++ job :: after)
    (finished : (m.poll work.state job.call).2 = .finished result) :
    (job.number, result) ∈ (m.perform work (.poll before.length)).results := by
  rw [perform_poll h, finished]
  exact List.mem_append_right _ (List.mem_singleton_self _)

/-- A chance adds the result of its call and nothing else. -/
theorem mem_results_poll {work : Work σ κ ρ} {before after : List (Job κ)} {job : Job κ}
    (h : work.jobs = before ++ job :: after) {entry : Nat × ρ}
    (mem : entry ∈ (m.perform work (.poll before.length)).results) :
    entry ∈ work.results ∨
      ∃ result, (m.poll work.state job.call).2 = .finished result ∧ entry = (job.number, result) := by
  rw [perform_poll h] at mem
  cases outcome : (m.poll work.state job.call).2 with
  | pending call =>
    rw [outcome] at mem
    exact .inl mem
  | finished result =>
    rw [outcome] at mem
    rcases List.mem_append.mp mem with old | new
    · exact .inl old
    · exact .inr ⟨result, rfl, List.mem_singleton.mp new⟩

/-- A request that is accepted starts a call with the next number. -/
theorem perform_start {work : Work σ κ ρ} {request : α} {call : κ}
    (h : m.accept work.state request = some call) :
    m.perform work (.start request) =
      { work with jobs := work.jobs ++ [⟨work.started, call⟩], started := work.started + 1 } := by
  simp only [perform, h]

theorem perform_start_none {work : Work σ κ ρ} {request : α}
    (h : m.accept work.state request = none) : m.perform work (.start request) = work := by
  simp only [perform, h]

theorem perform_poll_none {work : Work σ κ ρ} {place : Nat} (h : work.jobs[place]? = none) :
    m.perform work (.poll place) = work := by
  simp only [perform, h]

theorem perform_cancel {work : Work σ κ ρ} {before after : List (Job κ)} {job : Job κ}
    (h : work.jobs = before ++ job :: after) :
    m.perform work (.cancel before.length) =
      { work with state := m.drop work.state job.call, jobs := before ++ after } := by
  simp [perform, h, List.eraseIdx_append_of_length_le]

/-- What is under way after a chance was under way before, or it is what is left of the call. -/
theorem mem_jobs_of_poll {work : Work σ κ ρ} {before after : List (Job κ)} {job next : Job κ}
    (h : work.jobs = before ++ job :: after)
    (mem : next ∈ (m.perform work (.poll before.length)).jobs) :
    next ∈ work.jobs ∨ ∃ call ∈ (m.poll work.state job.call).2.rest, next = ⟨job.number, call⟩ := by
  rw [perform_poll h] at mem
  rcases List.mem_append.mp mem with mem | last
  · rcases List.mem_append.mp mem with first | own
    · exact .inl (by simp [h, first])
    · obtain ⟨call, left, rfl⟩ := List.mem_map.mp own
      exact .inr ⟨call, left, rfl⟩
  · exact .inl (by simp [h, last])

theorem mem_jobs_of_cancel {work : Work σ κ ρ} {before after : List (Job κ)} {job next : Job κ}
    (h : work.jobs = before ++ job :: after)
    (mem : next ∈ (m.perform work (.cancel before.length)).jobs) : next ∈ work.jobs := by
  rw [perform_cancel h] at mem
  rw [h]
  rcases List.mem_append.mp mem with first | last
  · exact List.mem_append_left _ first
  · exact List.mem_append_right _ (List.mem_cons_of_mem _ last)

theorem told_poll {ε : Type} {shown : σ → κ → List ε} {work : Work σ κ ρ}
    {before after : List (Job κ)} {job : Job κ} (h : work.jobs = before ++ job :: after) :
    told shown work (.poll before.length : Action α μ) =
      (shown work.state job.call).map (job.number, ·) := by
  simp [told, h]

/-- What a run shows that ends with a chance. -/
theorem chronicle_poll {ε : Type} {shown : σ → κ → List ε} {work : Work σ κ ρ}
    {actions : List (Action α μ)} {before after : List (Job κ)} {job : Job κ}
    (h : (m.run work actions).jobs = before ++ job :: after) :
    (m.chronicle shown work (actions ++ [.poll before.length])).map (·.2) =
      (m.chronicle shown work actions).map (·.2) ++ shown (m.run work actions).state job.call := by
  have last : told shown (m.run work actions) (.poll before.length : Action α μ) =
      (shown (m.run work actions).state job.call).map (job.number, ·) := told_poll h
  rw [chronicle_append, List.map_append, chronicle, last]
  simp [chronicle, Function.comp_def]

theorem perform_cancel_none {work : Work σ κ ρ} {place : Nat} (h : work.jobs[place]? = none) :
    m.perform work (.cancel place) = work := by
  simp only [perform, h]

/-! ## What every action keeps -/

/-- A property of the state and of the calls under way, whatever their order, that every action
keeps. -/
structure Keeps (m : Machine σ κ ρ α μ) (Inv : σ → List κ → Prop) : Prop where
  perm : ∀ {state calls calls'}, calls.Perm calls' → Inv state calls → Inv state calls'
  accept : ∀ {state calls request call}, Inv state calls → m.accept state request = some call →
    Inv state (call :: calls)
  poll : ∀ {state call calls}, Inv state (call :: calls) →
    Inv (m.poll state call).1 ((m.poll state call).2.rest ++ calls)
  drop : ∀ {state call calls}, Inv state (call :: calls) → Inv (m.drop state call) calls
  move : ∀ {state calls} (way : μ), Inv state calls → Inv (m.move state way) calls

theorem Keeps.perform {Inv : σ → List κ → Prop} (keeps : m.Keeps Inv) {work : Work σ κ ρ}
    (h : Inv work.state work.calls) (action : Action α μ) :
    Inv (m.perform work action).state (m.perform work action).calls := by
  cases action with
  | start request =>
    cases accepted : m.accept work.state request with
    | none => simpa only [Machine.perform, accepted] using h
    | some call =>
      simp only [Machine.perform, accepted, Work.calls, List.map_append, List.map_cons,
        List.map_nil]
      exact keeps.perm (List.perm_append_singleton _ _).symm (keeps.accept h accepted)
  | poll place =>
    cases at_place : work.jobs[place]? with
    | none => simpa only [perform_poll_none at_place] using h
    | some job =>
      obtain ⟨before, after, split, rfl⟩ := split_at_place at_place
      rw [perform_poll split]
      have first : Inv work.state (job.call :: (before ++ after).map (·.call)) := by
        refine keeps.perm ?_ h
        simp [Work.calls, split, List.perm_middle]
      refine keeps.perm ?_ (keeps.poll first)
      rcases m.poll work.state job.call with ⟨state, call | result⟩
      · simpa [Work.calls] using List.perm_middle.symm
      · simp [Work.calls]
  | cancel place =>
    cases at_place : work.jobs[place]? with
    | none => simpa only [perform_cancel_none at_place] using h
    | some job =>
      obtain ⟨before, after, split, rfl⟩ := split_at_place at_place
      rw [perform_cancel split]
      refine keeps.drop (keeps.perm ?_ h)
      simp [Work.calls, split, List.perm_middle]
  | move way => exact keeps.move way h

theorem Keeps.run {Inv : σ → List κ → Prop} (keeps : m.Keeps Inv) {work : Work σ κ ρ}
    (h : Inv work.state work.calls) (actions : List (Action α μ)) :
    Inv (m.run work actions).state (m.run work actions).calls := by
  induction actions generalizing work with
  | nil => exact h
  | cons action rest ih => exact ih (keeps.perform h action)

/-! ## What is kept together with a chronicle -/

/-- A property of the state, of the calls under way and of what was shown so far, that every action
keeps. -/
structure Tells {ε : Type} (m : Machine σ κ ρ α μ) (shown : σ → κ → List ε)
    (Inv : σ → List κ → List ε → Prop) : Prop where
  perm : ∀ {state calls calls' history}, calls.Perm calls' → Inv state calls history →
    Inv state calls' history
  accept : ∀ {state calls history request call}, Inv state calls history →
    m.accept state request = some call → Inv state (call :: calls) history
  poll : ∀ {state call calls history}, Inv state (call :: calls) history →
    Inv (m.poll state call).1 ((m.poll state call).2.rest ++ calls) (history ++ shown state call)
  drop : ∀ {state call calls history}, Inv state (call :: calls) history →
    Inv (m.drop state call) calls history
  move : ∀ {state calls history} (way : μ), Inv state calls history →
    Inv (m.move state way) calls history

/-- A machine that shows something does so besides what it does. -/
theorem perform_noting {ε : Type} (shown : σ → κ → List ε) (work : Work σ κ ρ)
    (history : List ε) (action : Action α μ) :
    (m.noting shown fun _ _ => []).perform
        ⟨(work.state, history), work.jobs, work.started, work.results⟩ action =
      ⟨((m.perform work action).state,
          history ++ (told shown work action).map (·.2)),
        (m.perform work action).jobs, (m.perform work action).started,
        (m.perform work action).results⟩ := by
  cases action with
  | start request =>
    cases accepted : m.accept work.state request <;>
      simp [perform, noting, told, accepted]
  | poll place =>
    cases at_place : work.jobs[place]? with
    | none => simp [perform, told, at_place]
    | some job =>
      simp only [perform, told, at_place, noting, List.map_map]
      rcases polled : m.poll work.state job.call with ⟨state, call | result⟩ <;>
        simp [polled, Function.comp_def]
  | cancel place =>
    cases at_place : work.jobs[place]? <;> simp [perform, noting, told, at_place]
  | move way => simp [perform, noting, told]

theorem Tells.run {ε : Type} {shown : σ → κ → List ε} {Inv : σ → List κ → List ε → Prop}
    (tells : m.Tells shown Inv) {work : Work σ κ ρ} {history : List ε}
    (h : Inv work.state work.calls history) (actions : List (Action α μ)) :
    Inv (m.run work actions).state (m.run work actions).calls
      (history ++ (m.chronicle shown work actions).map (·.2)) := by
  have keeps : (m.noting shown fun _ _ => []).Keeps fun noted calls => Inv noted.1 calls noted.2 :=
    { perm := fun hp h => tells.perm hp h
      accept := fun h accepted => tells.accept h accepted
      poll := fun h => tells.poll h
      drop := fun h => by simpa [noting] using tells.drop h
      move := fun way h => tells.move way h }
  induction actions generalizing work history with
  | nil => simpa [chronicle] using h
  | cons action rest ih =>
    have first := @Keeps.perform _ _ _ _ _ _ _ keeps
      ⟨(work.state, history), work.jobs, work.started, work.results⟩ h action
    rw [perform_noting] at first
    simpa [chronicle] using ih first

/-- A run that gives nobody up. -/
def Steadfast (actions : List (Action α μ)) : Prop :=
  ∀ action ∈ actions, ∀ place, action ≠ .cancel place

/-- A property of the state, of the calls under way and of what was shown so far, that every action
keeps which gives nobody up. -/
structure Abides {ε : Type} (m : Machine σ κ ρ α μ) (shown : σ → κ → List ε)
    (Inv : σ → List κ → List ε → Prop) : Prop where
  perm : ∀ {state calls calls' history}, calls.Perm calls' → Inv state calls history →
    Inv state calls' history
  accept : ∀ {state calls history request call}, Inv state calls history →
    m.accept state request = some call → Inv state (call :: calls) history
  poll : ∀ {state call calls history}, Inv state (call :: calls) history →
    Inv (m.poll state call).1 ((m.poll state call).2.rest ++ calls) (history ++ shown state call)
  move : ∀ {state calls history} (way : μ), Inv state calls history →
    Inv (m.move state way) calls history

theorem Abides.perform {ε : Type} {shown : σ → κ → List ε} {Inv : σ → List κ → List ε → Prop}
    (abides : m.Abides shown Inv) {work : Work σ κ ρ} {history : List ε}
    (h : Inv work.state work.calls history) {action : Action α μ}
    (kept : ∀ place, action ≠ .cancel place) :
    Inv (m.perform work action).state (m.perform work action).calls
      (history ++ (told shown work action).map (·.2)) := by
  cases action with
  | start request =>
    have nothing : history ++ (told shown work (.start request : Action α μ)).map (·.2) = history :=
      List.append_nil history
    rw [nothing]
    cases accepted : m.accept work.state request with
    | none => simpa only [perform_start_none accepted] using h
    | some call =>
      rw [perform_start accepted]
      refine abides.perm ?_ (abides.accept h accepted)
      simpa [Work.calls] using (List.perm_append_singleton call work.calls).symm
  | poll place =>
    cases at_place : work.jobs[place]? with
    | none =>
      rw [perform_poll_none at_place]
      simpa [told, at_place] using h
    | some job =>
      obtain ⟨before, after, split, rfl⟩ := split_at_place at_place
      have first : Inv work.state (job.call :: (before ++ after).map (·.call)) history := by
        refine abides.perm ?_ h
        simp [Work.calls, split, List.perm_middle]
      rw [perform_poll split, told_poll split]
      simp only [List.map_map, Function.comp_def, List.map_id']
      refine abides.perm ?_ (abides.poll first)
      simp only [Work.calls, List.map_append, List.map_map, Function.comp_def, List.map_id']
      rw [← List.append_assoc]
      exact (List.perm_append_comm).append_right _
  | cancel place => exact absurd rfl (kept place)
  | move way =>
    have nothing : history ++ (told shown work (.move way : Action α μ)).map (·.2) = history :=
      List.append_nil history
    rw [nothing]
    exact abides.move way h

theorem Abides.run {ε : Type} {shown : σ → κ → List ε} {Inv : σ → List κ → List ε → Prop}
    (abides : m.Abides shown Inv) {work : Work σ κ ρ} {history : List ε}
    (h : Inv work.state work.calls history) {actions : List (Action α μ)}
    (kept : Steadfast actions) :
    Inv (m.run work actions).state (m.run work actions).calls
      (history ++ (m.chronicle shown work actions).map (·.2)) := by
  induction actions generalizing work history with
  | nil => simpa [chronicle] using h
  | cons action rest ih =>
    have first := abides.perform h (kept action List.mem_cons_self)
    have later : Steadfast rest := fun next mem => kept next (List.mem_cons_of_mem _ mem)
    simpa [chronicle] using ih first later

/-! ## One call among others -/

end Machine

namespace Work
variable {σ κ ρ : Type}

/-- The call of a number, while it is under way. -/
def call? (work : Work σ κ ρ) (number : Nat) : Option κ :=
  (work.jobs.find? (·.number = number)).map (·.call)

/-- Calls stand in the order in which they were started, and their numbers are never used again. -/
structure Numbered (work : Work σ κ ρ) : Prop where
  grow : (work.jobs.map (·.number)).Pairwise (· < ·)
  given : ∀ job ∈ work.jobs, job.number < work.started

theorem Numbered.idle (state : σ) : (idle state : Work σ κ ρ).Numbered :=
  ⟨.nil, nofun⟩

/-- The numbers at one place come before those behind it. -/
theorem Numbered.apart {work : Work σ κ ρ} (h : work.Numbered) {before after : List (Job κ)}
    {job : Job κ} (split : work.jobs = before ++ job :: after) :
    (∀ other ∈ before, other.number < job.number) ∧ ∀ other ∈ after, job.number < other.number := by
  have grow := h.grow
  rw [split, List.map_append, List.map_cons, List.pairwise_append] at grow
  obtain ⟨-, later, earlier⟩ := grow
  refine ⟨fun other ho => ?_, fun other ho => ?_⟩
  · exact earlier other.number (List.mem_map_of_mem ho) job.number List.mem_cons_self
  · exact (List.pairwise_cons.mp later).1 other.number (List.mem_map_of_mem ho)

/-- A call under way was given its number. -/
theorem Numbered.lt_started {work : Work σ κ ρ} (h : work.Numbered) {number : Nat} {call : κ}
    (found : work.call? number = some call) : number < work.started := by
  obtain ⟨job, found, -⟩ := Option.map_eq_some_iff.mp found
  have same : job.number = number := by simpa using List.find?_some found
  exact same ▸ h.given job (List.mem_of_find?_eq_some found)

/-- The call at a place is the call of its number. -/
theorem Numbered.call?_eq {work : Work σ κ ρ} (h : work.Numbered) {before after : List (Job κ)}
    {job : Job κ} (split : work.jobs = before ++ job :: after) :
    work.call? job.number = some job.call := by
  have none : before.find? (·.number = job.number) = none :=
    List.find?_eq_none.mpr fun other ho => by simpa using Nat.ne_of_lt ((h.apart split).1 other ho)
  rw [call?, split, List.find?_append, none]
  simp

end Work

namespace Machine
variable {σ κ ρ α μ : Type} {m : Machine σ κ ρ α μ}

theorem numbered_perform {work : Work σ κ ρ} (h : work.Numbered) (action : Action α μ) :
    (m.perform work action).Numbered := by
  obtain ⟨grow, given⟩ := h
  cases action with
  | start request =>
    cases accepted : m.accept work.state request with
    | none => simpa only [perform, accepted] using ⟨grow, given⟩
    | some call =>
      simp only [perform, accepted]
      refine ⟨?_, fun job hj => ?_⟩
      · rw [List.map_append, List.pairwise_append]
        refine ⟨grow, List.pairwise_singleton _ _, fun number hn other ho => ?_⟩
        obtain ⟨job, hj, rfl⟩ := List.mem_map.mp hn
        rw [List.mem_singleton.mp ho]
        exact given job hj
      · rcases List.mem_append.mp hj with old | new
        · exact Nat.lt_succ_of_lt (given job old)
        · rw [List.mem_singleton.mp new]
          exact Nat.lt_succ_self _
  | poll place =>
    cases at_place : work.jobs[place]? with
    | none =>
      rw [perform_poll_none at_place]
      exact ⟨grow, given⟩
    | some job =>
      obtain ⟨before, after, split, rfl⟩ := split_at_place at_place
      have fewer : (((m.poll work.state job.call).2.rest.map fun call =>
          (⟨job.number, call⟩ : Job κ)).map (·.number)).Sublist [job.number] := by
        rcases (m.poll work.state job.call).2 with call | result
        · exact List.Sublist.refl _
        · exact List.nil_sublist _
      have numbers : ((m.perform work (.poll before.length)).jobs.map (·.number)).Sublist
          (work.jobs.map (·.number)) := by
        rw [perform_poll split, split]
        simp only [List.map_append, List.map_cons, List.append_assoc]
        exact (List.Sublist.refl _).append (fewer.append (List.Sublist.refl _))
      have started : (m.perform work (.poll before.length)).started = work.started := by
        rw [perform_poll split]
      refine ⟨grow.sublist numbers, fun next hn => ?_⟩
      obtain ⟨old, ho, same⟩ := List.mem_map.mp (numbers.subset (List.mem_map_of_mem hn))
      rw [started, ← same]
      exact given old ho
  | cancel place =>
    cases at_place : work.jobs[place]? with
    | none =>
      rw [perform_cancel_none at_place]
      exact ⟨grow, given⟩
    | some job =>
      simp only [perform, at_place]
      exact ⟨grow.sublist ((List.eraseIdx_sublist _ _).map _),
        fun next hn => given next ((List.eraseIdx_sublist _ _).subset hn)⟩
  | move way => exact ⟨grow, given⟩

theorem numbered_run {work : Work σ κ ρ} (h : work.Numbered) (actions : List (Action α μ)) :
    (m.run work actions).Numbered := by
  induction actions generalizing work with
  | nil => exact h
  | cons action rest ih => exact ih (numbered_perform h action)

/-- An action gives up the call of a number. -/
def GivesUp (number : Nat) (work : Work σ κ ρ) : Action α μ → Prop
  | .cancel place => ∃ job ∈ work.jobs[place]?, job.number = number
  | _ => False

/-- A run never gives up the call of a number. -/
def KeepsUp (m : Machine σ κ ρ α μ) (number : Nat) (work : Work σ κ ρ) :
    List (Action α μ) → Prop
  | [] => True
  | action :: rest => ¬GivesUp number work action ∧ m.KeepsUp number (m.perform work action) rest

/-- What a chronicle tells of the call of a number. -/
def notesOf {ε : Type} (number : Nat) (chronicle : List (Nat × ε)) : List ε :=
  (chronicle.filter (·.1 = number)).map (·.2)

theorem notesOf_same {ε : Type} (number : Nat) (notes : List ε) :
    notesOf number (notes.map (number, ·)) = notes := by
  induction notes with
  | nil => rfl
  | cons note rest ih => simpa [notesOf] using ih

theorem notesOf_other {ε : Type} {number other : Nat} (ne : other ≠ number) (notes : List ε) :
    notesOf number (notes.map (other, ·)) = [] := by
  simp [notesOf, ne]

/-- A property of the state, of one call while it is under way and of what this call has shown, that
every action keeps as long as the call is not given up; `Inv` may be relied on. -/
structure Follows {ε : Type} (m : Machine σ κ ρ α μ) (shown : σ → κ → List ε)
    (Inv : σ → List κ → Prop) (Own : σ → Option κ → List ε → Prop) : Prop where
  own : ∀ {state call calls notes}, Inv state (call :: calls) → Own state (some call) notes →
    Own (m.poll state call).1 (m.poll state call).2.rest.head? (notes ++ shown state call)
  poll : ∀ {state call calls own notes}, Inv state (call :: calls) → Own state own notes →
    Own (m.poll state call).1 own notes
  drop : ∀ {state call calls own notes}, Inv state (call :: calls) → Own state own notes →
    Own (m.drop state call) own notes
  move : ∀ {state calls own notes} (way : μ), Inv state calls → Own state own notes →
    Own (m.move state way) own notes

/-! ## What becomes of one call -/

theorem call?_start {work : Work σ κ ρ} {number : Nat} (given : number < work.started)
    (request : α) : (m.perform work (.start request)).call? number = work.call? number := by
  cases accepted : m.accept work.state request with
  | none => simp only [perform, accepted]
  | some call =>
    simp [perform, accepted, Work.call?, List.find?_append, Nat.ne_of_gt given]

theorem call?_poll_own {work : Work σ κ ρ} (h : work.Numbered) {before after : List (Job κ)}
    {job : Job κ} (split : work.jobs = before ++ job :: after) :
    (m.perform work (.poll before.length)).call? job.number =
      (m.poll work.state job.call).2.rest.head? := by
  obtain ⟨smaller, greater⟩ := h.apart split
  have first : before.find? (·.number = job.number) = none :=
    List.find?_eq_none.mpr fun other ho => by simpa using Nat.ne_of_lt (smaller other ho)
  have last : after.find? (·.number = job.number) = none :=
    List.find?_eq_none.mpr fun other ho => by simpa using Nat.ne_of_gt (greater other ho)
  rw [perform_poll split, Work.call?, List.find?_append, List.find?_append, first, last]
  rcases (m.poll work.state job.call).2 with call | result <;> simp

theorem call?_poll_other {work : Work σ κ ρ} {before after : List (Job κ)} {job : Job κ}
    {number : Nat} (split : work.jobs = before ++ job :: after) (ne : job.number ≠ number) :
    (m.perform work (.poll before.length)).call? number = work.call? number := by
  rw [perform_poll split, Work.call?, Work.call?, split]
  rcases (m.poll work.state job.call).2 with call | result <;>
    simp [List.find?_append, ne]

theorem call?_cancel_other {work : Work σ κ ρ} {before after : List (Job κ)} {job : Job κ}
    {number : Nat} (split : work.jobs = before ++ job :: after) (ne : job.number ≠ number) :
    (m.perform work (.cancel before.length)).call? number = work.call? number := by
  rw [perform_cancel split, Work.call?, Work.call?, split]
  simp [List.find?_append, ne]

/-- A call that is started has the next number. -/
theorem call?_start_own {work : Work σ κ ρ} (h : work.Numbered) {request : α} {call : κ}
    (accepted : m.accept work.state request = some call) :
    (m.perform work (.start request)).call? work.started = some call := by
  have none : work.jobs.find? (·.number = work.started) = none :=
    List.find?_eq_none.mpr fun job hj => by simpa using Nat.ne_of_lt (h.given job hj)
  simp [perform, accepted, Work.call?, List.find?_append, none]

/-- A call that was given up is gone. -/
theorem call?_cancel_own {work : Work σ κ ρ} (h : work.Numbered) {before after : List (Job κ)}
    {job : Job κ} (split : work.jobs = before ++ job :: after) :
    (m.perform work (.cancel before.length)).call? job.number = none := by
  obtain ⟨smaller, greater⟩ := h.apart split
  rw [perform_cancel split, Work.call?, Option.map_eq_none_iff, List.find?_eq_none]
  intro other ho
  rcases List.mem_append.mp ho with first | last
  · simpa using Nat.ne_of_lt (smaller other first)
  · simpa using Nat.ne_of_gt (greater other last)

/-- Who is under way after a chance: the others, and what is left of the call that had it. -/
theorem mem_jobs_poll {work : Work σ κ ρ} (h : work.Numbered) {before after : List (Job κ)}
    {job next : Job κ} (split : work.jobs = before ++ job :: after)
    (mem : next ∈ (m.perform work (.poll before.length)).jobs) :
    (next ∈ work.jobs ∧ next.number ≠ job.number) ∨
      ∃ call ∈ (m.poll work.state job.call).2.rest, next = ⟨job.number, call⟩ := by
  obtain ⟨smaller, greater⟩ := h.apart split
  rw [perform_poll split] at mem
  rcases List.mem_append.mp mem with mem | last
  · rcases List.mem_append.mp mem with first | own
    · exact .inl ⟨by simp [split, first], Nat.ne_of_lt (smaller next first)⟩
    · obtain ⟨call, left, rfl⟩ := List.mem_map.mp own
      exact .inr ⟨call, left, rfl⟩
  · exact .inl ⟨by simp [split, last], Nat.ne_of_gt (greater next last)⟩

/-- Results are those of calls that were started. -/
theorem results_lt_perform {work : Work σ κ ρ} (h : work.Numbered)
    (answered : ∀ entry ∈ work.results, entry.1 < work.started) (action : Action α μ) :
    ∀ entry ∈ (m.perform work action).results, entry.1 < (m.perform work action).started := by
  cases action with
  | start request =>
    simp only [perform]
    cases m.accept work.state request with
    | none => exact answered
    | some call => exact fun entry mem => Nat.lt_succ_of_lt (answered entry mem)
  | poll place =>
    cases at_place : work.jobs[place]? with
    | none =>
      rw [perform_poll_none at_place]
      exact answered
    | some job =>
      obtain ⟨before, after, split, rfl⟩ := split_at_place at_place
      have started : (m.perform work (.poll before.length)).started = work.started := by
        rw [perform_poll split]
      intro entry mem
      rw [started]
      rcases mem_results_poll split mem with old | ⟨result, -, rfl⟩
      · exact answered entry old
      · exact h.given job (List.mem_of_getElem? at_place)
  | cancel place =>
    simp only [perform]
    cases work.jobs[place]? <;> exact answered
  | move way => exact answered

theorem results_lt_run {work : Work σ κ ρ} (h : work.Numbered)
    (answered : ∀ entry ∈ work.results, entry.1 < work.started) (actions : List (Action α μ)) :
    ∀ entry ∈ (m.run work actions).results, entry.1 < (m.run work actions).started := by
  induction actions generalizing work with
  | nil => exact answered
  | cons action rest ih =>
    exact ih (numbered_perform h action) (results_lt_perform h answered action)

variable {ε : Type} {shown : σ → κ → List ε} {Inv : σ → List κ → Prop}
  {Own : σ → Option κ → List ε → Prop} {number : Nat} {notes : List ε}

theorem Keeps.at_place (keeps : m.Keeps Inv) {work : Work σ κ ρ} (h : Inv work.state work.calls)
    {before after : List (Job κ)} {job : Job κ} (split : work.jobs = before ++ job :: after) :
    Inv work.state (job.call :: (before ++ after).map (·.call)) := by
  refine keeps.perm ?_ h
  simp [Work.calls, split, List.perm_middle]

theorem Follows.perform (keeps : m.Keeps Inv) (follows : m.Follows shown Inv Own)
    {work : Work σ κ ρ} (h : Inv work.state work.calls) (numbered : work.Numbered)
    (given : number < work.started) (own : Own work.state (work.call? number) notes)
    {action : Action α μ} (kept : ¬GivesUp number work action) :
    Own (m.perform work action).state ((m.perform work action).call? number)
      (notes ++ notesOf number (told shown work action)) := by
  cases action with
  | start request =>
    have same : (m.perform work (.start request)).state = work.state := by
      simp only [Machine.perform]
      cases m.accept work.state request <;> rfl
    rw [call?_start given, same]
    simpa [told, notesOf] using own
  | poll place =>
    cases at_place : work.jobs[place]? with
    | none =>
      rw [perform_poll_none at_place]
      simpa [told, notesOf, at_place] using own
    | some job =>
      obtain ⟨before, after, split, rfl⟩ := split_at_place at_place
      have first := keeps.at_place h split
      rw [state_poll split, told_poll split]
      by_cases same : job.number = number
      · subst same
        rw [call?_poll_own numbered split]
        rw [numbered.call?_eq split] at own
        rw [notesOf_same]
        exact follows.own first own
      · rw [call?_poll_other split same]
        rw [notesOf_other same, List.append_nil]
        exact follows.poll first own
  | cancel place =>
    cases at_place : work.jobs[place]? with
    | none =>
      rw [perform_cancel_none at_place]
      simpa [told, notesOf] using own
    | some job =>
      obtain ⟨before, after, split, rfl⟩ := split_at_place at_place
      have ne : job.number ≠ number := fun same => kept ⟨job, at_place, same⟩
      have state : (m.perform work (.cancel before.length)).state = m.drop work.state job.call := by
        rw [perform_cancel split]
      rw [state, call?_cancel_other split ne]
      simpa [told, notesOf] using follows.drop (keeps.at_place h split) own
  | move way =>
    have none : notesOf number (told shown work (.move way : Action α μ)) = [] := rfl
    rw [none, List.append_nil]
    exact follows.move way h own

theorem started_le (work : Work σ κ ρ) (action : Action α μ) :
    work.started ≤ (m.perform work action).started := by
  cases action with
  | start request =>
    simp only [perform]
    cases m.accept work.state request with
    | none => exact Nat.le_refl _
    | some call => exact Nat.le_succ _
  | poll place =>
    cases at_place : work.jobs[place]? with
    | none => exact Nat.le_of_eq (congrArg Work.started (perform_poll_none at_place)).symm
    | some job =>
      obtain ⟨before, after, split, rfl⟩ := split_at_place at_place
      exact Nat.le_of_eq (congrArg Work.started (perform_poll split)).symm
  | cancel place =>
    simp only [perform]
    cases work.jobs[place]? <;> exact Nat.le_refl _
  | move way => exact Nat.le_refl _

/-- **What becomes of one call** in a run that does not give it up. -/
theorem Follows.run (keeps : m.Keeps Inv) (follows : m.Follows shown Inv Own)
    {work : Work σ κ ρ} (h : Inv work.state work.calls) (numbered : work.Numbered)
    (given : number < work.started) (own : Own work.state (work.call? number) notes)
    {actions : List (Action α μ)} (kept : m.KeepsUp number work actions) :
    Own (m.run work actions).state ((m.run work actions).call? number)
      (notes ++ notesOf number (m.chronicle shown work actions)) := by
  induction actions generalizing work notes with
  | nil => simpa [chronicle, notesOf] using own
  | cons action rest ih =>
    obtain ⟨first, later⟩ := kept
    have next := ih (keeps.perform h action) (numbered_perform numbered action)
      (Nat.lt_of_lt_of_le given (started_le work action))
      (follows.perform keeps h numbered given own first) later
    simpa [chronicle, notesOf] using next

/-- So it is if the call may be given up. -/
theorem Follows.perform_any (keeps : m.Keeps Inv) (follows : m.Follows shown Inv Own)
    (lost : ∀ {state call calls notes}, Inv state (call :: calls) → Own state (some call) notes →
      Own (m.drop state call) none notes)
    {work : Work σ κ ρ} (h : Inv work.state work.calls) (numbered : work.Numbered)
    (given : number < work.started) (own : Own work.state (work.call? number) notes)
    (action : Action α μ) :
    Own (m.perform work action).state ((m.perform work action).call? number)
      (notes ++ notesOf number (told shown work action)) := by
  by_cases gives : GivesUp number work action
  · cases action with
    | cancel place =>
      obtain ⟨job, at_place, rfl⟩ := gives
      obtain ⟨before, after, split, rfl⟩ := split_at_place at_place
      have quiet : notesOf job.number (told shown work (.cancel before.length : Action α μ)) = [] :=
        rfl
      have state : (m.perform work (.cancel before.length)).state = m.drop work.state job.call := by
        rw [perform_cancel split]
      rw [call?_cancel_own numbered split, state, quiet, List.append_nil]
      rw [numbered.call?_eq split] at own
      exact lost (keeps.at_place h split) own
    | start | poll | move => exact gives.elim
  · exact follows.perform keeps h numbered given own gives

/-- **What becomes of one call** in any run, if it may be given up. -/
theorem Follows.run_any (keeps : m.Keeps Inv) (follows : m.Follows shown Inv Own)
    (lost : ∀ {state call calls notes}, Inv state (call :: calls) → Own state (some call) notes →
      Own (m.drop state call) none notes)
    {work : Work σ κ ρ} (h : Inv work.state work.calls) (numbered : work.Numbered)
    (given : number < work.started) (own : Own work.state (work.call? number) notes)
    (actions : List (Action α μ)) :
    Own (m.run work actions).state ((m.run work actions).call? number)
      (notes ++ notesOf number (m.chronicle shown work actions)) := by
  induction actions generalizing work notes with
  | nil => simpa [chronicle, notesOf] using own
  | cons action rest ih =>
    have next := ih (keeps.perform h action) (numbered_perform numbered action)
      (Nat.lt_of_lt_of_le given (started_le work action))
      (follows.perform_any keeps lost h numbered given own action)
    simpa [chronicle, notesOf] using next

/-! ## Results of one call -/

end Machine

/-- The results of the call of a number. -/
def Work.resultsOf {σ κ ρ : Type} (work : Work σ κ ρ) (number : Nat) : List ρ :=
  (work.results.filter (·.1 = number)).map (·.2)

/-- The result of a call that has finished. -/
def Progress.result {κ ρ : Type} : Progress κ ρ → List ρ
  | .pending _ => []
  | .finished result => [result]

/-- A call under way is the call of its number. -/
theorem Work.Numbered.call?_of_mem {σ κ ρ : Type} {work : Work σ κ ρ} {job : Job κ}
    (h : work.Numbered) (mem : job ∈ work.jobs) : work.call? job.number = some job.call := by
  obtain ⟨before, after, split⟩ := List.append_of_mem mem
  exact h.call?_eq split

/-- The call of a number is under way. -/
theorem Work.mem_of_call? {σ κ ρ : Type} {work : Work σ κ ρ} {number : Nat} {call : κ}
    (found : work.call? number = some call) : (⟨number, call⟩ : Job κ) ∈ work.jobs := by
  obtain ⟨⟨number', call'⟩, first, rfl⟩ := Option.map_eq_some_iff.mp found
  have same : number' = number := by simpa using List.find?_some first
  subst same
  exact List.mem_of_find?_eq_some first

namespace Machine
variable {σ κ ρ α μ : Type} {m : Machine σ κ ρ α μ} {work : Work σ κ ρ} {number : Nat} {call : κ}

/-- A chance that leaves its call where it is. -/
theorem perform_poll_idle {before after : List (Job κ)} {job : Job κ}
    (split : work.jobs = before ++ job :: after)
    (idle : m.poll work.state job.call = (work.state, .pending job.call)) :
    m.perform work (.poll before.length) = work := by
  rw [perform_poll split, idle]
  simp [← split]

/-- A chance adds what its call comes back with. -/
theorem results_poll {before after : List (Job κ)} {job : Job κ}
    (split : work.jobs = before ++ job :: after) :
    (m.perform work (.poll before.length)).results =
      work.results ++ (m.poll work.state job.call).2.result.map (job.number, ·) := by
  rw [perform_poll split]
  rcases (m.poll work.state job.call).2 with call | result
  · exact (List.append_nil _).symm
  · rfl

theorem resultsOf_poll {before after : List (Job κ)} {job : Job κ}
    (split : work.jobs = before ++ job :: after) (number : Nat) :
    (m.perform work (.poll before.length)).resultsOf number = work.resultsOf number ++
      if job.number = number then (m.poll work.state job.call).2.result else [] := by
  rw [perform_poll split]
  rcases (m.poll work.state job.call).2 with call | result
  · simp [Work.resultsOf, Progress.result]
  · by_cases same : job.number = number <;> simp [Work.resultsOf, Progress.result, same]

/-- **What an action does to a call under way**: nothing, unless it is its own chance. -/
theorem kept_perform (h : work.Numbered) (found : work.call? number = some call)
    {action : Action α μ} (kept : ¬GivesUp number work action) :
    (m.perform work action).call? number = some call ∧
        (m.perform work action).resultsOf number = work.resultsOf number ∨
      ∃ before after, work.jobs = before ++ ⟨number, call⟩ :: after ∧
        action = .poll before.length := by
  have given : number < work.started := h.lt_started found
  cases action with
  | start request =>
    refine .inl ⟨(call?_start given request).trans found, ?_⟩
    simp only [perform]
    cases m.accept work.state request <;> rfl
  | poll place =>
    cases at_place : work.jobs[place]? with
    | none =>
      rw [perform_poll_none at_place]
      exact .inl ⟨found, rfl⟩
    | some job =>
      obtain ⟨before, after, split, rfl⟩ := split_at_place at_place
      by_cases same : job.number = number
      · obtain ⟨number', call'⟩ := job
        cases same
        cases (h.call?_eq split).symm.trans found
        exact .inr ⟨before, after, split, rfl⟩
      · refine .inl ⟨(call?_poll_other split same).trans found, ?_⟩
        rw [resultsOf_poll split, if_neg same, List.append_nil]
  | cancel place =>
    cases at_place : work.jobs[place]? with
    | none =>
      rw [perform_cancel_none at_place]
      exact .inl ⟨found, rfl⟩
    | some job =>
      obtain ⟨before, after, split, rfl⟩ := split_at_place at_place
      have ne : job.number ≠ number := fun same => kept ⟨job, at_place, same⟩
      refine .inl ⟨(call?_cancel_other split ne).trans found, ?_⟩
      rw [perform_cancel split]
      rfl
  | move way => exact .inl ⟨found, rfl⟩

/-- A call that is not under way and was started gets no more results. -/
theorem gone_perform (given : number < work.started) (gone : work.call? number = none)
    (action : Action α μ) : (m.perform work action).call? number = none ∧
      (m.perform work action).resultsOf number = work.resultsOf number := by
  have other {before after : List (Job κ)} {job : Job κ}
      (split : work.jobs = before ++ job :: after) : job.number ≠ number := by
    have none := List.find?_eq_none.mp (Option.map_eq_none_iff.mp gone) job (by simp [split])
    simpa using none
  cases action with
  | start request =>
    refine ⟨(call?_start given request).trans gone, ?_⟩
    simp only [perform]
    cases m.accept work.state request <;> rfl
  | poll place =>
    cases at_place : work.jobs[place]? with
    | none =>
      rw [perform_poll_none at_place]
      exact ⟨gone, rfl⟩
    | some job =>
      obtain ⟨before, after, split, rfl⟩ := split_at_place at_place
      refine ⟨(call?_poll_other split (other split)).trans gone, ?_⟩
      rw [resultsOf_poll split, if_neg (other split), List.append_nil]
  | cancel place =>
    cases at_place : work.jobs[place]? with
    | none =>
      rw [perform_cancel_none at_place]
      exact ⟨gone, rfl⟩
    | some job =>
      obtain ⟨before, after, split, rfl⟩ := split_at_place at_place
      refine ⟨(call?_cancel_other split (other split)).trans gone, ?_⟩
      rw [perform_cancel split]
      rfl
  | move way => exact ⟨gone, rfl⟩

theorem gone_run (given : number < work.started) (gone : work.call? number = none)
    (actions : List (Action α μ)) : (m.run work actions).call? number = none ∧
      (m.run work actions).resultsOf number = work.resultsOf number := by
  induction actions generalizing work with
  | nil => exact ⟨gone, rfl⟩
  | cons action rest ih =>
    obtain ⟨none, same⟩ := gone_perform given gone action
    obtain ⟨later, told⟩ := ih (Nat.lt_of_lt_of_le given (started_le work action)) none
    exact ⟨later, told.trans same⟩

/-- Nobody has a result before it ends. -/
theorem unanswered_perform (h : work.Numbered)
    (answered : ∀ entry ∈ work.results, entry.1 < work.started)
    (unanswered : ∀ job ∈ work.jobs, work.resultsOf job.number = []) (action : Action α μ) :
    ∀ job ∈ (m.perform work action).jobs, (m.perform work action).resultsOf job.number = [] := by
  intro next mem
  cases action with
  | start request =>
    simp only [perform] at mem ⊢
    cases accepted : m.accept work.state request with
    | none =>
      rw [accepted] at mem
      exact unanswered next mem
    | some call =>
      rw [accepted] at mem
      rcases List.mem_append.mp mem with old | new
      · exact unanswered next old
      · rw [List.mem_singleton.mp new, Work.resultsOf, List.map_eq_nil_iff, List.filter_eq_nil_iff]
        exact fun entry there => by simpa using Nat.ne_of_lt (answered entry there)
  | poll place =>
    cases at_place : work.jobs[place]? with
    | none =>
      rw [perform_poll_none at_place] at mem ⊢
      exact unanswered next mem
    | some job =>
      obtain ⟨before, after, split, rfl⟩ := split_at_place at_place
      rw [resultsOf_poll split]
      rcases mem_jobs_poll h split mem with ⟨old, other⟩ | ⟨call, left, rfl⟩
      · rw [unanswered next old, if_neg other.symm]
        rfl
      · have none := unanswered job (List.mem_of_getElem? at_place)
        rw [none, if_pos rfl, Progress.eq_pending left]
        rfl
  | cancel place =>
    cases at_place : work.jobs[place]? with
    | none =>
      rw [perform_cancel_none at_place] at mem ⊢
      exact unanswered next mem
    | some job =>
      simp only [perform, at_place] at mem ⊢
      exact unanswered next ((List.eraseIdx_sublist _ _).subset mem)
  | move way => exact unanswered next mem

theorem unanswered_run (h : work.Numbered)
    (answered : ∀ entry ∈ work.results, entry.1 < work.started)
    (unanswered : ∀ job ∈ work.jobs, work.resultsOf job.number = [])
    (actions : List (Action α μ)) :
    ∀ job ∈ (m.run work actions).jobs, (m.run work actions).resultsOf job.number = [] := by
  induction actions generalizing work with
  | nil => exact unanswered
  | cons action rest ih =>
    exact ih (numbered_perform h action) (results_lt_perform h answered action)
      (unanswered_perform h answered unanswered action)

/-! ## What a run shows of one call -/

section
variable {ε : Type} {shown : σ → κ → List ε}

/-- Nobody shows anything before it is started. -/
theorem told_started (h : work.Numbered) {action : Action α μ} {entry : Nat × ε}
    (mem : entry ∈ told shown work action) : entry.1 < work.started := by
  cases action with
  | poll place =>
    cases at_place : work.jobs[place]? with
    | none => simp [told, at_place] at mem
    | some job =>
      simp only [told, at_place, List.mem_map] at mem
      obtain ⟨note, -, rfl⟩ := mem
      exact h.given job (List.mem_of_getElem? at_place)
  | start | cancel | move => cases mem

theorem started_le_run (work : Work σ κ ρ) (actions : List (Action α μ)) :
    work.started ≤ (m.run work actions).started := by
  induction actions generalizing work with
  | nil => exact Nat.le_refl _
  | cons action rest ih => exact Nat.le_trans (started_le work action) (ih _)

theorem chronicle_started (h : work.Numbered) {actions : List (Action α μ)} {entry : Nat × ε}
    (mem : entry ∈ m.chronicle shown work actions) : entry.1 < (m.run work actions).started := by
  induction actions generalizing work with
  | nil => cases mem
  | cons action rest ih =>
    rcases List.mem_append.mp mem with now | later
    · have first := Nat.lt_of_lt_of_le (told_started h now) (started_le (m := m) work action)
      exact Nat.lt_of_lt_of_le first (started_le_run (m.perform work action) rest)
    · exact ih (numbered_perform h action) later

/-- What a run tells of a call begins where the call is started. -/
theorem notesOf_from {before later : List (Action α μ)} (h : work.Numbered)
    (number : Nat) (unborn : (m.run work before).started ≤ number) :
    notesOf number (m.chronicle shown work (before ++ later)) =
      notesOf number (m.chronicle shown (m.run work before) later) := by
  have nothing : notesOf number (m.chronicle shown work before) = [] := by
    rw [notesOf, List.map_eq_nil_iff, List.filter_eq_nil_iff]
    intro entry mem
    have lt := chronicle_started h mem
    simpa using Nat.ne_of_lt (Nat.lt_of_lt_of_le lt unborn)
  rw [chronicle_append, notesOf, List.filter_append, List.map_append]
  show notesOf number (m.chronicle shown work before) ++ _ = _
  rw [nothing]
  rfl

/-- Every number was given to a call that was started. -/
theorem start_of_number {actions : List (Action α μ)} (le : work.started ≤ number)
    (lt : number < (m.run work actions).started) :
    ∃ before request later, actions = before ++ .start request :: later ∧
      (m.run work before).started = number := by
  induction actions generalizing work with
  | nil => exact absurd lt (Nat.not_lt_of_le le)
  | cons action rest ih =>
    by_cases later : (m.perform work action).started ≤ number
    · obtain ⟨before, request, after, rfl, same⟩ := ih later lt
      exact ⟨action :: before, request, after, rfl, same⟩
    · -- the number was given away by this very action, so it starts a call
      have grown : work.started < (m.perform work action).started := by omega
      cases action with
      | start request =>
        refine ⟨[], request, rest, rfl, ?_⟩
        simp only [perform] at later
        cases accepted : m.accept work.state request with
        | none =>
          rw [accepted] at later
          exact absurd le later
        | some call =>
          rw [accepted] at later
          show work.started = number
          simp only at later
          omega
      | poll place =>
        simp only [perform] at grown
        split at grown
        · omega
        · split at grown <;> simp at grown
      | cancel place =>
        simp only [perform] at grown
        split at grown <;> simp at grown
      | move way => exact absurd grown (Nat.lt_irrefl _)

/-- The results of a call are those that its chances show. -/
theorem resultsOf_run {result : ε → List ρ}
    (shows : ∀ state call, (m.poll state call).2.result = (shown state call).flatMap result)
    (number : Nat) (actions : List (Action α μ)) :
    (m.run work actions).resultsOf number = work.resultsOf number ++
      (notesOf number (m.chronicle shown work actions)).flatMap result := by
  have once (work : Work σ κ ρ) (action : Action α μ) :
      (m.perform work action).resultsOf number =
        work.resultsOf number ++ (notesOf number (told shown work action)).flatMap result := by
    cases action with
    | start request =>
      have same : (m.perform work (.start request)).results = work.results := by
        simp only [perform]
        cases m.accept work.state request <;> rfl
      simp [Work.resultsOf, same, told, notesOf]
    | poll place =>
      cases at_place : work.jobs[place]? with
      | none => simp [perform_poll_none at_place, told, at_place, notesOf]
      | some job =>
        obtain ⟨before, after, split, rfl⟩ := split_at_place at_place
        rw [resultsOf_poll split, told_poll split, shows]
        by_cases same : job.number = number
        · rw [if_pos same, same, notesOf_same]
        · rw [if_neg same, notesOf_other same]
          rfl
    | cancel place =>
      have same : (m.perform work (.cancel place)).results = work.results := by
        simp only [perform]
        cases work.jobs[place]? <;> rfl
      simp [Work.resultsOf, same, told, notesOf]
    | move way => simp [perform, Work.resultsOf, told, notesOf]
  induction actions generalizing work with
  | nil => simp [chronicle, notesOf]
  | cons action rest ih =>
    rw [run_cons, ih, once]
    simp [chronicle, notesOf, List.append_assoc]

end

/-! ## What nobody acts on -/

/-- Nobody acts on what a look at states, calls and requests leaves out. -/
structure Blind {τ η β : Type} (m : Machine σ κ ρ α μ) (f : σ → τ) (g : κ → η) (h : α → β) : Prop where
  poll : ∀ {state state' call call'}, f state = f state' → g call = g call' →
    (m.poll state call).map f (Progress.map g id) = (m.poll state' call').map f (Progress.map g id)
  drop : ∀ {state state' call call'}, f state = f state' → g call = g call' →
    f (m.drop state call) = f (m.drop state' call')
  accept : ∀ {state state' request request'}, f state = f state' → h request = h request' →
    (m.accept state request).map g = (m.accept state' request').map g
  move : ∀ {state state'} (way : μ), f state = f state' → f (m.move state way) = f (m.move state' way)

variable {τ η β : Type} {f : σ → τ} {g : κ → η} {h : α → β}

theorem Blind.perform (blind : m.Blind f g h) {work work' : Work σ κ ρ}
    (same : work.map f g = work'.map f g) {action action' : Action α μ}
    (alike : action.map h = action'.map h) :
    (m.perform work action).map f g = (m.perform work' action').map f g := by
  obtain ⟨state, jobs, started, results⟩ := Work.mk.inj same
  have there (place : Nat) : (work.jobs[place]?).map (fun job => (⟨job.number, g job.call⟩ : Job η)) =
      (work'.jobs[place]?).map fun job => ⟨job.number, g job.call⟩ := by
    rw [← List.getElem?_map, ← List.getElem?_map, jobs]
  cases action with
  | start request =>
    cases action' with
    | start request' =>
      have accepts := blind.accept state (Action.start.inj alike)
      simp only [Machine.perform]
      cases accepted : m.accept work.state request <;>
        cases accepted' : m.accept work'.state request' <;>
        rw [accepted, accepted'] at accepts
      · exact same
      · cases accepts
      · cases accepts
      · simp [Work.map, state, jobs, started, results, Option.some.inj accepts]
    | poll | cancel | move => cases alike
  | poll place =>
    cases action' with
    | poll place' =>
      cases alike
      have here := there place
      simp only [Machine.perform]
      cases at_place : work.jobs[place]? <;> cases at_place' : work'.jobs[place]? <;>
        rw [at_place, at_place'] at here
      · exact same
      · cases here
      · cases here
      · rename_i job job'
        obtain ⟨number, call⟩ := Job.mk.inj (Option.some.inj here)
        have polled := blind.poll state call
        dsimp only
        revert polled
        rcases m.poll work.state job.call with ⟨after, next | result⟩ <;>
          rcases m.poll work'.state job'.call with ⟨after', next' | result'⟩ <;>
          intro polled <;> obtain ⟨left, outcome⟩ := Prod.mk.inj polled
        · simp [Work.map, left, Progress.pending.inj outcome, jobs, started, results, number]
        · cases outcome
        · cases outcome
        · have result := Progress.finished.inj outcome
          simp only [id] at result
          simp [Work.map, left, result, ← List.eraseIdx_map, jobs, started, results, number]
    | start | cancel | move => cases alike
  | cancel place =>
    cases action' with
    | cancel place' =>
      cases alike
      have here := there place
      simp only [Machine.perform]
      cases at_place : work.jobs[place]? <;> cases at_place' : work'.jobs[place]? <;>
        rw [at_place, at_place'] at here
      · exact same
      · cases here
      · cases here
      · rename_i job job'
        obtain ⟨number, call⟩ := Job.mk.inj (Option.some.inj here)
        simp [Work.map, blind.drop state call, jobs, started, results, ← List.eraseIdx_map]
    | start | poll | move => cases alike
  | move way =>
    cases action' with
    | move way' =>
      cases alike
      simp [Work.map, Machine.perform, blind.move way state, jobs, started, results]
    | start | poll | cancel => cases alike

/-- **Runs that look the same come to the same.** -/
theorem Blind.run (blind : m.Blind f g h) {work work' : Work σ κ ρ}
    (same : work.map f g = work'.map f g) {actions actions' : List (Action α μ)}
    (alike : actions.map (Action.map h) = actions'.map (Action.map h)) :
    (m.run work actions).map f g = (m.run work' actions').map f g := by
  induction actions generalizing work work' actions' with
  | nil =>
    cases actions' with
    | nil => exact same
    | cons => cases alike
  | cons action rest ih =>
    cases actions' with
    | nil => cases alike
    | cons action' rest' =>
      obtain ⟨first, later⟩ := List.cons.inj alike
      exact ih (blind.perform same first) later

end Machine
end EngineSync
