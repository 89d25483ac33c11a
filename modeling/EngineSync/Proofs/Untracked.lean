import EngineSync.Proofs.Links
import EngineSync.Proofs.Mirroring
import EngineSync.Proofs.Sifting

/-!
# Untracked documents are invisible

Publications of documents that are not tracked, and open documents that are not, can be put into a
run at any place: all else goes as without them, and they go through (`untracked_invisible`).  A
publication of that kind changes nothing when it has a chance, so a run is the same run with and
without it, but for the numbers and places of the calls that were started after it.
-/
namespace EngineSync

/-! ## Through the listeners -/

/-- An event of a document that is not tracked. -/
def Event.untracked (filter : DocumentFilter) (event : Event) : Bool :=
  event.forwarding?.any fun forwarding => !filter.tracks forwarding.doc

/-- A request to publish such an event, or to bring the document straight to a session. -/
def WorldRequest.untracked (filter : DocumentFilter) : WorldRequest → Bool
  | .publish event => event.untracked filter
  | .sync _ (.opened doc) | .sync _ (.changed doc) | .sync _ (.closed doc) => !filter.tracks doc
  | .sync _ (.replay _) | .activate _ => false

/-- A call about a document that is not tracked: it was not published yet, or it waits at the
barrier of an activation and only activations come after that, or it goes straight to a session. -/
inductive Call.Passes (filter : DocumentFilter) : Call → Prop where
  | arriving {event} (untracked : event.untracked filter = true) :
      Passes filter (.publish (.arriving event))
  | waiting {event id waiting} (untracked : event.untracked filter = true)
      (own : ∀ sub ∈ waiting, sub.listener.activation? ≠ none) :
      Passes filter (.publish (.delivering ⟨event, some (.activation id .arriving), waiting⟩))
  | forwarding {id doc closes} (untracked : filter.tracks doc = false) :
      Passes filter (.sync id (.forward ⟨doc, closes, .arriving⟩))

/-- The result of a call that went through without effect. -/
def CallResult.Passed (result : CallResult) : Prop :=
  result = .delivered ∨ result = .synced (.forwarded false)

namespace World
variable {world world' : World} {filter : DocumentFilter} {event : Event} {call : Call}
  {calls : List Call} {id : ActivationId}

/-- What becomes of a chance of such a call: it is through, or it waits for the open documents of an
activation. -/
inductive LetsThrough (filter : DocumentFilter) (world : World) :
    Progress Call CallResult → Prop where
  | through {result} (passed : result.Passed) : LetsThrough filter world (.finished result)
  | waits {event id waiting} (closed : (world.activation id).barrier = .replaying)
      (lt : id < world.activations.length)
      (passes : Call.Passes filter
        (.publish (.delivering ⟨event, some (.activation id .arriving), waiting⟩))) :
      LetsThrough filter world
        (.pending (.publish (.delivering ⟨event, some (.activation id .arriving), waiting⟩)))

theorem LetsThrough.bare {progress : Progress Call CallResult}
    (lets : LetsThrough filter world progress) (same : world.bare = world'.bare) :
    LetsThrough filter world' progress := by
  cases lets with
  | through passed => exact .through passed
  | @waits event id waiting closed lt passes =>
    have length : world.activations.length = world'.activations.length :=
      congrArg (fun world => world.activations.length) same
    have barrier : (world'.activation id).barrier = (world.activation id).barrier :=
      congrArg (fun world => (world.activation id).barrier) same.symm
    exact .waits (barrier.trans closed) (length ▸ lt) passes

theorem LetsThrough.passes {progress : Progress Call CallResult}
    (lets : LetsThrough filter world progress) {next : Call} (mem : next ∈ progress.rest) :
    next.Passes filter := by
  cases lets with
  | through => cases mem
  | waits closed lt passes =>
    rw [List.mem_singleton.mp mem]
    exact passes

theorem LetsThrough.passed {result : CallResult}
    (lets : LetsThrough filter world (.finished result)) : result.Passed := by
  cases lets with
  | through passed => exact passed

/-- If the publication of an event starts, nobody but activations listens to it. -/
def Alone (world : World) (call : Call) : Prop :=
  ∀ event ∈ call.unpublished?, ∀ sub ∈ world.env.bus.subscribers event.kind,
    sub.listener.activation? ≠ none

theorem Filters.bare (filters : Filters filter world) (same : world'.bare = world.bare) :
    Filters filter world' := by
  have bared : Filters filter world'.bare := by
    rw [same]
    exact ⟨filters.language, filters.activations⟩
  exact ⟨bared.language, bared.activations⟩

/-- What was taken from a way to a session is put back. -/
theorem bare_putSync_self (world : World) {sync : Sync}
    (same : sync.silent = (world.sync id).silent) :
    (world.putSync id sync).bare = world.bare := by
  refine (bare_putSync id (rfl : world.bare = world.bare) same).trans ?_
  have back := set_activation world id
  show ({ world with
    activations := world.activations.set id (world.activation id) } : World).bare = _
  rw [back]

/-- A document that is not tracked is brought to a session without effect. -/
theorem pollForwarding_untracked (own : (world.activation id).filter = filter) {doc : Document}
    (untracked : filter.tracks doc = false) (closes : Bool) :
    (world.pollForwarding id ⟨doc, closes, .arriving⟩).1.bare = world.bare ∧
      (world.pollForwarding id ⟨doc, closes, .arriving⟩).2 = .finished (.ok ()) := by
  have skipped : (world.sync id).filter.tracks doc = false := by
    rwa [show (world.sync id).filter = filter from own]
  have polled := (world.sync id).poll_untracked skipped closes
  unfold pollForwarding
  rcases outcome : (world.sync id).poll ⟨doc, closes, .arriving⟩ with ⟨sync, progress⟩
  rw [outcome] at polled
  obtain ⟨quiet, (rfl : progress = .finished (.ok false))⟩ := Prod.mk.inj polled
  simp only [concludeForwarding, Bool.and_false, Bool.false_eq_true, if_false, and_true]
  exact bare_putSync_self world quiet

/-- A listener lets the event of a document that is not tracked through as soon as its barrier is
not closed any more. -/
theorem pollListener_untracked (filters : Filters filter world) (lt : id < world.activations.length)
    (untracked : event.untracked filter = true) :
    (world.pollListener event (.activation id .arriving)).1.bare = world.bare ∧
      ((world.activation id).barrier = .replaying ∧
          (world.pollListener event (.activation id .arriving)).2 =
            .pending (.activation id .arriving) ∨
        (world.pollListener event (.activation id .arriving)).2 = .finished (.ok ())) := by
  cases barrier : (world.activation id).barrier with
  | replaying =>
    have polled : world.pollListener event (.activation id .arriving) =
        (world, .pending (.activation id .arriving)) := by simp only [pollListener, barrier]
    rw [polled]
    exact ⟨rfl, .inl ⟨rfl, rfl⟩⟩
  | abandoned =>
    have polled : world.pollListener event (.activation id .arriving) =
        (world, .finished (.ok ())) := by simp only [pollListener, barrier]
    rw [polled]
    exact ⟨rfl, .inr rfl⟩
  | «open» =>
    have polled : world.pollListener event (.activation id .arriving) = world.handle id event := by
      simp only [pollListener, barrier]
    rw [polled]
    cases event with
    | opened doc | changed doc | closed doc =>
      have skipped : filter.tracks doc = false := by
        simpa using show (!filter.tracks doc) = true from untracked
      have forwarded := pollForwarding_untracked (filters.activations id lt) skipped
      exact ⟨(forwarded _).1, .inr (forwarded _).2⟩
    | configuration change => cases untracked

/-- So do all who come after it. -/
theorem deliver_untracked (filters : Filters filter world)
    (untracked : event.untracked filter = true)
    {waiting : List (Subscription Listener)}
    (own : ∀ sub ∈ waiting, sub.listener.activation? ≠ none)
    (lt : ∀ id ∈ audience waiting, id < world.activations.length) :
    (world.deliver event waiting).1.bare = world.bare ∧
      LetsThrough filter world (world.deliver event waiting).2 := by
  induction waiting generalizing world with
  | nil => exact ⟨rfl, .through (.inl rfl)⟩
  | cons next waiting ih =>
    obtain ⟨id, listener⟩ := Option.ne_none_iff_exists'.mp (own next List.mem_cons_self)
    have there : id < world.activations.length :=
      lt id (List.mem_filterMap.mpr ⟨next, List.mem_cons_self, listener⟩)
    have later (sub) (hs : sub ∈ waiting) := own sub (List.mem_cons_of_mem _ hs)
    have beyond (id) (hid : id ∈ audience waiting) :=
      lt id (((List.sublist_cons_self next waiting).filterMap _).subset hid)
    obtain ⟨same, went⟩ := pollListener_untracked filters there untracked
    rw [deliver, Listener.eq_of_activation? listener]
    simp only [startListener, ListenerCall.start]
    rcases outcome : world.pollListener event (.activation id .arriving) with ⟨after, progress⟩
    rw [outcome] at same went
    -- who waits at a barrier holds up all that come after; past the listener the induction goes on
    rcases went with ⟨closed, waits⟩ | through
    · cases waits
      exact ⟨same, .waits closed there (.waiting untracked later)⟩
    · cases through
      have length : after.activations.length = world.activations.length :=
        congrArg (fun world => world.activations.length) same
      obtain ⟨rest, delivered⟩ := ih (filters.bare same) later fun id hid => length ▸ beyond id hid
      exact ⟨rest.trans same, delivered.bare same⟩

end World

namespace Call.Passes
variable {world : World} {filter : DocumentFilter} {call : Call} {calls : List Call}
  (passes : call.Passes filter)
include passes

/-- **A chance of a call about an untracked document changes nothing**, and the call is let through
unless some activation still sends the open documents. -/
theorem poll (sound : World.Sound world (call :: calls)) (filters : World.Filters filter world)
    (alone : world.Alone call) :
    (world.poll call).1.bare = world.bare ∧ world.LetsThrough filter (world.poll call).2 := by
  have lt (id : ActivationId) (hid : id ∈ call.ids) : id < world.activations.length :=
    sound.lt_of_ids hid
  cases passes with
  | @arriving event untracked =>
    have noted : World.Filters filter (world.log [.publishEvent event.kind.name
        (world.env.bus.subscribers event.kind).length]) := filters.bare rfl
    have delivered := World.deliver_untracked noted untracked (alone event rfl)
      (sound.orderly.audience_lt event.kind)
    exact ⟨delivered.1, delivered.2.bare rfl⟩
  | @waiting event id waiting untracked own =>
    obtain ⟨same, went⟩ := World.pollListener_untracked filters (lt id List.mem_cons_self) untracked
    simp only [World.poll, World.pollPublish]
    rcases outcome : world.pollListener event (.activation id .arriving) with ⟨after, progress⟩
    rw [outcome] at same went
    rcases went with ⟨closed, waits⟩ | through
    · cases waits
      exact ⟨same, .waits closed (lt id List.mem_cons_self) (.waiting untracked own)⟩
    · cases through
      have length : after.activations.length = world.activations.length :=
        congrArg (fun world => world.activations.length) same
      obtain ⟨rest, delivered⟩ := World.deliver_untracked (filters.bare same) untracked own
        fun id hid => length ▸ lt id (List.mem_cons_of_mem _ hid)
      exact ⟨rest.trans same, delivered.bare same⟩
  | @forwarding id doc closes untracked =>
    have own : (world.sync id).filter = filter := filters.activations id (lt id List.mem_cons_self)
    have polled := (world.sync id).poll_untracked (own.symm ▸ untracked) closes
    simp only [World.poll, Sync.pollCall]
    rcases outcome : (world.sync id).poll ⟨doc, closes, .arriving⟩ with ⟨sync, progress⟩
    rw [outcome] at polled
    obtain ⟨quiet, (rfl : progress = .finished (.ok false))⟩ := Prod.mk.inj polled
    exact ⟨World.bare_putSync_self world quiet, .through (.inr rfl)⟩

/-- Nothing is left of it when it is given up. -/
theorem cancel (world : World) : (world.cancel call).bare = world.bare := by
  cases passes with
  | arriving | waiting => rfl
  | forwarding => exact World.bare_putSync_self world rfl

end Call.Passes

/-! ## A run with more documents -/

/-- How many numbers before this one are not left out. -/
def rank (left : Nat → Bool) (number : Nat) : Nat :=
  (List.range number).countP (!left ·)

theorem rank_succ (left : Nat → Bool) (number : Nat) :
    rank left (number + 1) = rank left number + if left number then 0 else 1 := by
  unfold rank
  rw [List.range_succ, List.countP_append, List.countP_singleton]
  cases left number <;> rfl

/-- The calls that are not left out. -/
def kept (left : Nat → Bool) (jobs : List (Job Call)) : List (Job Call) :=
  jobs.filter (!left ·.number)

/-- A call without documents that are not tracked. -/
def Job.sifted (filter : DocumentFilter) (job : Job Call) : Job Call :=
  ⟨job.number, job.call.sifted filter⟩

/-- A call by its number among those that are not left out. -/
def Job.among (left : Nat → Bool) (job : Job Call) : Job Call :=
  ⟨rank left job.number, job.call⟩

section
variable {left : Nat → Bool} {before after : List (Job Call)} {job : Job Call}

theorem kept_nil (left : Nat → Bool) : kept left [] = [] := rfl

theorem kept_append (left : Nat → Bool) (before after : List (Job Call)) :
    kept left (before ++ after) = kept left before ++ kept left after :=
  List.filter_append ..

theorem kept_cons_of_own (own : left job.number = true) :
    kept left (job :: after) = kept left after :=
  List.filter_cons_of_neg (by simpa using own)

theorem kept_cons_of_other (other : left job.number = false) :
    kept left (job :: after) = job :: kept left after :=
  List.filter_cons_of_pos (by simpa using other)

theorem kept_rest_of_own (own : left job.number = true) (calls : List Call) :
    kept left (calls.map fun call => ⟨job.number, call⟩) = [] := by
  simp [kept, List.filter_map, Function.comp_def, own]

theorem kept_rest_of_other (other : left job.number = false) (calls : List Call) :
    kept left (calls.map fun call => ⟨job.number, call⟩) =
      calls.map fun call => ⟨job.number, call⟩ := by
  simp [kept, List.filter_map, Function.comp_def, other]

end

/-- The place of a call that is not left out, among all calls and among those that are not left out;
where no call is in the first list, none is in the second. -/
structure SamePlace (left : Nat → Bool) (jobs : List (Job Call)) (place place' : Nat) : Prop where
  call : ∀ job ∈ jobs[place]?,
    left job.number = false ∧ (kept left (jobs.take place)).length = place'
  nobody : jobs[place]? = none → (kept left jobs).length ≤ place'

/-- The results of calls that are not left out, by their numbers among them. -/
def resultsAmong (left : Nat → Bool) (results : List (Nat × CallResult)) :
    List (Nat × CallResult) :=
  (results.filter (!left ·.1)).map fun entry => (rank left entry.1, entry.2)

/-- A request about an untracked document becomes a call about one. -/
theorem WorldRequest.passes {filter : DocumentFilter} {world : World} {request : WorldRequest}
    {call : Call} (untracked : request.untracked filter = true)
    (accepted : world.accept request = some call) : call.Passes filter := by
  have skipped {doc : Document} (untracked : (!filter.tracks doc) = true) :
      filter.tracks doc = false := by
    simpa using untracked
  rcases request with name | event | ⟨id, doc | doc | doc | docs⟩
  · cases untracked
  · cases accepted
    exact .arriving untracked
  all_goals
    simp only [World.accept, Option.ite_none_right_eq_some, Option.some.injEq] at accepted
    rw [← accepted.2]
  · exact .forwarding (skipped untracked)
  · exact .forwarding (skipped untracked)
  · exact .forwarding (skipped untracked)
  · cases untracked

namespace World

/-- **Documents that are not tracked are inserted into a run**, from the left list of actions to the
right one: calls about them are started, have chances and are given up, as long as nobody but
activations listens when one is published, and among the open documents there are others of them.
`left` are the numbers that the calls have, and the calls of the run itself are found at their
places among the others. -/
inductive Inserted (filter : DocumentFilter) (left : Nat → Bool) : Work World Call CallResult →
    List (Action WorldRequest WorldMove) → List (Action WorldRequest WorldMove) → Prop where
  | done (work) : Inserted filter left work [] []
  | event {work : Work World Call CallResult} {request plain mixed}
      (untracked : request.untracked filter = true)
      (own : work.state.accept request ≠ none → left work.started = true)
      (rest : Inserted filter left (machine.perform work (.start request)) plain mixed) :
      Inserted filter left work plain (.start request :: mixed)
  | chance {work : Work World Call CallResult} {place plain mixed} (job : Job Call)
      (there : work.jobs[place]? = some job) (own : left job.number = true)
      (alone : work.state.Alone job.call)
      (rest : Inserted filter left (machine.perform work (.poll place)) plain mixed) :
      Inserted filter left work plain (.poll place :: mixed)
  | withdrawn {work : Work World Call CallResult} {place plain mixed} (job : Job Call)
      (there : work.jobs[place]? = some job) (own : left job.number = true)
      (rest : Inserted filter left (machine.perform work (.cancel place)) plain mixed) :
      Inserted filter left work plain (.cancel place :: mixed)
  | start {work : Work World Call CallResult} {request request' plain mixed}
      (alike : request'.sifted filter = request.sifted filter)
      (other : work.state.accept request' ≠ none → left work.started = false)
      (rest : Inserted filter left (machine.perform work (.start request')) plain mixed) :
      Inserted filter left work (.start request :: plain) (.start request' :: mixed)
  | poll {work : Work World Call CallResult} {place place' plain mixed}
      (there : SamePlace left work.jobs place' place)
      (rest : Inserted filter left (machine.perform work (.poll place')) plain mixed) :
      Inserted filter left work (.poll place :: plain) (.poll place' :: mixed)
  | cancel {work : Work World Call CallResult} {place place' plain mixed}
      (there : SamePlace left work.jobs place' place)
      (rest : Inserted filter left (machine.perform work (.cancel place')) plain mixed) :
      Inserted filter left work (.cancel place :: plain) (.cancel place' :: mixed)
  | documents {work : Work World Call CallResult} {docs docs' plain mixed}
      (same : docs'.filter filter.tracks = docs.filter filter.tracks)
      (rest : Inserted filter left (machine.perform work (.move (.documents docs'))) plain mixed) :
      Inserted filter left work (.move (.documents docs) :: plain)
        (.move (.documents docs') :: mixed)
  | move {work : Work World Call CallResult} {move plain mixed}
      (rest : Inserted filter left (machine.perform work (.move move)) plain mixed) :
      Inserted filter left work (.move move :: plain) (.move move :: mixed)

/-- A run goes on beside the run into which documents were inserted. -/
structure Beside (filter : DocumentFilter) (left : Nat → Bool)
    (plain mixed : Work World Call CallResult) : Prop where
  sifts : Sifts filter mixed.state plain.state
  jobs : ((kept left mixed.jobs).map (Job.among left)).map (Job.sifted filter) =
    plain.jobs.map (Job.sifted filter)
  started : plain.started = rank left mixed.started
  results : plain.results = resultsAmong left mixed.results
  passing : ∀ job ∈ mixed.jobs, left job.number = true → job.call.Passes filter
  passed : ∀ entry ∈ mixed.results, left entry.1 = true → entry.2.Passed
  linked : Linked mixed.state mixed.calls
  filters : Filters filter mixed.state
  sound : Sound plain.state plain.calls

namespace Beside
variable {filter : DocumentFilter} {left : Nat → Bool} {plain mixed : Work World Call CallResult}
  (beside : Beside filter left plain mixed)
include beside

/-- A call that is not left out is under way in both runs, and where nobody is in one of them,
nobody is in the other. -/
theorem split {place place' : Nat} (there : SamePlace left mixed.jobs place' place) :
    mixed.jobs[place']? = none ∧ plain.jobs[place]? = none ∨
      ∃ before job after before' job' after', mixed.jobs = before ++ job :: after ∧
        before.length = place' ∧ left job.number = false ∧
        plain.jobs = before' ++ job' :: after' ∧ before'.length = place ∧
        ((kept left before).map (Job.among left)).map (Job.sifted filter) =
          before'.map (Job.sifted filter) ∧
        (job.among left).sifted filter = job'.sifted filter ∧
        ((kept left after).map (Job.among left)).map (Job.sifted filter) =
          after'.map (Job.sifted filter) := by
  have jobs := beside.jobs
  cases at_place : mixed.jobs[place']? with
  | none =>
    have lengths := congrArg List.length jobs
    simp only [List.length_map] at lengths
    exact .inl ⟨rfl, List.getElem?_eq_none (lengths ▸ there.nobody at_place)⟩
  | some job =>
    obtain ⟨other, place⟩ := there.call job at_place
    obtain ⟨before, after, split, rfl⟩ := Machine.split_at_place at_place
    rw [split, kept_append, kept_cons_of_other other, List.map_append, List.map_append,
      List.map_cons, List.map_cons] at jobs
    obtain ⟨before', rest, jobs', first, tail⟩ := List.map_eq_append_iff.mp jobs.symm
    obtain ⟨job', after', rfl, here, last⟩ := List.map_eq_cons_iff.mp tail
    refine .inr ⟨before, job, after, before', job', after', split, rfl, other, jobs', ?_,
      first.symm, here.symm, last.symm⟩
    have lengths := congrArg List.length first
    rw [split, List.take_left] at place
    simp only [List.length_map] at lengths
    exact lengths.trans place

/-- A call about an untracked document starts. -/
theorem event {request : WorldRequest} (untracked : request.untracked filter = true)
    (own : mixed.state.accept request ≠ none → left mixed.started = true) :
    Beside filter left plain (machine.perform mixed (.start request)) := by
  have linked := linked_tells.keeps.perform beside.linked (.start request)
  cases accepted : mixed.state.accept request with
  | none =>
    have idle : machine.perform mixed (.start request) = mixed :=
      Machine.perform_start_none accepted
    rw [idle]
    exact beside
  | some call =>
    have started : machine.perform mixed (.start request) = _ := Machine.perform_start accepted
    have own : left mixed.started = true := own (by rw [accepted]; nofun)
    rw [started] at linked ⊢
    refine { beside with
      jobs := ?_
      started := ?_
      passing := fun job hj left => ?_
      linked := linked }
    · rw [kept_append, kept_cons_of_own own, kept_nil, List.append_nil]
      exact beside.jobs
    · rw [beside.started, rank_succ, own]
      rfl
    · rcases List.mem_append.mp hj with old | new
      · exact beside.passing job old left
      · rw [List.mem_singleton.mp new]
        exact WorldRequest.passes untracked accepted

/-- It has a chance. -/
theorem chance {before after : List (Job Call)} {job : Job Call}
    (split : mixed.jobs = before ++ job :: after) (own : left job.number = true)
    (alone : mixed.state.Alone job.call) :
    Beside filter left plain (machine.perform mixed (.poll before.length)) := by
  have linked := linked_tells.keeps.perform beside.linked (.poll before.length)
  have first := linked_tells.keeps.at_place beside.linked split
  have passes := beside.passing job (by simp [split]) own
  obtain ⟨same, lets⟩ := passes.poll first.sound beside.filters alone
  have passing (next) (hn : next ∈ (machine.perform mixed (.poll before.length)).jobs)
      (own : left next.number = true) : next.call.Passes filter := by
    rcases Machine.mem_jobs_of_poll split hn with old | ⟨call, mem, rfl⟩
    · exact beside.passing next old own
    · exact lets.passes mem
  have passed (entry) (he : entry ∈ (machine.perform mixed (.poll before.length)).results)
      (own : left entry.1 = true) : entry.2.Passed := by
    rcases Machine.mem_results_poll split he with old | ⟨result, finished, rfl⟩
    · exact beside.passed entry old own
    · rw [show (mixed.state.poll job.call).2 = _ from finished] at lets
      exact lets.passed
  have polled := Machine.perform_poll (m := machine) split
  rw [polled] at linked passing passed ⊢
  have filters : Filters filter (machine.poll mixed.state job.call).1 := beside.filters.bare same
  refine {
    sifts := ⟨same.trans beside.sifts.bare, ?_, filters.language⟩
    jobs := ?_
    started := beside.started
    results := ?_
    passing := passing
    passed := passed
    linked := linked
    filters := filters
    sound := beside.sound }
  · have documents : (machine.poll mixed.state job.call).1.env.openDocuments = _ :=
      first.sound.openDocuments_poll
    rw [documents]
    exact beside.sifts.docs
  · have jobs := beside.jobs
    rw [split, kept_append, kept_cons_of_own own] at jobs
    rw [kept_append, kept_append, kept_rest_of_own own, List.append_nil]
    exact jobs
  · rw [beside.results]
    cases (machine.poll mixed.state job.call).2 with
    | pending call => rfl
    | finished result => simp [resultsAmong, own]

/-- It is given up. -/
theorem withdrawn {before after : List (Job Call)} {job : Job Call}
    (split : mixed.jobs = before ++ job :: after) (own : left job.number = true) :
    Beside filter left plain (machine.perform mixed (.cancel before.length)) := by
  have linked := linked_tells.keeps.perform beside.linked (.cancel before.length)
  have first := linked_tells.keeps.at_place beside.linked split
  have same := (beside.passing job (by simp [split]) own).cancel mixed.state
  have passing (next) (hn : next ∈ (machine.perform mixed (.cancel before.length)).jobs) :=
    beside.passing next (Machine.mem_jobs_of_cancel split hn)
  have dropped := Machine.perform_cancel (m := machine) split
  rw [dropped] at linked passing ⊢
  have filters : Filters filter (machine.drop mixed.state job.call) := beside.filters.bare same
  refine { beside with
    sifts := ⟨same.trans beside.sifts.bare, ?_, filters.language⟩
    jobs := ?_
    passing := passing
    linked := linked
    filters := filters }
  · have documents : (machine.drop mixed.state job.call).env.openDocuments = _ :=
      (Environment.Edits.evolves first.sound.sessions_cancel).openDocuments
    rw [documents]
    exact beside.sifts.docs
  · have jobs := beside.jobs
    rw [split, kept_append, kept_cons_of_own own] at jobs
    rw [kept_append]
    exact jobs

/-- Another call starts in both runs. -/
theorem start {request request' : WorldRequest}
    (alike : request'.sifted filter = request.sifted filter)
    (other : mixed.state.accept request' ≠ none → left mixed.started = false) :
    Beside filter left (machine.perform plain (.start request))
      (machine.perform mixed (.start request')) := by
  have linked := linked_tells.keeps.perform beside.linked (.start request')
  have sound := Sound.tells.keeps.perform beside.sound (.start request)
  have accepts := beside.sifts.accept alike
  cases accepted : mixed.state.accept request' with
  | none =>
    rw [accepted] at accepts
    have idle : machine.perform mixed (.start request') = mixed :=
      Machine.perform_start_none accepted
    have idle' : machine.perform plain (.start request) = plain :=
      Machine.perform_start_none (Option.map_eq_none_iff.mp accepts.symm)
    rw [idle, idle']
    exact beside
  | some call =>
    rw [accepted] at accepts
    obtain ⟨call', accepted', sifted⟩ := Option.map_eq_some_iff.mp accepts.symm
    have other : left mixed.started = false := other (by rw [accepted]; nofun)
    have started : machine.perform mixed (.start request') = _ := Machine.perform_start accepted
    have started' : machine.perform plain (.start request) = _ := Machine.perform_start accepted'
    rw [started] at linked ⊢
    rw [started'] at sound ⊢
    refine { beside with
      jobs := ?_
      started := ?_
      passing := fun job hj own => ?_
      linked := linked
      sound := sound }
    · rw [kept_append, kept_cons_of_other other, kept_nil]
      simp [beside.jobs, beside.started, Job.among, Job.sifted, sifted]
    · rw [rank_succ, other, beside.started]
      rfl
    · rcases List.mem_append.mp hj with old | new
      · exact beside.passing job old own
      · rw [List.mem_singleton.mp new, other] at own
        cases own

/-- Another call has a chance in both runs. -/
theorem poll {place place' : Nat} (there : SamePlace left mixed.jobs place' place) :
    Beside filter left (machine.perform plain (.poll place))
      (machine.perform mixed (.poll place')) := by
  have linked := linked_tells.keeps.perform beside.linked (.poll place')
  have sound := Sound.tells.keeps.perform beside.sound (.poll place)
  have filters := (filters_tells filter).keeps.perform ⟨beside.linked.sound, beside.filters⟩
    (.poll place')
  rcases beside.split there with ⟨gone, gone'⟩ |
    ⟨before, job, after, before', job', after', split, rfl, other, split', rfl, first, here, last⟩
  · have idle : machine.perform mixed (.poll place') = mixed := Machine.perform_poll_none gone
    rw [idle, Machine.perform_poll_none gone']
    exact beside
  · -- the two calls at these places have the same number among those that are not left out, and
    -- differ in nothing but untracked documents that are still to be sent
    have number : rank left job.number = job'.number := congrArg Job.number here
    have call : job.call.sifted filter = job'.call.sifted filter := congrArg Job.call here
    have now := linked_tells.keeps.at_place beside.linked split
    have now' := Sound.tells.keeps.at_place beside.sound split'
    have outcome := beside.sifts.poll now.sound beside.filters call
    have sifts := beside.sifts.polled now.sound now' beside.filters call
    have passing (next) (hn : next ∈ (machine.perform mixed (.poll before.length)).jobs)
        (own : left next.number = true) : next.call.Passes filter := by
      rcases Machine.mem_jobs_of_poll split hn with old | ⟨call, -, rfl⟩
      · exact beside.passing next old own
      · cases other.symm.trans own
    have passed (entry) (he : entry ∈ (machine.perform mixed (.poll before.length)).results)
        (own : left entry.1 = true) : entry.2.Passed := by
      rcases Machine.mem_results_poll split he with old | ⟨result, -, rfl⟩
      · exact beside.passed entry old own
      · cases other.symm.trans own
    have polled := Machine.perform_poll (m := machine) split
    have polled' := Machine.perform_poll (m := machine) split'
    rw [polled'] at sound
    rw [polled] at linked filters passing passed
    have result : (machine.poll mixed.state job.call).2.map (Call.sifted filter)
          (fun result => result) =
        (machine.poll plain.state job'.call).2.map (Call.sifted filter) fun result => result :=
      congrArg Prod.snd outcome
    rw [polled, polled']
    refine {
      sifts := sifts
      jobs := ?_
      started := beside.started
      results := ?_
      passing := passing
      passed := passed
      linked := linked
      filters := filters.2
      sound := sound }
    · simp only [kept_append, kept_rest_of_other other, List.map_append, first, last]
      obtain ⟨next, next', pending, pending', same⟩ | ⟨result, finished, finished'⟩ :=
        Progress.alike result
      · simp [pending, pending', Job.among, Job.sifted, number, same]
      · simp [finished, finished']
    · obtain ⟨next, next', pending, pending', same⟩ | ⟨result, finished, finished'⟩ :=
        Progress.alike result
      · simp only [pending, pending', beside.results]
      · simp only [finished, finished', beside.results]
        simp [resultsAmong, other, number]

/-- Another call is given up in both runs. -/
theorem cancel {place place' : Nat} (there : SamePlace left mixed.jobs place' place) :
    Beside filter left (machine.perform plain (.cancel place))
      (machine.perform mixed (.cancel place')) := by
  have linked := linked_tells.keeps.perform beside.linked (.cancel place')
  have sound := Sound.tells.keeps.perform beside.sound (.cancel place)
  have filters := (filters_tells filter).keeps.perform ⟨beside.linked.sound, beside.filters⟩
    (.cancel place')
  rcases beside.split there with ⟨gone, gone'⟩ |
    ⟨before, job, after, before', job', after', split, rfl, other, split', rfl, first, here, last⟩
  · have idle : machine.perform mixed (.cancel place') = mixed := Machine.perform_cancel_none gone
    rw [idle, Machine.perform_cancel_none gone']
    exact beside
  · have call : job.call.sifted filter = job'.call.sifted filter := congrArg Job.call here
    have now := linked_tells.keeps.at_place beside.linked split
    have passing (next) (hn : next ∈ (machine.perform mixed (.cancel before.length)).jobs) :=
      beside.passing next (Machine.mem_jobs_of_cancel split hn)
    have dropped := Machine.perform_cancel (m := machine) split
    have dropped' := Machine.perform_cancel (m := machine) split'
    rw [dropped'] at sound
    rw [dropped] at linked filters passing
    rw [dropped, dropped']
    refine { beside with
      sifts := beside.sifts.cancelled now.sound call
      jobs := ?_
      passing := passing
      linked := linked
      filters := filters.2
      sound := sound }
    simp only [kept_append, List.map_append, first, last]

/-- The surroundings move, and among the open documents may be others that are not tracked. -/
theorem documents {docs docs' : List Document}
    (same : docs'.filter filter.tracks = docs.filter filter.tracks) :
    Beside filter left (machine.perform plain (.move (.documents docs)))
      (machine.perform mixed (.move (.documents docs'))) :=
  { beside with
    sifts := ⟨beside.sifts.bare, same, beside.sifts.language⟩
    linked := linked_tells.keeps.perform beside.linked (.move (.documents docs'))
    filters := ⟨beside.filters.language, beside.filters.activations⟩
    sound := Sound.tells.keeps.perform beside.sound (.move (.documents docs)) }

theorem move (move : WorldMove) :
    Beside filter left (machine.perform plain (.move move))
      (machine.perform mixed (.move move)) := by
  by_cases opens : ∃ docs, move = .documents docs
  · obtain ⟨docs, rfl⟩ := opens
    exact beside.documents rfl
  · have filters := (filters_tells filter).keeps.perform ⟨beside.linked.sound, beside.filters⟩
      (.move move)
    exact { beside with
      sifts := beside.sifts.moved beside.linked.sound move fun docs same => opens ⟨docs, same⟩
      linked := linked_tells.keeps.perform beside.linked (.move move)
      filters := filters.2
      sound := Sound.tells.keeps.perform beside.sound (.move move) }

omit beside in
/-- **A run goes on beside the run into which documents were inserted.** -/
theorem run {actions inserted : List (Action WorldRequest WorldMove)}
    (more : Inserted filter left mixed actions inserted) (beside : Beside filter left plain mixed) :
    Beside filter left (machine.run plain actions) (machine.run mixed inserted) := by
  induction more generalizing plain with
  | done => exact beside
  | event untracked own _ ih => exact ih (beside.event untracked own)
  | chance job there own alone _ ih =>
    obtain ⟨before, after, split, rfl⟩ := Machine.split_at_place there
    exact ih (beside.chance split own alone)
  | withdrawn job there own _ ih =>
    obtain ⟨before, after, split, rfl⟩ := Machine.split_at_place there
    exact ih (beside.withdrawn split own)
  | start alike other _ ih => exact ih (beside.start alike other)
  | poll there _ ih => exact ih (beside.poll there)
  | cancel there _ ih => exact ih (beside.cancel there)
  | documents same _ ih => exact ih (beside.documents same)
  | move _ ih => exact ih (beside.move _)

end Beside

/-! ## Nothing else is changed -/

/-- What a run shows into which documents were inserted, next to the run without: the engine has the
same calls and is asked the same, activations have the same lanes, barriers and handles, diagnostics
with their events are the same, and so are gates, providers and listeners.  The other calls come to
the same results in the same order or wait at the same places, but that open documents still to be
sent may be untracked.  And the calls about untracked documents go through: those that have finished
have done so without failure, and the next chance of another finishes it so, unless it waits at the
barrier of an activation for which some call still sends the open documents. -/
structure Invisible (filter : DocumentFilter) (left : Nat → Bool)
    (plain mixed : Work World Call CallResult) : Prop where
  engine : mixed.state.env.engine = plain.state.env.engine
  activations : mixed.state.activations = plain.state.activations
  live : mixed.state.live = plain.state.live
  diagnostics : mixed.state.env.collections = plain.state.env.collections
  gates : mixed.state.env.gates = plain.state.env.gates
  providers : mixed.state.env.ledger = plain.state.env.ledger
  handles : mixed.state.env.handles = plain.state.env.handles
  listeners : mixed.state.env.bus = plain.state.env.bus
  jobs : ((kept left mixed.jobs).map (Job.among left)).map (Job.sifted filter) =
    plain.jobs.map (Job.sifted filter)
  results : plain.results = resultsAmong left mixed.results
  passed : ∀ entry ∈ mixed.results, left entry.1 = true → entry.2.Passed
  passes : ∀ job ∈ mixed.jobs, left job.number = true → mixed.state.Alone job.call →
    (∃ result, (mixed.state.poll job.call).2 = .finished result ∧ result.Passed) ∨
      ∃ event id waiting, (mixed.state.poll job.call).2 =
          .pending (.publish (.delivering ⟨event, some (.activation id .arriving), waiting⟩)) ∧
        ∃ other ∈ mixed.calls, other.replaying? = some id

/-- Runs start beside each other in worlds that differ in untracked documents only. -/
theorem Sifts.beside {filter : DocumentFilter} {world world' : World} (left : Nat → Bool)
    (sifts : Sifts filter world world') (linked : Linked world [])
    (filters : Filters filter world) :
    Beside filter left (.idle world') (.idle world) where
  sifts := sifts
  jobs := rfl
  started := rfl
  results := rfl
  passing _ mem := absurd mem List.not_mem_nil
  passed _ mem := absurd mem List.not_mem_nil
  linked := linked
  filters := filters
  sound := sifts.sound linked.sound

theorem Beside.invisible {filter : DocumentFilter} {left : Nat → Bool}
    {plain mixed : Work World Call CallResult} (beside : Beside filter left plain mixed) :
    Invisible filter left plain mixed where
  engine := congrArg (·.env.engine) beside.sifts.bare
  activations := congrArg (·.activations) beside.sifts.bare
  live := congrArg (·.live) beside.sifts.bare
  diagnostics := congrArg (·.env.collections) beside.sifts.bare
  gates := congrArg (·.env.gates) beside.sifts.bare
  providers := congrArg (·.env.ledger) beside.sifts.bare
  handles := congrArg (·.env.handles) beside.sifts.bare
  listeners := congrArg (·.env.bus) beside.sifts.bare
  jobs := beside.jobs
  results := beside.results
  passed := beside.passed
  passes job hj own alone := by
    obtain ⟨before, after, split⟩ := List.append_of_mem hj
    have first := linked_tells.keeps.at_place beside.linked split
    obtain ⟨-, lets⟩ := (beside.passing job hj own).poll first.sound beside.filters alone
    revert lets
    cases (mixed.state.poll job.call).2 with
    | finished result => exact fun lets => .inl ⟨result, rfl, lets.passed⟩
    | pending call =>
      intro lets
      cases lets with
      | @waits event id waiting closed lt passes =>
        -- a barrier is closed only as long as some call sends the open documents
        exact .inr ⟨event, id, waiting, rfl, beside.linked.manned id lt closed⟩

end World

/-- **Untracked documents are invisible.**  Whatever a run does, and wherever calls about documents
that are not tracked and open documents that are not are inserted into it: nothing else is changed,
and these calls go through. -/
theorem untracked_invisible (outset : Outset) (ledger : Ledger) (docs : List Document)
    (left : Nat → Bool) (actions inserted : List (Action WorldRequest WorldMove)) :
    let filter : DocumentFilter := ⟨outset.language⟩
    let host := outset.host ledger
    let host' := { outset with documents := docs }.host ledger
    docs.filter filter.tracks = outset.documents.filter filter.tracks →
      World.Inserted filter left host' actions inserted →
        World.Invisible filter left (World.machine.run host actions)
          (World.machine.run host' inserted) := by
  intro filter host host' same more
  have linked : World.Linked host'.state [] :=
    World.linked_run { outset with documents := docs } ledger []
  have sifts : World.Sifts filter host'.state host.state := ⟨rfl, same, rfl⟩
  have filters : World.Filters filter host'.state :=
    ⟨rfl, fun _ lt => absurd lt (Nat.not_lt_zero _)⟩
  have start : World.Beside filter left host host' := sifts.beside left linked filters
  exact (World.Beside.run more start).invisible

/-- A notebook cell with the URI of a tracked document is open, and its closing is published while
the text of the document is held back: it waits for the text, goes through behind a later change,
and the engine is told of neither. -/
theorem untracked_invisible_cell :
    let doc (version : Int) (text : String) : Document :=
      ⟨⟨"file:///a.qs"⟩, "qsharp", version, text, false⟩
    let cell : Document := { doc 1 "cell" with notebookCell := true }
    let outset : Outset := ⟨⟨false, false, false⟩, ⟨false, false, false, []⟩, ["file:///a.qs@1"],
      ⟨.directory [("engine.wasm", .file [0])]⟩, .memory .standard, [doc 1 "old"], "qsharp",
      "engine.wasm"⟩
    let docs := [cell, doc 1 "old"]
    let left (number : Nat) : Bool := number == 1
    let actions : List (Action WorldRequest WorldMove) := [.start (.activate "a"), .poll 0,
      .start (.publish (.changed (doc 2 "new"))), .poll 1, .move (.release "file:///a.qs@1"),
      .poll 0, .poll 0]
    let inserted : List (Action WorldRequest WorldMove) := [.start (.activate "a"), .poll 0,
      .start (.publish (.closed cell)), .poll 1, .start (.publish (.changed (doc 2 "new"))),
      .poll 2, .move (.release "file:///a.qs@1"), .poll 0, .poll 1, .poll 0]
    let plain := World.machine.run (outset.host ⟨[], []⟩) actions
    let host := { outset with documents := docs }.host ⟨[], []⟩
    let mixed := World.machine.run host inserted
    docs.filter (DocumentFilter.mk outset.language).tracks =
        outset.documents.filter (DocumentFilter.mk outset.language).tracks ∧
      World.Inserted ⟨outset.language⟩ left host actions inserted ∧
      mixed.state.env.engine.calls = plain.state.env.engine.calls ∧
      plain.results = [(0, .active), (1, .delivered)] ∧
      mixed.results = [(0, .active), (2, .delivered), (1, .delivered)] ∧
      resultsAmong left mixed.results = plain.results := by
  intro doc cell outset docs left actions inserted plain host mixed
  have same : docs.filter (DocumentFilter.mk outset.language).tracks =
      outset.documents.filter (DocumentFilter.mk outset.language).tracks := by decide +kernel
  have more : World.Inserted ⟨outset.language⟩ left host actions inserted := by
    refine .start rfl (fun _ => by decide +kernel) ?_
    refine .poll ⟨by decide +kernel, by decide +kernel⟩ ?_
    refine .event (by decide +kernel) (fun _ => by decide +kernel) ?_
    refine .chance ⟨1, .publish (.arriving (.closed cell))⟩ (by decide +kernel) rfl
      (by unfold World.Alone; decide +kernel) ?_
    refine .start rfl (fun _ => by decide +kernel) ?_
    refine .poll ⟨by decide +kernel, by decide +kernel⟩ ?_
    refine .move ?_
    refine .poll ⟨by decide +kernel, by decide +kernel⟩ ?_
    refine .poll ⟨by decide +kernel, by decide +kernel⟩ ?_
    refine .chance ⟨1, .publish (.delivering
      ⟨.closed cell, some (.activation 0 .arriving), []⟩)⟩ (by decide +kernel) rfl
      (by unfold World.Alone; decide +kernel) ?_
    exact .done _
  have invisible : World.Invisible ⟨outset.language⟩ left plain mixed :=
    untracked_invisible outset ⟨[], []⟩ docs left actions inserted same more
  have engine : mixed.state.env.engine = plain.state.env.engine := invisible.engine
  have results : resultsAmong left mixed.results = plain.results := invisible.results.symm
  have own : plain.results = [(0, .active), (1, .delivered)] := by decide +kernel
  have all : mixed.results = [(0, .active), (2, .delivered), (1, .delivered)] := by decide +kernel
  have calls : mixed.state.env.engine.calls = plain.state.env.engine.calls := by rw [engine]
  exact ⟨same, more, calls, own, all, results⟩

end EngineSync
