import Mathlib.Algebra.Order.Ring.Int
import Mathlib.Data.List.Induction
import EngineSync.Proofs.Leftovers
import EngineSync.Proofs.Silence

/-!
# A clean start

Once every activation has ended and no call is under way, whatever follows goes as it would go in a
world in which nothing happened before (`clean_start`).  What was there before is a past that the
world stands behind: `World.AtRest.past` collects it, and a run takes it along.
-/
namespace EngineSync

/-! ## A world in which nothing happened yet -/

/-- Listeners subscribe one after another, to what they had subscribed to. -/
def EventBus.joined {α : Type} (bus : EventBus α) (subs : List (Subscription α)) : EventBus α :=
  subs.foldl (fun bus sub => (bus.subscribe sub.kind sub.listener).1) bus

theorem EventBus.joined_empty {α : Type} (subs : List (Subscription α)) :
    empty.joined subs =
      ⟨subs.length, subs.zipIdx.map fun place => ⟨place.2, place.1.kind, place.1.listener⟩⟩ := by
  induction subs using List.reverseRecOn with
  | nil => rfl
  | append_singleton subs sub ih =>
    have last : empty.joined (subs ++ [sub]) =
        ((empty.joined subs).subscribe sub.kind sub.listener).1 := List.foldl_append
    rw [last, ih]
    simp [subscribe, List.zipIdx_append]

namespace World

/-- Those who listen from outside. -/
def strangers (world : World) : List (Subscription Listener) :=
  world.env.bus.subscriptions.filter (·.listener.activation? = none)

/-- An answer to a call from outside that comes after so many others, and its number among those
that come then. -/
def answerAfter (outside : Nat) (answer : Nat × Except EngineFailure Unit) :
    Option (Nat × Except EngineFailure Unit) :=
  if outside ≤ answer.1 then some (answer.1 - outside, answer.2) else none

/-- The world in which nothing happened yet, in the surroundings that are there now: the engine
refuses and answers what it would, files, settings and open documents are as they are, and the same
others listen. -/
def afresh (world : World) : World :=
  let engine := Engine.initial world.env.engine.defects world.env.engine.refusals
    world.env.engine.gated
  let env := Environment.initial { engine with permits := world.env.engine.permits } world.env.files
    world.env.source world.env.openDocuments
  { World.initial { env with bus := EventBus.empty.joined world.strangers } world.language
      world.modulePath with
    outsideAnswers := world.outsideAnswers.filterMap (answerAfter world.outsideCalls) }

/-- The number that a subscription of the world afresh has: others keep theirs, and new ones are
counted on. -/
def seat (world : World) (number : Nat) : Nat :=
  match world.env.bus.subscriptions[number]? with
  | some sub => sub.id
  | none => world.env.bus.nextId + (number - world.env.bus.subscriptions.length)

namespace AtRest
variable {world : World}

theorem seat_injective (h : AtRest world) : world.seat.Injective := by
  intro one other same
  have given (number : Nat) {sub : Subscription Listener}
      (found : world.env.bus.subscriptions[number]? = some sub) : sub.id < world.env.bus.nextId :=
    h.given sub (List.mem_of_getElem? found)
  unfold seat at same
  -- a seat is taken, and has the number of who sits there, or it is to come, and its number is too
  cases first : world.env.bus.subscriptions[one]? with
  | none =>
    have beyond := List.getElem?_eq_none_iff.mp first
    cases second : world.env.bus.subscriptions[other]? with
    | none =>
      have beyond' := List.getElem?_eq_none_iff.mp second
      simp only [first, second] at same
      omega
    | some sub =>
      simp only [first, second] at same
      exact absurd (same ▸ given other second) (Nat.not_lt.mpr (Nat.le_add_right _ _))
  | some sub =>
    cases second : world.env.bus.subscriptions[other]? with
    | none =>
      simp only [first, second] at same
      exact absurd (same ▸ given one first) (Nat.not_lt.mpr (Nat.le_add_right _ _))
    | some sub' =>
      simp only [first, second] at same
      have there : one < (world.env.bus.subscriptions.map (·.id)).length := by
        simpa using (List.getElem?_eq_some_iff.mp first).1
      exact (List.getElem?_inj there h.numbers).mp
        (by simp only [List.getElem?_map, first, second, Option.map_some, same])

theorem seat_succ (world : World) (number : Nat)
    (le : world.env.bus.subscriptions.length ≤ number) :
    world.seat (number + 1) = world.seat number + 1 := by
  unfold seat
  rw [List.getElem?_eq_none le, List.getElem?_eq_none (Nat.le_succ_of_le le)]
  dsimp only
  omega

/-- What was there before. -/
def past (h : AtRest world) : Past where
  calls := world.env.engine.calls
  completed := world.env.engine.completed
  tickets := world.env.engine.nextTicket
  sessions := world.env.engine.sessions
  handles := world.env.handles.all
  gates := world.env.gates
  collections := world.env.collections
  ledger := world.env.ledger
  journal := world.env.journal
  activations := world.activations
  outsideCalls := world.outsideCalls
  answers answers := world.outsideAnswers ++
    (answers.drop world.afresh.outsideAnswers.length).map fun answer =>
      (world.outsideCalls + answer.1, answer.2)
  documents := id
  seats := world.env.bus.subscriptions.length
  number := world.seat
  number_injective := h.seat_injective
  number_succ := seat_succ world

theorem shift_session (h : AtRest world) :
    h.past.shift.session = world.env.engine.sessions.length := rfl

theorem strangers_eq (h : AtRest world) : world.strangers = world.env.bus.subscriptions := by
  refine List.filter_eq_self.mpr fun sub hs => ?_
  obtain ⟨number, listener⟩ := h.outside sub hs
  rw [listener]
  rfl

/-- The others listen as before, and whoever comes next gets the next number. -/
theorem past_bus (h : AtRest world) : h.past.bus world.afresh.env.bus = world.env.bus := by
  have joined : world.afresh.env.bus = EventBus.empty.joined world.env.bus.subscriptions :=
    congrArg EventBus.empty.joined h.strangers_eq
  rw [joined, EventBus.joined_empty, Past.bus]
  refine EventBus.mk.injEq .. |>.mpr ⟨?_, ?_⟩
  · show world.seat world.env.bus.subscriptions.length = _
    rw [seat, List.getElem?_eq_none (Nat.le_refl _), Nat.sub_self, Nat.add_zero]
  · refine List.ext_getElem? fun place => ?_
    simp only [List.getElem?_map, List.getElem?_zipIdx]
    cases found : world.env.bus.subscriptions[place]? with
    | none => rfl
    | some sub =>
      obtain ⟨number, listener⟩ := h.outside sub (List.mem_of_getElem? found)
      have seat : world.seat place = sub.id := by rw [World.seat, found]
      rcases sub with ⟨id, kind, other⟩
      cases listener
      simp [Shift.subscription, Past.shift, past, Shift.listener, seat]

/-- The engine goes on from the calls that it has recorded, and no request is under way. -/
theorem past_engine (h : AtRest world) :
    h.past.engine world.afresh.env.engine = world.env.engine := by
  have engine :
      h.past.engine world.afresh.env.engine = { world.env.engine with tickets := [] } := by
    simp [Past.engine, past, afresh, Engine.initial, Past.shift, World.initial, Environment.initial]
  rw [engine, ← h.idle]

/-- **A world at rest is the world afresh behind its past.** -/
theorem past_world (h : AtRest world) : h.past.world world.afresh = world := by
  have same : h.past.world world.afresh = { world with live := [] } := by
    rw [Past.world, Past.environment, h.past_bus, h.past_engine]
    simp [past, afresh, World.initial, Environment.initial, Past.table, Past.ledgerAfter,
      Past.shift, Handles.empty, Ledger.empty]
  rw [same, ← h.live]

end AtRest

/-! ## It is sound -/

/-- Somebody outside listens. -/
theorem Sound.listened {world : World} {calls : List Call} (h : Sound world calls)
    (kind : EventKind) (number : Nat) :
    Sound { world with env.bus := (world.env.bus.subscribe kind (.outside number)).1 } calls := by
  have edits : Environment.Edits (.listener (.outside number)) world.env
      { world.env with bus := (world.env.bus.subscribe kind (.outside number)).1 } :=
    .single (.subscribe kind rfl)
  obtain ⟨audience, -, -, -, -⟩ := calm_subscribe world kind number
  refine ⟨h.owned.evolve edits (fun _ taken => taken) fun session names => ?_,
    h.orderly.calm ⟨audience, rfl, fun _ => rfl, fun _ => rfl, rfl⟩⟩
  rcases names with no | ⟨kind, no⟩ <;> cases no

theorem Sound.joined {world : World} {calls : List Call} (h : Sound world calls)
    {subs : List (Subscription Listener)}
    (outside : ∀ sub ∈ subs, ∃ number, sub.listener = .outside number) :
    Sound { world with env.bus := world.env.bus.joined subs } calls := by
  induction subs generalizing world with
  | nil => exact h
  | cons sub subs ih =>
    obtain ⟨number, listener⟩ := outside sub List.mem_cons_self
    have first := h.listened sub.kind number
    rw [← listener] at first
    exact ih first fun sub hs => outside sub (List.mem_cons_of_mem _ hs)

theorem mem_strangers {world : World} {sub : Subscription Listener} (hs : sub ∈ world.strangers) :
    ∃ number, sub.listener = .outside number := by
  have stranger := of_decide_eq_true (List.mem_filter.mp hs).2
  cases listener : sub.listener with
  | activation id =>
    rw [listener] at stranger
    cases stranger
  | outside number => exact ⟨number, rfl⟩

theorem sound_afresh (world : World) : Sound world.afresh [] := by
  let outset : Outset := ⟨world.env.engine.defects, world.env.engine.refusals,
    world.env.engine.gated, world.env.files, world.env.source, world.env.openDocuments,
    world.language, world.modulePath⟩
  have answered : Sound { outset.work.state with
      env.engine.permits := world.env.engine.permits } [] :=
    (Sound.initial outset).plain (.single (.engine rfl rfl (List.Sublist.refl _)))
  have heard : Sound { outset.work.state with
      env.engine.permits := world.env.engine.permits
      env.bus := EventBus.empty.joined world.strangers } [] :=
    answered.joined fun sub hs => mem_strangers hs
  exact heard.alike rfl rfl rfl

/-! ## It goes on -/

/-- A world goes on: it is sound, numbers that were given to subscriptions stay given, and answers
that were heard stay heard. -/
structure GoesOn (seats : Nat) (answers : List (Nat × Except EngineFailure Unit)) (world : World)
    (calls : List Call) : Prop where
  sound : Sound world calls
  seats : seats ≤ world.env.bus.nextId
  answers : answers <+: world.outsideAnswers

theorem goesOn_tells (seats : Nat) (answers : List (Nat × Except EngineFailure Unit)) :
    Tells fun world calls _ => GoesOn seats answers world calls where
  tidy h := h.sound.tidy
  perm hp h := { h with sound := h.sound.perm hp }
  accept h accepted := { h with sound := h.sound.accepts accepted }
  hop h hop :=
    { sound := h.sound.hop hop
      seats := Nat.le_trans h.seats (Environment.Edits.evolves (h.sound.sessions_hop hop)).nextId
      answers := (hosted_hop hop).answers.symm ▸ h.answers }
  cancel h :=
    { sound := h.sound.cancels
      seats := Nat.le_trans h.seats (Environment.Edits.evolves h.sound.sessions_cancel).nextId
      answers := (hosted_cancel _ _).answers.symm ▸ h.answers }
  surround {world calls history} move h := by
    obtain ⟨env, files, source, docs, edits, moved⟩ :=
      @Sound.sessions_surround world calls (fun _ => True) h.sound (fun _ _ => trivial) move
    refine ⟨h.sound.surrounds move, ?_, h.answers.trans (hosted_surround world move).1⟩
    rw [moved]
    exact Nat.le_trans h.seats (Environment.Edits.evolves edits).nextId

end World

/-! ## Runs -/

/-- How an action reads behind a past. -/
def Shift.action (s : Shift) : Action WorldRequest WorldMove → Action WorldRequest WorldMove
  | .start request => .start (s.request request)
  | .move move => .move (s.move move)
  | .poll place => .poll place
  | .cancel place => .cancel place

namespace Past
variable (p : Past)

/-- The past with other diagnostics: sessions that were there before may still report. -/
def reported (collections : List DiagnosticsCollection) : Past :=
  { p with collections }

theorem shift_reported {collections : List DiagnosticsCollection}
    (length : collections.length = p.collections.length) :
    (p.reported collections).shift = p.shift := by
  simp [shift, reported, length]

theorem world_reported {collections : List DiagnosticsCollection}
    (length : collections.length = p.collections.length) (world : World) :
    (p.reported collections).world world =
      { p.world world with env.collections := collections ++ world.env.collections } := by
  simp only [Past.world, Past.environment, Past.engine, Past.table, Past.bus, Past.ledgerAfter,
    p.shift_reported length]
  rfl

/-- A report that goes to a session of the past reaches nobody else. -/
theorem reports_late {world : World} (none : world.env.engine.sessions = [])
    (sinks : ∀ session ∈ p.sessions, ∀ id ∈ session.sink, id < p.collections.length) (uri : Uri)
    (version : Option Int) (diagnostics : List Diagnostic) :
    ∃ collections, collections.length = p.collections.length ∧
      ((p.world world).surround (.report uri version diagnostics)).silent =
        ((p.reported collections).world
          (world.surround (.report uri version diagnostics))).silent := by
  have nobody : (world.surround (.report uri version diagnostics)) = world := by
    simp [World.surround, Environment.publishDiagnostics, Engine.newestSink, none]
  have newest : (p.world world).env.engine.newestSink = p.sessions.getLast?.bind (·.sink) := by
    simp [Past.world, Past.environment, Past.engine, Engine.newestSink, none]
  rw [nobody, World.surround, Environment.publishDiagnostics, newest]
  cases sink : p.sessions.getLast?.bind (·.sink) with
  | none => exact ⟨p.collections, rfl, rfl⟩
  | some id =>
    obtain ⟨session, last, own⟩ := Option.bind_eq_some_iff.mp sink
    have lt := sinks session (List.mem_of_getLast? last) id own
    let published := (((p.world world).env.collection id).publish uri version diagnostics).1
    have set : (p.world world).env.collections.set id published =
        p.collections.set id published ++ world.env.collections := List.set_append_left _ _ lt
    refine ⟨p.collections.set id published, List.length_set .., ?_⟩
    rw [p.world_reported (List.length_set ..), ← set]
    rfl

end Past

/-- How a call under way reads behind a past in which so many were started. -/
def Shift.job (s : Shift) (started : Nat) (job : Job Call) : Job Call :=
  ⟨started + job.number, s.call job.call⟩

/-- How a result reads after so many calls. -/
def resultAfter (started : Nat) (entry : Nat × CallResult) : Nat × CallResult :=
  (started + entry.1, entry.2)

namespace World

/-- Nobody reads the journal to accept a call. -/
theorem silent_accept (world : World) (request : WorldRequest) :
    world.silent.accept request = world.accept request := by
  cases request <;> rfl

namespace AtRest
variable {world : World} (rest : AtRest world) {before later fresh : Work World Call CallResult}
  {collections : List DiagnosticsCollection}

/-- A run goes behind the past as another goes in the world afresh: the calls under way are the
same, each in the same state, and so are the results since then. -/
structure Follows (before later fresh : Work World Call CallResult) : Prop where
  state : ∃ collections, collections.length = rest.past.collections.length ∧
    later.state.silent = ((rest.past.reported collections).world fresh.state).silent
  jobs : later.jobs = fresh.jobs.map (rest.past.shift.job before.started)
  started : later.started = before.started + fresh.started
  results : later.results = before.results ++ fresh.results.map (resultAfter before.started)
  sound : Sound later.state later.calls
  fresh : GoesOn world.env.bus.subscriptions.length world.afresh.outsideAnswers fresh.state
    fresh.calls

theorem lookup_shifted (answers : List (Nat × Except EngineFailure Unit)) (outside call : Nat) :
    (answers.map fun answer => (outside + answer.1, answer.2)).lookup (outside + call) =
      answers.lookup call := by
  induction answers with
  | nil => rfl
  | cons answer answers ih =>
    rw [List.map_cons, List.lookup_cons, List.lookup_cons, ih]
    have same : (outside + call == outside + answer.1) = (call == answer.1) := by
      rw [Bool.eq_iff_iff, beq_iff_eq, beq_iff_eq, Nat.add_left_cancel_iff]
    rw [same]

theorem lookup_after (answers : List (Nat × Except EngineFailure Unit)) (outside call : Nat) :
    answers.lookup (outside + call) = (answers.filterMap (answerAfter outside)).lookup call := by
  induction answers with
  | nil => rfl
  | cons answer answers ih =>
    rw [List.lookup_cons, ih]
    by_cases new : outside ≤ answer.1
    · have later : answerAfter outside answer = some (answer.1 - outside, answer.2) := if_pos new
      have same : (outside + call == answer.1) = (call == answer.1 - outside) := by
        rw [Bool.eq_iff_iff, beq_iff_eq, beq_iff_eq]
        omega
      rw [List.filterMap_cons_some later, List.lookup_cons, same]
    · have earlier : answerAfter outside answer = none := if_neg new
      have other : (outside + call == answer.1) = false := by
        rw [beq_eq_false_iff_ne]
        omega
      rw [List.filterMap_cons_none earlier, other]

/-- What others answer is heard as before. -/
theorem hears {state : World} (answers : world.afresh.outsideAnswers <+: state.outsideAnswers) :
    (rest.past.reported collections).Hears state := by
  obtain ⟨more, split⟩ := answers
  intro call
  show List.lookup (world.outsideCalls + call) (world.outsideAnswers ++
    (state.outsideAnswers.drop world.afresh.outsideAnswers.length).map _) = _
  rw [← split, List.drop_left, List.lookup_append, List.lookup_append, lookup_shifted, lookup_after]
  rfl

/-- No move but a report can tell that there is a past. -/
theorem admits {state : World} (answers : world.afresh.outsideAnswers <+: state.outsideAnswers)
    {move : WorldMove} (up : move.isReport = true → state.env.engine.sessions ≠ []) :
    (rest.past.reported collections).Admits state move := by
  cases move with
  | report uri version diagnostics => exact fun none => absurd none (up rfl)
  | answer call result =>
    show world.outsideAnswers ++
      List.map _ (List.drop _ (state.outsideAnswers ++ [(call, result)])) = _ ++ _
    rw [List.drop_append_of_le_length answers.length_le, List.map_append, ← List.append_assoc]
    rfl
  | documents docs => rfl
  | _ => trivial

namespace Follows
variable {rest : AtRest world} (follows : rest.Follows before later fresh)
include follows

/-- What is said of the shared state of both runs. -/
theorem silently : ∃ collections, collections.length = rest.past.collections.length ∧
    (rest.past.reported collections).shift = rest.past.shift ∧
    later.state.silent = ((rest.past.reported collections).world fresh.state).silent ∧
    Sound ((rest.past.reported collections).world fresh.state) later.calls := by
  obtain ⟨collections, length, same⟩ := follows.state
  exact ⟨collections, length, rest.past.shift_reported length, same,
    .of_silent same.symm follows.sound⟩

/-- A chance goes as far in both runs. -/
theorem chance {call : Call} {others : List Call} (sound_fresh : Sound fresh.state (call :: others))
    {others' : List Call} (sound : Sound later.state (rest.past.shift.call call :: others')) :
    (later.state.poll (rest.past.shift.call call)).2 =
        (fresh.state.poll call).2.map rest.past.shift.call id ∧
      ∃ collections, collections.length = rest.past.collections.length ∧
        (later.state.poll (rest.past.shift.call call)).1.silent =
          ((rest.past.reported collections).world (fresh.state.poll call).1).silent := by
  obtain ⟨collections, length, shift, same, -⟩ := follows.silently
  have behind := Sound.of_silent same.symm sound
  have polled := (rest.past.reported collections).world_poll fresh.state
    (rest.hears follows.fresh.answers) follows.fresh.seats call (fun _ _ _ _ => rfl) sound_fresh
  rw [shift] at polled
  obtain ⟨result, state⟩ := silent_poll sound
  obtain ⟨result', state'⟩ := silent_poll behind
  rw [same, ← result', polled] at result
  rw [same, ← state', polled] at state
  exact ⟨result, collections, length, state⟩

/-- A call that is given up is given up in both runs. -/
theorem given_up {call : Call} {others others' : List Call}
    (sound_fresh : Sound fresh.state (call :: others))
    (sound : Sound later.state (rest.past.shift.call call :: others')) :
    ∃ collections, collections.length = rest.past.collections.length ∧
      (later.state.cancel (rest.past.shift.call call)).silent =
        ((rest.past.reported collections).world (fresh.state.cancel call)).silent := by
  obtain ⟨collections, length, shift, same, -⟩ := follows.silently
  have behind := Sound.of_silent same.symm sound
  have cancelled := (rest.past.reported collections).world_cancel fresh.state call sound_fresh
  rw [shift] at cancelled
  refine ⟨collections, length, ?_⟩
  rw [silent_cancel sound, same, ← silent_cancel behind, cancelled]

/-- A request is accepted in both runs or in none. -/
theorem accepts (request : WorldRequest) :
    later.state.accept (rest.past.shift.request request) =
      (fresh.state.accept request).map rest.past.shift.call := by
  obtain ⟨collections, length, shift, same, -⟩ := follows.silently
  rw [← silent_accept, same, silent_accept, ← shift, Past.world_accept]

/-- The surroundings move both worlds alike; a report may still go to a session that was there
before. -/
theorem moved (move : WorldMove) :
    ∃ collections, collections.length = rest.past.collections.length ∧
      (later.state.surround (rest.past.shift.move move)).silent =
        ((rest.past.reported collections).world (fresh.state.surround move)).silent := by
  obtain ⟨collections, length, shift, same, behind⟩ := follows.silently
  rw [silent_surround follows.sound, same, ← silent_surround behind]
  by_cases up : move.isReport = true → fresh.state.env.engine.sessions ≠ []
  · have moves := (rest.past.reported collections).world_surround fresh.state
      follows.fresh.seats follows.fresh.sound move (rest.admits follows.fresh.answers up)
    rw [shift] at moves
    exact ⟨collections, length, congrArg World.silent moves⟩
  · -- nobody has come since, and the newest session is one of the past
    cases move with
    | report uri version diagnostics =>
      have none : fresh.state.env.engine.sessions = [] := by simpa [WorldMove.isReport] using up
      obtain ⟨collections', length', late⟩ := (rest.past.reported collections).reports_late none
        (fun session hs id hid => length.symm ▸ rest.sinks session hs id hid) uri version
        diagnostics
      exact ⟨collections', length'.trans length, late⟩
    | _ => exact absurd nofun up

/-- **An action does the same in both runs.** -/
theorem perform (action : Action WorldRequest WorldMove) :
    rest.Follows before (machine.perform later (rest.past.shift.action action))
      (machine.perform fresh action) := by
  have goesOn := (goesOn_tells _ _).keeps.perform follows.fresh action
  have sound := Sound.tells.keeps.perform follows.sound (rest.past.shift.action action)
  -- the two runs have their calls at the same places, so an action finds the same call in both
  let shifted := rest.past.shift.job before.started
  have there (place : Nat) : later.jobs[place]? = (fresh.jobs[place]?).map shifted := by
    rw [follows.jobs, List.getElem?_map]
  have splits {first last : List (Job Call)} {job : Job Call}
      (split : fresh.jobs = first ++ job :: last) :
      later.jobs = first.map shifted ++ shifted job :: last.map shifted := by
    rw [follows.jobs, split, List.map_append, List.map_cons]
  cases action with
  | start request =>
    have accepts := follows.accepts request
    cases accepted : fresh.state.accept request with
    | none =>
      rw [accepted] at accepts
      have idle : machine.perform fresh (.start request) = fresh :=
        Machine.perform_start_none accepted
      rw [Shift.action, idle, Machine.perform_start_none accepts]
      exact follows
    | some call =>
      rw [accepted] at accepts
      have started : machine.perform fresh (.start request) = _ := Machine.perform_start accepted
      rw [started] at goesOn
      rw [Shift.action, Machine.perform_start accepts] at sound
      rw [started, Shift.action, Machine.perform_start accepts]
      exact {
        state := follows.state
        jobs := by simp [follows.jobs, follows.started, Shift.job]
        started := congrArg (· + 1) follows.started
        results := follows.results
        sound := sound
        fresh := goesOn }
  | poll place =>
    cases at_place : fresh.jobs[place]? with
    | none =>
      have idle : machine.perform fresh (.poll place) = fresh := Machine.perform_poll_none at_place
      have nobody : later.jobs[place]? = none := by rw [there, at_place, Option.map_none]
      rw [Shift.action, idle, Machine.perform_poll_none nobody]
      exact follows
    | some job =>
      obtain ⟨first, last, split, rfl⟩ := Machine.split_at_place at_place
      obtain ⟨result, state⟩ := follows.chance
        ((goesOn_tells _ _).keeps.at_place follows.fresh split).sound
        (Sound.tells.keeps.at_place follows.sound (splits split))
      have polled := Machine.perform_poll (m := machine) (splits split)
      have polled' := Machine.perform_poll (m := machine) split
      rw [List.length_map] at polled
      rw [polled'] at goesOn
      rw [Shift.action, polled] at sound
      rw [polled', Shift.action, polled]
      have outcome : (machine.poll later.state (shifted job).call).2 =
          (machine.poll fresh.state job.call).2.map rest.past.shift.call id := result
      refine {
        state := state
        jobs := ?_
        started := follows.started
        results := ?_
        sound := sound
        fresh := goesOn }
      · rw [outcome, Progress.rest_map]
        simp [shifted, Shift.job]
      · rw [outcome, follows.results]
        cases (machine.poll fresh.state job.call).2 with
        | pending call => rfl
        | finished result => simp [Progress.map, resultAfter, shifted, Shift.job]
  | cancel place =>
    cases at_place : fresh.jobs[place]? with
    | none =>
      have idle : machine.perform fresh (.cancel place) = fresh :=
        Machine.perform_cancel_none at_place
      have nobody : later.jobs[place]? = none := by rw [there, at_place, Option.map_none]
      rw [Shift.action, idle, Machine.perform_cancel_none nobody]
      exact follows
    | some job =>
      obtain ⟨first, last, split, rfl⟩ := Machine.split_at_place at_place
      have state := follows.given_up
        ((goesOn_tells _ _).keeps.at_place follows.fresh split).sound
        (Sound.tells.keeps.at_place follows.sound (splits split))
      have dropped := Machine.perform_cancel (m := machine) (splits split)
      have dropped' := Machine.perform_cancel (m := machine) split
      rw [List.length_map] at dropped
      rw [dropped'] at goesOn
      rw [Shift.action, dropped] at sound
      rw [dropped', Shift.action, dropped]
      exact {
        state := state
        jobs := List.map_append.symm
        started := follows.started
        results := follows.results
        sound := sound
        fresh := goesOn }
  | move move =>
    exact {
      state := follows.moved move
      jobs := follows.jobs
      started := follows.started
      results := follows.results
      sound := sound
      fresh := goesOn }

/-- **A run goes the same in both worlds.** -/
theorem run (actions : List (Action WorldRequest WorldMove)) :
    rest.Follows before (machine.run later (actions.map rest.past.shift.action))
      (machine.run fresh actions) := by
  induction actions generalizing later fresh with
  | nil => exact follows
  | cons action actions ih => exact ih (follows.perform action)

end Follows

/-- When the world is at rest, the run that goes on from it and the run in the world afresh start
together. -/
theorem follows_start {before : Work World Call CallResult} (rest : AtRest before.state)
    (done : before.jobs = []) (sound : Sound before.state before.calls) :
    rest.Follows before before (.idle before.state.afresh) where
  state := ⟨_, rfl, congrArg silent rest.past_world.symm⟩
  jobs := done
  started := rfl
  results := (List.append_nil _).symm
  sound := sound
  fresh := ⟨sound_afresh _, by
    show _ ≤ (EventBus.empty.joined before.state.strangers).nextId
    rw [EventBus.joined_empty, rest.strangers_eq], List.prefix_refl _⟩

end AtRest
end World

/-! ## A later activation -/

/-- What a run shows that goes on from where another has ended, next to a run that starts afresh:
the engine has recorded the same calls and is asked the same, providers come and go alike, the same
diagnostics are there, gates and activations are in the same state, and calls have the same results
and wait at the same places.  Numbers are ahead by what there was before. -/
structure Shift.Repeats (s : Shift) (before later fresh : Work World Call CallResult) : Prop where
  calls : later.state.env.engine.calls =
    before.state.env.engine.calls ++ fresh.state.env.engine.calls.map s.engineCall
  requests : later.state.env.engine.tickets = fresh.state.env.engine.tickets.map s.ticketAt
  changes : later.state.env.ledger.changes =
    before.state.env.ledger.changes ++ fresh.state.env.ledger.changes
  bindings : later.state.env.ledger.bindings =
    before.state.env.ledger.bindings ++ fresh.state.env.ledger.bindings
  diagnostics : later.state.env.collections.drop before.state.env.collections.length =
    fresh.state.env.collections
  gates : later.state.env.gates.drop before.state.env.gates.length =
    fresh.state.env.gates.map s.formattingGate
  activations : later.state.activations.drop before.state.activations.length =
    fresh.state.activations.map s.activationAt
  live : later.state.live = fresh.state.live.map s.entry
  jobs : later.jobs = fresh.jobs.map (s.job before.started)
  results : later.results = before.results ++ fresh.results.map (resultAfter before.started)

theorem World.AtRest.Follows.repeats {before later fresh : Work World Call CallResult}
    {rest : before.state.AtRest} (follows : rest.Follows before later fresh) :
    rest.past.shift.Repeats before later fresh := by
  obtain ⟨collections, length, shift, same, -⟩ := follows.silently
  rw [Past.world_reported _ length] at same
  have engine : later.state.env.engine = rest.past.engine fresh.state.env.engine :=
    congrArg (·.env.engine) same
  have ledger : later.state.env.ledger = rest.past.ledgerAfter fresh.state.env.ledger :=
    congrArg (·.env.ledger) same
  have reports : later.state.env.collections = collections ++ fresh.state.env.collections :=
    congrArg (·.env.collections) same
  have gates : later.state.env.gates = before.state.env.gates ++
      fresh.state.env.gates.map rest.past.shift.formattingGate := congrArg (·.env.gates) same
  have activations : later.state.activations = before.state.activations ++
      fresh.state.activations.map rest.past.shift.activationAt := congrArg World.activations same
  have live : later.state.live = fresh.state.live.map rest.past.shift.entry :=
    congrArg World.live same
  exact {
    calls := congrArg Engine.calls engine
    requests := congrArg Engine.tickets engine
    changes := congrArg Ledger.changes ledger
    bindings := congrArg Ledger.bindings ledger
    diagnostics := by
      rw [reports]
      exact List.drop_left' length
    gates := by
      rw [gates]
      exact List.drop_left
    activations := by
      rw [activations]
      exact List.drop_left
    live := live
    jobs := follows.jobs
    results := follows.results }

/-- **A later activation starts clean.**  Whatever was done on a host before, and however
activations have ended: once no call is under way and nothing is live, every further run goes, step
by step, as it would go on a host and with an engine on which nothing happened before, in the same
surroundings. -/
theorem clean_start (outset : Outset) (ledger : Ledger)
    (past : List (Action WorldRequest WorldMove)) :
    let before := World.machine.run (outset.host ledger) past
    before.jobs = [] → before.state.live = [] →
      ∃ rest : before.state.AtRest, ∀ further : List (Action WorldRequest WorldMove),
        rest.past.shift.Repeats before
          (World.machine.run before (further.map rest.past.shift.action))
          (World.machine.run (.idle before.state.afresh) further) := by
  intro before done none
  have rest := World.atRest_run outset ledger past done none
  have sound := (World.square_run outset ledger past).1
  exact ⟨rest, fun further => ((World.AtRest.follows_start rest done sound).run further).repeats⟩

/-- An activation is deactivated while somebody else listens, and the name is activated again: the
next session hears of the document what the first one heard. -/
theorem clean_start_after_deactivation :
    let outset : Outset := ⟨⟨false, false, false⟩, ⟨false, false, false, []⟩, [],
      ⟨.directory [("engine.wasm", .file [0])]⟩, .memory ⟨.unrestricted, true⟩, [], "qsharp",
      "engine.wasm"⟩
    let document : Document := ⟨⟨"file:///a"⟩, "qsharp", 1, "a", false⟩
    let further : List (Action WorldRequest WorldMove) := [.start (.activate "a"), .poll 0,
      .start (.publish (.opened document)), .poll 0, .move (.answer 0 (.ok ())), .poll 0]
    let past := .move (.listen .documentOpened 7) :: further ++ [.move (.deactivate "a")]
    let before := World.machine.run (outset.host ⟨[], []⟩) past
    before.jobs = [] ∧ before.state.live = [] ∧
      before.results = [(0, .active), (1, .delivered)] ∧ ∃ s : Shift,
        let later := World.machine.run before (further.map s.action)
        later.results = before.results ++ [(2, .active), (3, .delivered)] ∧
        later.state.env.engine.calls = before.state.env.engine.calls ++
          [.load 1, .create 1, .request 1 (.configure .unrestricted),
            .request 1 (.update document.uri 1 "a")] := by
  intro outset document further past before
  have done : before.jobs = [] := by decide +kernel
  have none : before.state.live = [] := by decide +kernel
  obtain ⟨rest, repeats⟩ := clean_start outset ⟨[], []⟩ past done none
  obtain ⟨calls, -, -, -, -, -, -, -, -, results⟩ := repeats further
  refine ⟨done, none, by decide +kernel, rest.past.shift, ?_, ?_⟩
  · have fresh : (World.machine.run (.idle before.state.afresh) further).results =
        [(0, .active), (1, .delivered)] := by decide +kernel
    have started : before.started = 2 := by decide +kernel
    rw [results, fresh, started]
    exact congrArg (before.results ++ ·) rfl
  · have fresh : (World.machine.run (.idle before.state.afresh) further).state.env.engine.calls =
        [.load 1, .create 0, .request 0 (.configure .unrestricted),
          .request 0 (.update document.uri 1 "a")] := by decide +kernel
    have session : rest.past.shift.session = 1 := by
      rw [rest.shift_session]
      decide +kernel
    rw [calls, fresh]
    simp only [List.map_cons, List.map_nil, Shift.engineCall, session, Nat.add_zero, before]

end EngineSync
