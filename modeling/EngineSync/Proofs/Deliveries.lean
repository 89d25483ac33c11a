import EngineSync.EventBus.Hub
import EngineSync.Proofs.Edits
import EngineSync.Proofs.Run

/-!
# Deliveries

A bus at work is a machine: events are published, publications go on or are dropped, and meanwhile
anybody subscribes, disposes handles and comes back from calls.  Listeners that do so while they are
called are no exception, since a call is not over before its listener has come back.  `standing`
tells from the actions alone who is subscribed, and `Delivers` what a publication to such an
audience may have done so far.
-/
namespace EngineSync

/-- What happens beside the publications. -/
inductive HubMove (α ε : Type) where
  | subscribe (kind : EventKind) (listener : α)
  | dispose (handle : HandleId)
  | answer (call : Nat) (result : Except ε Unit)

/-- What can be seen of a publication that has the chance to go on. -/
inductive Deed (α ε : Type) where
  | called (calling : Calling α)
  | returned (calling : Calling α) (result : Except ε Unit)
  | ended (result : Except ε Unit)
deriving DecidableEq

namespace Deed
variable {α ε : Type}

/-- The result of a publication that ended. -/
def result : Deed α ε → List (Except ε Unit)
  | .ended result => [result]
  | .called _ | .returned _ _ => []

/-- The number of a call that was made. -/
def number : Deed α ε → List Nat
  | .called calling => [calling.number]
  | .returned _ _ | .ended _ => []

/-- Calls one after another, each of which came back with success. -/
def rounds (heard : List (Calling α)) : List (Deed α ε) :=
  heard.flatMap fun calling => [.called calling, .returned calling (.ok ())]

theorem rounds_snoc (heard : List (Calling α)) (calling : Calling α) :
    (rounds (heard ++ [calling]) : List (Deed α ε)) =
      rounds heard ++ [.called calling, .returned calling (.ok ())] := by
  simp [rounds]

end Deed

/-- What a publication to an audience may have done so far: it calls one listener after another,
each after the last one came back with success, and ends with the first failure or behind the last
listener. -/
inductive Delivers {α ε : Type} : List (Subscription α) → List (Deed α ε) → Prop
  | waiting (audience) : Delivers audience []
  | done : Delivers [] [.ended (.ok ())]
  | calling (number next rest) : Delivers (next :: rest) [.called ⟨number, next⟩]
  | stopped (number next rest failure) : Delivers (next :: rest)
      [.called ⟨number, next⟩, .returned ⟨number, next⟩ (.error failure), .ended (.error failure)]
  | next (number next) {rest deeds} (later : Delivers rest deeds) : Delivers (next :: rest)
      (.called ⟨number, next⟩ :: .returned ⟨number, next⟩ (.ok ()) :: deeds)

theorem Delivers.heard {α ε : Type} {rest : List (Subscription α)} {deeds : List (Deed α ε)}
    (later : Delivers rest deeds) (heard : List (Calling α)) :
    Delivers (heard.map (·.subscription) ++ rest) (Deed.rounds heard ++ deeds) := by
  induction heard with
  | nil => exact later
  | cons calling heard ih => exact .next calling.number calling.subscription ih

namespace Hub
variable {α ε : Type}

/-- What happens to a bus beside the publications. -/
def move (hub : Hub α ε) : HubMove α ε → Hub α ε
  | .subscribe kind listener => (hub.subscribe kind listener).1
  | .dispose handle => (hub.dispose handle).1
  | .answer call result => hub.answer call result

/-- Publications of a bus. -/
def machine : Machine (Hub α ε) (Publication α) (Except ε Unit) Event (HubMove α ε) where
  poll := poll
  drop hub _ := hub
  accept _ event := some (.arriving event)
  move := move

/-- What a chance of a publication shows: that it called somebody, what the one it had called came
back with, and that it ended. -/
def deeds (hub : Hub α ε) (call : Publication α) : List (Deed α ε) :=
  let progress := (hub.poll call).2
  let calls := match call.calling? with
    | none => (progress.rest.filterMap (·.calling?)).map .called
    | some calling => (hub.answers.lookup calling.number).toList.map (.returned calling)
  calls ++ progress.result.map .ended

/-- A bus that nothing has happened to. -/
def fresh : Work (Hub α ε) (Publication α) (Except ε Unit) :=
  .idle .empty

/-! ## One chance -/

/-- What a chance comes to, by what the publication was about to do. -/
inductive Chance (hub : Hub α ε) : Publication α → List (Deed α ε) → Hub α ε →
    Progress (Publication α) (Except ε Unit) → Prop
  | arriving (event) : Chance hub (.arriving event) []
      hub (.pending (.delivering (hub.bus.deliver event)))
  | done (event) : Chance hub (.delivering ⟨event, none, []⟩) [.ended (.ok ())]
      hub (.finished (.ok ()))
  | next (event next waiting) :
      Chance hub (.delivering ⟨event, none, next :: waiting⟩) [.called ⟨hub.calls, next⟩]
        { hub with calls := hub.calls + 1 }
        (.pending (.delivering ⟨event, some ⟨hub.calls, next⟩, waiting⟩))
  | unanswered {event calling waiting} (none : hub.answers.lookup calling.number = none) :
      Chance hub (.delivering ⟨event, some calling, waiting⟩) []
        hub (.pending (.delivering ⟨event, some calling, waiting⟩))
  | ok {event calling waiting} (answered : hub.answers.lookup calling.number = some (.ok ())) :
      Chance hub (.delivering ⟨event, some calling, waiting⟩) [.returned calling (.ok ())]
        hub (.pending (.delivering ⟨event, none, waiting⟩))
  | error {event calling waiting failure}
      (answered : hub.answers.lookup calling.number = some (.error failure)) :
      Chance hub (.delivering ⟨event, some calling, waiting⟩)
        [.returned calling (.error failure), .ended (.error failure)]
        hub (.finished (.error failure))

theorem chance (hub : Hub α ε) (call : Publication α) :
    Chance hub call (hub.deeds call) (hub.poll call).1 (hub.poll call).2 := by
  cases call with
  | arriving event => exact .arriving event
  | delivering delivery =>
    obtain ⟨event, none | calling, waiting⟩ := delivery
    · cases waiting with
      | nil => exact .done event
      | cons next waiting => exact .next event next waiting
    · have shown : hub.deeds (.delivering ⟨event, some calling, waiting⟩) =
          (hub.answers.lookup calling.number).toList.map (.returned calling) ++
            (hub.poll (.delivering ⟨event, some calling, waiting⟩)).2.result.map .ended := rfl
      rcases answer : hub.answers.lookup calling.number with - | failure | ⟨⟨⟩⟩
      · simp only [shown, poll, answer]
        exact .unanswered answer
      · simp only [shown, poll, answer]
        exact .error answer
      · simp only [shown, poll, answer]
        exact .ok answer

variable {hub after : Hub α ε} {call : Publication α} {shown : List (Deed α ε)}
  {progress : Progress (Publication α) (Except ε Unit)}

theorem Chance.frame (h : Chance hub call shown after progress) :
    after.bus = hub.bus ∧ after.handles = hub.handles ∧ after.answers = hub.answers := by
  cases h <;> exact ⟨rfl, rfl, rfl⟩

theorem Chance.result (h : Chance hub call shown after progress) :
    progress.result = shown.flatMap Deed.result := by
  cases h <;> rfl

/-! ## Who is subscribed -/

/-- Handles and subscriptions go by the same numbers, and a subscription stands only as long as its
handle is live. -/
structure Sound (hub : Hub α ε) : Prop where
  counted : hub.handles.all.length = hub.bus.nextId
  own : ∀ {handle label id}, hub.handles.pending? handle = some (label, id) → id = handle
  live : ∀ sub ∈ hub.bus.subscriptions, (hub.handles.pending? sub.id).isSome
  grow : hub.bus.subscriptions.Pairwise (·.id < ·.id)

theorem Sound.empty : (empty : Hub α ε).Sound :=
  ⟨rfl, nofun, nofun, .nil⟩

theorem Sound.id_lt (h : hub.Sound) {sub : Subscription α} (mem : sub ∈ hub.bus.subscriptions) :
    sub.id < hub.bus.nextId := by
  obtain ⟨release, found⟩ := Option.isSome_iff_exists.mp (h.live sub mem)
  exact h.counted ▸ Handles.lt_of_pending? found

theorem Sound.of_frame (h : hub.Sound) (bus : after.bus = hub.bus)
    (handles : after.handles = hub.handles) : after.Sound := by
  obtain ⟨counted, own, live, grow⟩ := h
  rw [← bus, ← handles] at counted
  rw [← handles] at own
  rw [← bus, ← handles] at live
  rw [← bus] at grow
  exact ⟨counted, own, live, grow⟩

theorem Sound.subscribe (h : hub.Sound) (kind : EventKind) (listener : α) :
    (hub.subscribe kind listener).1.Sound where
  counted := by
    have counted := h.counted
    simp [Hub.subscribe, EventBus.subscribe, Handles.add, counted]
  own := by
    intro handle label id pending
    change (hub.handles.add kind.subscriptionLabel hub.bus.nextId).1.pending? handle = _ at pending
    rw [Handles.pending?_add] at pending
    split at pending
    case isTrue same =>
      obtain ⟨-, rfl⟩ := Prod.mk.inj (Option.some.inj pending)
      exact (same.trans h.counted).symm
    case isFalse => exact h.own pending
  live := by
    intro sub mem
    change ((hub.handles.add kind.subscriptionLabel hub.bus.nextId).1.pending? sub.id).isSome
    rw [Handles.pending?_add]
    rcases List.mem_append.mp mem with old | new
    · rw [if_neg (h.counted ▸ Nat.ne_of_lt (h.id_lt old))]
      exact h.live sub old
    · rw [List.mem_singleton.mp new, if_pos h.counted.symm]
      rfl
  grow := by
    refine List.pairwise_append.mpr ⟨h.grow, List.pairwise_singleton _ _, fun sub old sub' new => ?_⟩
    rw [List.mem_singleton.mp new]
    exact h.id_lt old

/-- **A disposal takes away the subscription that its handle was returned for**, and no other. -/
theorem Sound.subscriptions_dispose (h : hub.Sound) (handle : HandleId) :
    (hub.dispose handle).1.bus.subscriptions = hub.bus.subscriptions.filter (·.id ≠ handle) := by
  unfold Hub.dispose
  rcases pending : hub.handles.pending? handle with - | ⟨label, id⟩
  · refine (List.filter_eq_self.mpr fun sub mem => ?_).symm
    have live := h.live sub mem
    refine decide_eq_true fun same => ?_
    rw [same, pending] at live
    cases live
  · obtain rfl := h.own pending
    rfl

theorem Sound.dispose (h : hub.Sound) (handle : HandleId) : (hub.dispose handle).1.Sound := by
  have left := h.subscriptions_dispose handle
  revert left
  unfold Hub.dispose
  rcases pending : hub.handles.pending? handle with - | ⟨label, id⟩
  · exact fun _ => h
  · intro left
    change (hub.bus.unsubscribe id).subscriptions = _ at left
    refine ⟨?_, fun pending' => ?_, fun sub mem => ?_, ?_⟩
    · change (hub.handles.all.modify handle _).length = hub.bus.nextId
      rw [List.length_modify, h.counted]
    · change (hub.handles.retire handle).pending? _ = _ at pending'
      rw [Handles.pending?_retire] at pending'
      split at pending'
      · cases pending'
      · exact h.own pending'
    · change sub ∈ (hub.bus.unsubscribe id).subscriptions at mem
      rw [left, List.mem_filter] at mem
      change ((hub.handles.retire handle).pending? sub.id).isSome
      rw [Handles.pending?_retire, if_neg (of_decide_eq_true mem.2)]
      exact h.live sub mem.1
    · exact h.grow.sublist List.filter_sublist

theorem keeps_sound : (machine (α := α) (ε := ε)).Keeps fun hub _ => hub.Sound where
  perm _ h := h
  accept h _ := h
  poll {hub call _} h :=
    have ⟨bus, handles, _⟩ := (chance hub call).frame
    h.of_frame bus handles
  drop h := h
  move {hub _} way h := by
    cases way with
    | subscribe kind listener => exact h.subscribe kind listener
    | dispose handle => exact h.dispose handle
    | answer number result =>
      refine h.of_frame ?_ ?_ <;> (simp only [machine, move, answer]; split <;> rfl)

/-- Whether an action subscribes somebody. -/
def subscribes : Action Event (HubMove α ε) → Bool
  | .move (.subscribe _ _) => true
  | _ => false

/-- Whether an action disposes a handle. -/
def disposes (handle : HandleId) : Action Event (HubMove α ε) → Bool
  | .move (.dispose other) => other = handle
  | _ => false

/-- The subscriptions that actions make and leave standing, in the order in which they are made and
numbered from a number on: those whose handle is not disposed later. -/
def standing (number : SubscriptionId) : List (Action Event (HubMove α ε)) → List (Subscription α)
  | [] => []
  | .move (.subscribe kind listener) :: rest =>
    [⟨number, kind, listener⟩].filter (fun sub => !rest.any (disposes sub.id)) ++
      standing (number + 1) rest
  | _ :: rest => standing number rest

theorem standing_skip {action : Action Event (HubMove α ε)} (stays : subscribes action = false)
    (number : SubscriptionId) (rest : List (Action Event (HubMove α ε))) :
    standing number (action :: rest) = standing number rest := by
  match action with
  | .start _ | .poll _ | .cancel _ | .move (.dispose _) | .move (.answer _ _) => rfl
  | .move (.subscribe _ _) => cases stays

variable {work : Work (Hub α ε) (Publication α) (Except ε Unit)}

/-- Whoever neither subscribes nor disposes a handle leaves the subscriptions alone. -/
theorem frame_perform {action : Action Event (HubMove α ε)} (stays : subscribes action = false)
    (keeps : ∀ handle, disposes handle action = false) :
    (machine.perform work action).state.bus = work.state.bus ∧
      (machine.perform work action).state.handles = work.state.handles := by
  cases action with
  | start event => exact ⟨rfl, rfl⟩
  | poll place =>
    cases at_place : work.jobs[place]? with
    | none =>
      rw [Machine.perform_poll_none at_place]
      exact ⟨rfl, rfl⟩
    | some job =>
      obtain ⟨before, after, split, rfl⟩ := Machine.split_at_place at_place
      obtain ⟨bus, handles, -⟩ := (chance work.state job.call).frame
      rw [Machine.state_poll split]
      exact ⟨bus, handles⟩
  | cancel place =>
    simp only [Machine.perform]
    split <;> exact ⟨rfl, rfl⟩
  | move way =>
    cases way with
    | subscribe => cases stays
    | dispose handle => simpa [disposes] using keeps handle
    | answer number result =>
      simp only [Machine.perform, machine, move, answer]
      split <;> exact ⟨rfl, rfl⟩

/-- **Who is subscribed after a run**: those who were before, but for those whose handle was
disposed, and behind them those that the run left standing. -/
theorem subscriptions_run (h : work.state.Sound) (actions : List (Action Event (HubMove α ε))) :
    (machine.run work actions).state.bus.subscriptions =
      work.state.bus.subscriptions.filter (fun sub => !actions.any (disposes sub.id)) ++
        standing work.state.bus.nextId actions := by
  induction actions generalizing work with
  | nil => simp [standing]
  | cons action rest ih =>
    have sound : (machine.perform work action).state.Sound := keeps_sound.perform h action
    rw [Machine.run_cons, ih sound]
    by_cases quiet : subscribes action = false ∧ ∀ handle, disposes handle action = false
    · obtain ⟨stays, keeps⟩ := quiet
      rw [(frame_perform stays keeps).1, standing_skip stays]
      simp [keeps]
    · match action with
      | .start _ | .poll _ | .cancel _ | .move (.answer _ _) => exact (quiet ⟨rfl, fun _ => rfl⟩).elim
      | .move (.subscribe kind listener) =>
        have joined : (machine.perform work (.move (.subscribe kind listener))).state.bus =
            ⟨work.state.bus.nextId + 1,
              work.state.bus.subscriptions ++ [⟨work.state.bus.nextId, kind, listener⟩]⟩ := rfl
        rw [joined, List.filter_append, List.append_assoc]
        simp only [List.any_cons, disposes, Bool.false_or, standing]
      | .move (.dispose handle) =>
        have left := h.subscriptions_dispose handle
        have next : (work.state.dispose handle).1.bus.nextId = work.state.bus.nextId := by
          unfold Hub.dispose
          split <;> rfl
        change (work.state.dispose handle).1.bus.subscriptions.filter _ ++
          standing (work.state.dispose handle).1.bus.nextId rest = _
        rw [left, next, List.filter_filter]
        simp [disposes, standing, eq_comm, Bool.and_comm]

/-- Handles are numbered in the order in which listeners subscribed. -/
theorem handles_run (actions : List (Action Event (HubMove α ε))) :
    (machine.run work actions).state.handles.all.length =
      work.state.handles.all.length + actions.countP subscribes := by
  induction actions generalizing work with
  | nil => rfl
  | cons action rest ih =>
    rw [Machine.run_cons, ih, List.countP_cons]
    by_cases quiet : subscribes action = false ∧ ∀ handle, disposes handle action = false
    · obtain ⟨stays, keeps⟩ := quiet
      rw [(frame_perform stays keeps).2, stays]
      rfl
    · match action with
      | .start _ | .poll _ | .cancel _ | .move (.answer _ _) => exact (quiet ⟨rfl, fun _ => rfl⟩).elim
      | .move (.subscribe kind listener) =>
        have joined : (machine.perform work (.move (.subscribe kind listener))).state.handles.all =
            work.state.handles.all ++ [⟨kind.subscriptionLabel, some work.state.bus.nextId⟩] := rfl
        simp only [joined, List.length_append, List.length_singleton, subscribes, if_true]
        omega
      | .move (.dispose handle) =>
        have same : (work.state.dispose handle).1.handles.all.length =
            work.state.handles.all.length := by
          unfold Hub.dispose
          split
          · rfl
          · exact List.length_modify _ _ _
        change (work.state.dispose handle).1.handles.all.length + _ = _
        rw [same]
        rfl

/-! ## What a publication has come to -/

/-- A chronicle of deeds is true to a bus: what listeners came back with stands in it, and calls are
numbered in the order in which they were made. -/
structure Recorded (hub : Hub α ε) (history : List (Deed α ε)) : Prop where
  answered : ∀ calling result, .returned calling result ∈ history →
    hub.answers.lookup calling.number = some result
  numbered : history.flatMap Deed.number = List.range hub.calls

theorem Recorded.chance {history : List (Deed α ε)} (h : hub.Recorded history)
    (chance : Chance hub call shown after progress) : after.Recorded (history ++ shown) := by
  obtain ⟨answered, numbered⟩ := h
  refine ⟨fun calling result mem => ?_, ?_⟩
  · rw [chance.frame.2.2]
    rcases List.mem_append.mp mem with old | new
    · exact answered calling result old
    · cases chance with
      | arriving | unanswered => cases new
      | done | next => simp at new
      | ok answer =>
        simp only [List.mem_singleton, Deed.returned.injEq] at new
        obtain ⟨rfl, rfl⟩ := new
        exact answer
      | error answer =>
        simp only [List.mem_cons, Deed.returned.injEq, reduceCtorEq, List.not_mem_nil,
          or_false] at new
        obtain ⟨rfl, rfl⟩ := new
        exact answer
  · rw [List.flatMap_append, numbered]
    cases chance with
    | next =>
      change List.range hub.calls ++ [hub.calls] = List.range (hub.calls + 1)
      exact List.range_succ.symm
    | arriving | done | unanswered | ok | error => exact List.append_nil _

theorem Recorded.move {history : List (Deed α ε)} (h : hub.Recorded history) (way : HubMove α ε) :
    (hub.move way).Recorded history := by
  cases way with
  | subscribe kind listener => exact ⟨h.answered, h.numbered⟩
  | dispose handle =>
    simp only [Hub.move, Hub.dispose]
    split <;> exact ⟨h.answered, h.numbered⟩
  | answer number result =>
    simp only [Hub.move, Hub.answer]
    split
    · refine ⟨fun calling result' mem => ?_, h.numbered⟩
      simp [List.lookup_append, h.answered calling result' mem]
    · exact h

theorem tells_recorded :
    (machine (α := α) (ε := ε)).Tells deeds fun hub _ history => hub.Recorded history where
  perm _ h := h
  accept h _ := h
  poll {hub call _ _} h := h.chance (chance hub call)
  drop h := h
  move way h := h.move way

/-- A publication under way has called the first listeners of its audience, who came back with
success but for the one that is called now; `Over` is so of the deeds of one that is gone. -/
def Underway (audience : List (Subscription α)) (Over : List (Deed α ε) → Prop) :
    Option (Publication α) → List (Deed α ε) → Prop
  | none, shown => Over shown
  | some (.arriving _), _ => False
  | some (.delivering delivery), shown => ∃ heard,
    audience = heard.map (·.subscription) ++
      (delivery.current.toList.map (·.subscription) ++ delivery.waiting) ∧
    shown = Deed.rounds heard ++ delivery.current.toList.map .called

variable {audience : List (Subscription α)} {Over : List (Deed α ε) → Prop}

/-- What a publication under way has done is part of its course. -/
theorem Underway.delivers (h : Underway audience Over (some call) shown) :
    Delivers audience shown := by
  cases call with
  | arriving => exact h.elim
  | delivering delivery =>
    obtain ⟨event, none | calling, waiting⟩ := delivery
    · obtain ⟨heard, rfl, rfl⟩ := h
      exact (Delivers.waiting waiting).heard heard
    · obtain ⟨heard, rfl, rfl⟩ := h
      exact (Delivers.calling calling.number calling.subscription waiting).heard heard

/-- A chance takes a publication on along its course, to the end of it if it is over. -/
theorem Underway.chance {shown' : List (Deed α ε)}
    (ends : ∀ {front result}, Delivers audience (front ++ [.ended result]) →
      Over (front ++ [.ended result]))
    (h : Underway audience Over (some call) shown)
    (chance : Chance hub call shown' after progress) :
    Underway audience Over progress.rest.head? (shown ++ shown') := by
  cases chance with
  | arriving => exact h.elim
  | done event =>
    obtain ⟨heard, rfl, rfl⟩ := h
    refine ends ?_
    simpa using Delivers.done.heard heard
  | next event next waiting =>
    obtain ⟨heard, rfl, rfl⟩ := h
    exact ⟨heard, rfl, by simp⟩
  | unanswered => simpa using h
  | @ok event calling waiting answer =>
    obtain ⟨heard, rfl, rfl⟩ := h
    refine ⟨heard ++ [calling], by simp, ?_⟩
    simp [Deed.rounds_snoc]
  | @error event calling waiting failure answer =>
    obtain ⟨heard, rfl, rfl⟩ := h
    have whole := (Delivers.stopped calling.number calling.subscription waiting failure).heard heard
    have last : Deed.rounds heard ++ [.called calling] ++
        [.returned calling (.error failure), .ended (.error failure)] =
        (Deed.rounds heard ++ [.called calling, .returned calling (.error failure)]) ++
          [.ended (.error failure)] := by simp
    simp only [Option.toList_some, List.map_singleton]
    rw [last]
    refine ends ?_
    simpa using whole

theorem follows_underway
    (ends : ∀ {front result}, Delivers audience (front ++ [.ended result]) →
      Over (front ++ [.ended result])) :
    (machine (α := α) (ε := ε)).Follows deeds (fun _ _ => True)
      fun _ own shown => Underway audience Over own shown where
  own {hub call _ _} _ h := h.chance ends (chance hub call)
  poll _ h := h
  drop _ h := h
  move _ _ h := h

/-- Whoever shows nothing waits for the listener that was called last. -/
theorem Underway.waits (h : Underway audience Over (some call) shown)
    (quiet : Chance hub call [] after progress) :
    ∃ calling, shown.getLast? = some (.called calling) ∧
      hub.answers.lookup calling.number = none := by
  cases quiet with
  | arriving => exact h.elim
  | @unanswered event calling waiting none =>
    obtain ⟨heard, -, rfl⟩ := h
    exact ⟨calling, by simp, none⟩

/-- A publication of some number has gone this far, as far as it was shown. -/
structure Exact (audience : List (Subscription α)) (number : Nat)
    (work : Work (Hub α ε) (Publication α) (Except ε Unit)) (shown : List (Deed α ε)) : Prop where
  course : Delivers audience shown
  results : work.resultsOf number = shown.flatMap Deed.result
  answered : ∀ calling result, .returned calling result ∈ shown →
    work.state.answers.lookup calling.number = some result
  waits : ∀ call, work.call? number = some call → work.state.deeds call = [] →
    ∃ calling, shown.getLast? = some (.called calling) ∧
      work.state.answers.lookup calling.number = none

section
variable {before later : List (Action Event (HubMove α ε))} {place number : Nat} {event : Event}

/-- What becomes of a publication from its first chance on. -/
theorem underway_run (Over : List (Deed α ε) → Prop)
    (ends : ∀ {front result}, Delivers audience (front ++ [.ended result]) →
      Over (front ++ [.ended result]))
    (later : List (Action Event (HubMove α ε))) (numbered : work.Numbered)
    (found : work.jobs[place]? = some ⟨number, .arriving event⟩)
    (all : work.state.bus.subscribers event.kind = audience)
    (kept : machine.KeepsUp number work (.poll place :: later) ∨
      ∀ {shown}, Delivers audience shown → Over shown) :
    Underway audience Over ((machine.run work (.poll place :: later)).call? number)
      (Machine.notesOf number (machine.chronicle deeds work (.poll place :: later))) := by
  obtain ⟨front, back, split, rfl⟩ := Machine.split_at_place found
  have quiet : Machine.told deeds work (.poll front.length : Action Event (HubMove α ε)) = [] :=
    Machine.told_poll split
  have own := Machine.call?_poll_own (m := machine) numbered split
  have begun : Underway audience Over
      ((machine.perform work (.poll front.length)).call? number) [] := by
    rw [own]
    exact ⟨[], all.symm, rfl⟩
  have given : number < (machine.perform work (.poll front.length)).started :=
    Nat.lt_of_lt_of_le (numbered.given _ (List.mem_of_getElem? found)) (Machine.started_le _ _)
  rw [Machine.run_cons, Machine.chronicle, quiet, List.nil_append]
  have none : Machine.Keeps (machine (α := α) (ε := ε)) fun _ _ => True :=
    ⟨fun _ h => h, fun h _ => h, fun _ => trivial, fun _ => trivial, fun _ _ => trivial⟩
  rcases kept with kept | lost
  · exact (follows_underway ends).run none trivial (Machine.numbered_perform numbered _) given begun
      kept.2
  · exact (follows_underway ends).run_any none (fun _ h => lost h.delivers) trivial
      (Machine.numbered_perform numbered _) given begun later

/-- **A publication goes exactly to those of its kind that are subscribed at its first chance.** -/
theorem exact_run {history : List (Deed α ε)}
    (later : List (Action Event (HubMove α ε))) (numbered : work.Numbered)
    (recorded : work.state.Recorded history) (nothing : work.resultsOf number = [])
    (found : work.jobs[place]? = some ⟨number, .arriving event⟩) :
    Exact (work.state.bus.subscribers event.kind) number (machine.run work (.poll place :: later))
      (Machine.notesOf number (machine.chronicle deeds work (.poll place :: later))) := by
  have way := underway_run (Delivers (work.state.bus.subscribers event.kind)) id later numbered
    found rfl (.inr id)
  refine ⟨?_, ?_, fun calling result mem => ?_, fun call there quiet => ?_⟩
  · cases there : (machine.run work (.poll place :: later)).call? number with
    | none =>
      rw [there] at way
      exact way
    | some call =>
      rw [there] at way
      exact way.delivers
  · have all : (machine.run work (.poll place :: later)).resultsOf number =
        work.resultsOf number ++ (Machine.notesOf number
          (machine.chronicle deeds work (.poll place :: later))).flatMap Deed.result :=
      Machine.resultsOf_run (fun hub call => (chance hub call).result) number _
    rw [nothing] at all
    exact all
  · have recorded := tells_recorded.run recorded (.poll place :: later)
    obtain ⟨entry, there, same⟩ := List.mem_map.mp mem
    refine recorded.answered calling result (List.mem_append_right _ ?_)
    exact same ▸ List.mem_map_of_mem (List.mem_of_mem_filter there)
  · rw [there] at way
    exact way.waits (quiet ▸ chance _ call)

/-- A publication that is not given up is under way until it has ended. -/
theorem ended_run (numbered : work.Numbered)
    (found : work.jobs[place]? = some ⟨number, .arriving event⟩)
    (kept : machine.KeepsUp number work (.poll place :: later))
    (gone : (machine.run work (.poll place :: later)).call? number = none) :
    ∃ result, (Machine.notesOf number
      (machine.chronicle deeds work (.poll place :: later))).getLast? = some (.ended result) := by
  have way := underway_run (fun shown => ∃ result, shown.getLast? = some (.ended result))
    (fun _ => ⟨_, List.getLast?_concat⟩) later numbered found rfl (.inl kept)
  rw [gone] at way
  exact way

end

/-- **Event delivery is exact.**  Whatever happened before, those are subscribed who subscribed and
whose handle was not disposed since, in the order in which they subscribed; a handle goes by the
number of its subscription, and disposing it takes away just that one.  Whatever happens later, a
publication that has its first chance now calls those of its kind that are subscribed now, one after
another, each after the last one came back with success; it ends with the first failure or behind
the last listener, and until then waits for nothing but the listener that it called last, unless it
is given up. -/
theorem delivery_exact (before later : List (Action Event (HubMove α ε))) :
    let work := machine.run fresh before
    let present := standing 0 before
    work.state.bus.subscriptions = present ∧ present.Pairwise (·.id < ·.id) ∧
    (∀ kind listener, (work.state.subscribe kind listener).2 = before.countP subscribes) ∧
    (∀ handle, (work.state.dispose handle).1.bus.subscriptions = present.filter (·.id ≠ handle)) ∧
    ((machine.chronicle deeds fresh before).map (·.2)).flatMap Deed.number =
      List.range work.state.calls ∧
    ∀ place number event, work.jobs[place]? = some ⟨number, .arriving event⟩ →
      let after := machine.run work (.poll place :: later)
      let shown := Machine.notesOf number (machine.chronicle deeds work (.poll place :: later))
      Exact (present.filter (·.kind = event.kind)) number after shown ∧
      (machine.KeepsUp number work (.poll place :: later) → after.call? number = none →
        ∃ result, shown.getLast? = some (.ended result)) := by
  intro work present
  have sound : work.state.Sound := @Machine.Keeps.run _ _ _ _ _ _ _ keeps_sound fresh Sound.empty before
  have subscribed : work.state.bus.subscriptions = present := subscriptions_run Sound.empty before
  have recorded := @Machine.Tells.run _ _ _ _ _ _ _ _ _ tells_recorded fresh [] ⟨nofun, rfl⟩ before
  refine ⟨subscribed, subscribed ▸ sound.grow, fun kind listener => ?_, fun handle => ?_,
    recorded.numbered, fun place number event found => ?_⟩
  · exact (handles_run before).trans (Nat.zero_add _)
  · rw [sound.subscriptions_dispose, subscribed]
  · have numbered : work.Numbered := Machine.numbered_run (.idle _) before
    have nothing : work.resultsOf number = [] :=
      Machine.unanswered_run (m := machine) (.idle _) nofun nofun before _
        (List.mem_of_getElem? found)
    have goes := exact_run later numbered recorded nothing found
    rw [EventBus.subscribers, subscribed] at goes
    exact ⟨goes, ended_run numbered found⟩

/-- While "a" is called, "b" leaves, "d" joins and the same event is published once more: the first
publication still goes to "a" and "b", the second one to "a" and "d", whose failure it ends with. -/
theorem delivery_exact_reentered :
    let event := Event.configuration ⟨["qside.targetProfile"]⟩
    let a : Subscription String := ⟨0, event.kind, "a"⟩
    let b : Subscription String := ⟨1, event.kind, "b"⟩
    let d : Subscription String := ⟨3, event.kind, "d"⟩
    let before : List (Action Event (HubMove String String)) :=
      [.move (.subscribe event.kind "a"), .move (.subscribe event.kind "b"),
        .move (.subscribe .documentClosed "c"), .start event]
    let later : List (Action Event (HubMove String String)) :=
      [.poll 0, .move (.dispose 1), .move (.subscribe event.kind "d"), .start event,
        .poll 1, .poll 1, .move (.answer 1 (.ok ())), .poll 1, .poll 1,
        .move (.answer 2 (.error "d fails")), .poll 1,
        .move (.answer 0 (.ok ())), .poll 0, .poll 0, .move (.answer 3 (.ok ())), .poll 0, .poll 0]
    let work := machine.run fresh before
    let after := machine.run work (.poll 0 :: later)
    let shown := machine.chronicle deeds work (.poll 0 :: later)
    work.jobs[0]? = some ⟨0, .arriving event⟩ ∧ machine.KeepsUp 0 work (.poll 0 :: later) ∧
    after.call? 0 = none ∧ Exact [a, b] 0 after (Machine.notesOf 0 shown) ∧
    (∃ result, (Machine.notesOf 0 shown).getLast? = some (.ended result)) ∧
    shown = [(0, .called ⟨0, a⟩), (1, .called ⟨1, a⟩), (1, .returned ⟨1, a⟩ (.ok ())),
      (1, .called ⟨2, d⟩), (1, .returned ⟨2, d⟩ (.error "d fails")),
      (1, .ended (.error "d fails")), (0, .returned ⟨0, a⟩ (.ok ())), (0, .called ⟨3, b⟩),
      (0, .returned ⟨3, b⟩ (.ok ())), (0, .ended (.ok ()))] := by
  intro event a b d before later work after shown
  have found : work.jobs[0]? = some ⟨0, .arriving event⟩ := by decide +kernel
  have kept : machine.KeepsUp 0 work (.poll 0 :: later) := by
    simp [later, Machine.KeepsUp, Machine.GivesUp]
  have gone : after.call? 0 = none := by decide +kernel
  have present : (standing 0 before).filter (·.kind = event.kind) = [a, b] := by decide +kernel
  obtain ⟨-, -, -, -, -, delivered⟩ := delivery_exact before later
  obtain ⟨goes, ends⟩ := delivered 0 0 event found
  rw [present] at goes
  exact ⟨found, kept, gone, goes, ends kept gone, by decide +kernel⟩

end Hub
end EngineSync
