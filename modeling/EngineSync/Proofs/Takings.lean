import Mathlib.Data.List.Sort
import EngineSync.Proofs.InHand

/-!
# Which publications are taken up

A listener takes up the event of a publication when this gets its chance behind the open barrier.
Publications have numbers that grow in the order in which they were started, so the events that are
taken up, with the numbers of their publications, tell in which order they were published: every
number comes once, with the event of its publication (`World.Takings`).
-/
namespace EngineSync

/-- The event of a publication. -/
def Call.event? : Call → Option Event
  | .publish (.arriving event) | .publish (.delivering ⟨event, _, _⟩) => some event
  | _ => none

/-- The events that the listener of an activation takes up, in order, with the numbers of their
publications. -/
def takenUp (id : ActivationId) (chronicle : List (Nat × WorldNote)) : List (Nat × Event) :=
  chronicle.filterMap fun entry => (entry.2.taken? id).map (entry.1, ·)

theorem takenUp_append (id : ActivationId) (chronicle chronicle' : List (Nat × WorldNote)) :
    takenUp id (chronicle ++ chronicle') = takenUp id chronicle ++ takenUp id chronicle' :=
  List.filterMap_append

theorem takenUp_events (id : ActivationId) (chronicle : List (Nat × WorldNote)) :
    (takenUp id chronicle).map (·.2) = takenFor id (chronicle.map (·.2)) := by
  simp [takenUp, takenFor, List.map_filterMap, List.filterMap_map]

/-- What one call takes up. -/
theorem takenUp_own (id : ActivationId) (number : Nat) (notes : List WorldNote) :
    takenUp id (notes.map (number, ·)) = (takenFor id notes).map (number, ·) := by
  simp [takenUp, takenFor, List.map_filterMap, List.filterMap_map]

theorem mem_takenUp {id : ActivationId} {number : Nat} {event : Event}
    {chronicle : List (Nat × WorldNote)}
    (mem : event ∈ takenFor id (Machine.notesOf number chronicle)) :
    (number, event) ∈ takenUp id chronicle := by
  obtain ⟨note, noted, takes⟩ := List.mem_filterMap.mp mem
  obtain ⟨⟨number', note'⟩, told, rfl⟩ := List.mem_map.mp noted
  obtain ⟨there, same⟩ := List.mem_filter.mp told
  refine List.mem_filterMap.mpr ⟨_, there, ?_⟩
  rw [takes, Option.map_some, of_decide_eq_true same]

namespace World
variable {world world' : World} {call : Call} {calls : List Call} {id : ActivationId}
  {notes : List WorldNote} {progress : Progress Call CallResult}
  {work : Work World Call CallResult} {published taken : List (Nat × Event)}

/-! ## Chances -/

/-- A publication keeps its event. -/
theorem event_hop (hop : Hop world call notes world' progress) :
    ∀ next ∈ progress.rest, next.event? = call.event? := by
  intro next mem
  cases hop with
  | refused | rejected | ready | failed | finish => cases mem
  | began | subscribed | replay | publish | call =>
    rw [List.mem_singleton.mp mem]
    rfl
  | @listen event listener waiting _ _ outcome hop =>
    rcases outcome with listener' | failure | ⟨⟩ <;> cases mem
    · rfl
    · next mem => cases mem
    · rfl
    · next mem => cases mem
  | sync id' asked =>
    rw [World.poll, Progress.rest_map] at mem
    obtain ⟨asked', -, rfl⟩ := List.mem_map.mp mem
    rfl

/-- A step takes up nothing, or the event of its publication, which is past the listener then. -/
theorem taking_hop (sound : Sound world (call :: calls))
    (hop : Hop world call notes world' progress) :
    takenFor id notes = [] ∨ ∃ event ∈ call.event?, takenFor id notes = [event] ∧
      ∀ next ∈ progress.rest, next.Past id := by
  cases hop with
  | @listen event listener waiting _ _ _ hop =>
    cases hop with
    | @take id' released =>
      by_cases here : id' = id
      · subst here
        have later := sound.comes_once
        refine .inr ⟨event, rfl, by simp [takenFor, WorldNote.taken?], delivered_past later ?_⟩
        rintro listener ⟨⟩ here
        exact taking_past event (ListenerCall.activation.inj here).2
      · exact .inl (by simp [takenFor, WorldNote.taken?, here])
    | route id' route => exact .inl (staged_untaken world id id' (.routing route))
    | _ => exact .inl rfl
  | _ => exact .inl rfl

/-- **A chance takes up nothing, or the event of its publication**, which is past the listener
then. -/
theorem taking_poll (sound : Sound world (call :: calls)) :
    (∀ next ∈ (world.poll call).2.rest, next.event? = call.event?) ∧
      (takenFor id (world.notes call) = [] ∨
        ∃ event ∈ call.event?, takenFor id (world.notes call) = [event] ∧
          ∀ next ∈ (world.poll call).2.rest, next.Past id) := by
  have kept := (poll_hops sound.tidy call).keeps
    (fun world rest notes => Sound world (rest ++ calls) ∧
      (∀ next ∈ rest, next.event? = call.event?) ∧
        (takenFor id notes = [] ∨ ∃ event ∈ call.event?, takenFor id notes = [event] ∧
          ∀ next ∈ rest, next.Past id))
    (fun {world next notes after progress history} ⟨sound, same, taken⟩ hop => ?_)
    (⟨sound, fun next mem => by rw [List.mem_singleton.mp mem], .inl rfl⟩ :
      Sound world ([call] ++ calls) ∧ (∀ next ∈ [call], next.event? = call.event?) ∧
        (takenFor id [] = [] ∨ ∃ event ∈ call.event?, takenFor id [] = [event] ∧
          ∀ next ∈ [call], next.Past id))
  · exact kept.2
  · have own := same next List.mem_cons_self
    refine ⟨sound.hop hop, fun later mem => (event_hop hop later mem).trans own, ?_⟩
    rw [takenFor_append]
    -- what was taken up before leaves nothing to be taken up
    rcases taken with none | ⟨event, brings, once, past⟩
    · rw [none, List.nil_append, ← own]
      exact taking_hop sound hop
    · obtain ⟨past', none⟩ := past_hop (past next List.mem_cons_self) hop
      exact .inr ⟨event, brings, by rw [once, none, List.append_nil], past'⟩

theorem untaken_poll (sound : Sound world (call :: calls)) (past : call.Past id) :
    takenFor id (world.notes call) = [] :=
  ((poll_hops sound.tidy call).keeps
    (fun world rest notes => (∀ next ∈ rest, next.Past id) ∧ takenFor id notes = [])
    (fun {_ next _ _ _ _} ⟨past, untaken⟩ hop => by
      obtain ⟨past', still⟩ := past_hop (past next List.mem_cons_self) hop
      exact ⟨past', by rw [takenFor_append, untaken, still, List.append_nil]⟩)
    (⟨fun next mem => List.mem_singleton.mp mem ▸ past, rfl⟩ :
      (∀ next ∈ [call], next.Past id) ∧ takenFor id [] = [])).2

/-! ## Runs -/

/-- The publications that a run starts, in order, with their numbers. -/
def publications (work : Work World Call CallResult) :
    List (Action WorldRequest WorldMove) → List (Nat × Event)
  | [] => []
  | action :: rest => (published? action).toList.map (work.started, ·) ++
    publications (World.machine.perform work action) rest

theorem publications_append (work : Work World Call CallResult)
    (before later : List (Action WorldRequest WorldMove)) :
    publications work (before ++ later) =
      publications work before ++ publications (World.machine.run work before) later := by
  induction before generalizing work with
  | nil => rfl
  | cons action rest ih => simp [publications, ih]

/-- The publications that were started, and those that were taken up: the numbers grow, a
publication under way has the event of its number, and what was taken up are publications, each of
them once and past the listener. -/
structure Takings (id : ActivationId) (work : Work World Call CallResult)
    (published taken : List (Nat × Event)) : Prop where
  grow : published.Pairwise (·.1 < ·.1)
  given : ∀ entry ∈ published, entry.1 < work.started
  brings : ∀ job ∈ work.jobs, ∀ event ∈ job.call.event?, (job.number, event) ∈ published
  subset : taken ⊆ published
  once : (taken.map (·.1)).Nodup
  past : ∀ job ∈ work.jobs, job.number ∈ taken.map (·.1) → job.call.Past id

/-- What is accepted publishes what the request asks for. -/
theorem event_accept {request : WorldRequest} (accepted : world.accept request = some call) :
    call.event? = published? (.start request) := by
  cases request with
  | activate name | publish event =>
    cases accepted
    rfl
  | sync id' request =>
    simp only [World.accept, Option.ite_none_right_eq_some, Option.some.injEq] at accepted
    rw [← accepted.2]
    rfl

/-- A publication that is started has the next number. -/
theorem Takings.start (h : Takings id work published taken) (request : WorldRequest) :
    Takings id (World.machine.perform work (.start request))
      (published ++ (published? (.start request)).toList.map (work.started, ·)) taken := by
  cases accepted : World.machine.accept work.state request with
  | none =>
    rw [Machine.perform_start_none accepted, published?_of_refused accepted, Option.toList_none,
      List.map_nil, List.append_nil]
    exact h
  | some call =>
    have next : ∀ entry ∈ call.event?.toList.map (work.started, ·), entry.1 = work.started := by
      intro entry mem
      obtain ⟨event, -, rfl⟩ := List.mem_map.mp mem
      rfl
    rw [Machine.perform_start accepted, ← event_accept accepted]
    exact {
      grow := by
        refine List.pairwise_append.mpr ⟨h.grow, ?_, fun old mem new mem' => ?_⟩
        · cases call.event? <;> simp
        · exact next new mem' ▸ h.given old mem
      given := by
        intro entry mem
        rcases List.mem_append.mp mem with old | new
        · exact Nat.lt_succ_of_lt (h.given entry old)
        · exact next entry new ▸ Nat.lt_succ_self _
      brings := by
        intro job mem event brings
        rcases List.mem_append.mp mem with old | new
        · exact List.mem_append_left _ (h.brings job old event brings)
        · cases List.mem_singleton.mp new
          exact List.mem_append_right _ (List.mem_map_of_mem (Option.mem_toList.mpr brings))
      subset := fun entry mem => List.mem_append_left _ (h.subset mem)
      once := h.once
      past := by
        intro job mem number
        rcases List.mem_append.mp mem with old | new
        · exact h.past job old number
        · -- nothing was taken up by a number that was not given
          cases List.mem_singleton.mp new
          obtain ⟨entry, there, same⟩ := List.mem_map.mp number
          exact absurd (h.given entry (h.subset there)) (Nat.not_lt_of_le same.ge) }

/-- A publication that gets a chance takes up its event, unless it has done so. -/
theorem Takings.poll (h : Takings id work published taken) (sound : Sound work.state work.calls)
    (numbered : work.Numbered) (place : Nat) :
    Takings id (World.machine.perform work (.poll place)) published
      (taken ++ takenUp id (Machine.told World.notes work
        (.poll place : Action WorldRequest WorldMove))) := by
  cases at_place : work.jobs[place]? with
  | none =>
    rw [Machine.perform_poll_none at_place]
    simpa [Machine.told, at_place, takenUp] using h
  | some job =>
    obtain ⟨before, after, split, rfl⟩ := Machine.split_at_place at_place
    have here := Sound.tells.keeps.at_place sound split
    have there : job ∈ work.jobs := List.mem_of_getElem? at_place
    have started : (World.machine.perform work (.poll before.length)).started = work.started := by
      rw [Machine.perform_poll split]
    obtain ⟨same, takes⟩ := @taking_poll _ _ _ id here
    have brings : ∀ next ∈ (World.machine.perform work (.poll before.length)).jobs,
        ∀ event ∈ next.call.event?, (next.number, event) ∈ published := by
      intro next mem event brings
      rcases Machine.mem_jobs_poll numbered split mem with ⟨old, -⟩ | ⟨call, left, rfl⟩
      · exact h.brings next old event brings
      · exact h.brings job there event (same call left ▸ brings)
    rw [Machine.told_poll split, takenUp_own]
    rcases takes with none | ⟨event, own, one, past⟩
    · rw [none, List.map_nil, List.append_nil]
      refine ⟨h.grow, started ▸ h.given, brings, h.subset, h.once, fun next mem number => ?_⟩
      rcases Machine.mem_jobs_poll numbered split mem with ⟨old, -⟩ | ⟨call, left, rfl⟩
      · exact h.past next old number
      · exact past_poll here (h.past job there number) call left
    · rw [one, List.map_singleton]
      -- a publication that has taken up its event is past the listener
      have fresh : job.number ∉ taken.map (·.1) := fun number => by
        have none := untaken_poll here (h.past job there number)
        rw [one] at none
        cases none
      refine ⟨h.grow, started ▸ h.given, brings, ?_, ?_, fun next mem number => ?_⟩
      · exact List.append_subset.mpr ⟨h.subset, fun entry mem =>
          List.mem_singleton.mp mem ▸ h.brings job there event own⟩
      · rw [List.map_append]
        refine h.once.append (List.nodup_singleton _) fun number old now => fresh ?_
        cases List.mem_singleton.mp now
        exact old
      · rcases Machine.mem_jobs_poll numbered split mem with ⟨old, other⟩ | ⟨call, left, rfl⟩
        · rw [List.map_append] at number
          rcases List.mem_append.mp number with earlier | now
          · exact h.past next old earlier
          · exact absurd (List.mem_singleton.mp now) other
        · exact past call left

/-- **An action keeps the account** of what was published and what was taken up. -/
theorem Takings.perform (h : Takings id work published taken) (sound : Sound work.state work.calls)
    (numbered : work.Numbered) (action : Action WorldRequest WorldMove) :
    Takings id (World.machine.perform work action)
      (published ++ (published? action).toList.map (work.started, ·))
      (taken ++ takenUp id (Machine.told World.notes work action)) := by
  cases action with
  | start request =>
    simp only [Machine.told, takenUp, List.filterMap_nil, List.append_nil]
    exact h.start request
  | poll place =>
    simp only [published?, Option.toList_none, List.map_nil, List.append_nil]
    exact h.poll sound numbered place
  | cancel place =>
    simp only [Machine.told, takenUp, published?, Option.toList_none, List.filterMap_nil,
      List.map_nil, List.append_nil, Machine.perform]
    cases work.jobs[place]? with
    | none => exact h
    | some job =>
      have fewer : work.jobs.eraseIdx place ⊆ work.jobs := (List.eraseIdx_sublist _ _).subset
      exact ⟨h.grow, h.given, fun next mem => h.brings next (fewer mem), h.subset, h.once,
        fun next mem => h.past next (fewer mem)⟩
  | move way =>
    simp only [Machine.told, takenUp, published?, Option.toList_none, List.filterMap_nil,
      List.map_nil, List.append_nil]
    exact ⟨h.grow, h.given, h.brings, h.subset, h.once, h.past⟩

/-- **A run keeps the account.** -/
theorem Takings.run (h : Takings id work published taken) (sound : Sound work.state work.calls)
    (numbered : work.Numbered) (actions : List (Action WorldRequest WorldMove)) :
    Takings id (World.machine.run work actions) (published ++ publications work actions)
      (taken ++ takenUp id (World.machine.chronicle World.notes work actions)) := by
  induction actions generalizing work published taken with
  | nil => simpa [publications, Machine.chronicle, takenUp] using h
  | cons action rest ih =>
    have first := ih (h.perform sound numbered action) (Sound.tells.keeps.perform sound action)
      (Machine.numbered_perform numbered action)
    rw [publications, Machine.chronicle, takenUp_append, ← List.append_assoc, ← List.append_assoc]
    exact first

/-- The account from some moment on. -/
theorem Takings.since (h : Takings id work published taken) : Takings id work published [] :=
  ⟨h.grow, h.given, h.brings, List.nil_subset _, .nil, fun _ _ taken => nomatch taken⟩

/-- **Publications that are taken up in the order of their numbers are taken up in the order in
which they were published.** -/
theorem Takings.sublist (h : Takings id work published taken) (keep : Nat × Event → Bool)
    (grow : (taken.filter keep).Pairwise (·.1 < ·.1)) :
    (taken.filter keep).Sublist (published.filter keep) := by
  have : Std.Antisymm fun (entry entry' : Nat × Event) => entry.1 < entry'.1 :=
    ⟨fun _ _ lt gt => absurd lt (Nat.lt_asymm gt)⟩
  have once : (taken.filter keep).Nodup := (h.once.of_map).filter keep
  refine List.sublist_of_subperm_of_pairwise (List.subperm_of_subset once fun entry mem => ?_) grow
    (h.grow.filter keep)
  obtain ⟨there, kept⟩ := List.mem_filter.mp mem
  exact List.mem_filter.mpr ⟨h.subset there, kept⟩

end World
end EngineSync
