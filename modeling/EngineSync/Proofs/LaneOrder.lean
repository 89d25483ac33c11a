import EngineSync.Lanes

/-!
# The order of a lane

The calls that have reached a lane and have not ended stand in it at places.  As long as the lanes
are changed by the functions that let a call in and out, the places of a document are all in the one
lane that the document has now, its queue lists them in the order of their turns, and its references
count them.  So a place holds its lane exactly when no place of the same document has an earlier
turn, and nothing else about lanes is needed by those who use them.
-/
namespace EngineSync

/-- A place in the lane of a document. -/
structure Place where
  uri : Uri
  lane : LaneId
  turn : TurnId
deriving DecidableEq, Repr, Inhabited

/-- Taking the entries of one key away leaves those of every other. -/
theorem lookup_filter {α β : Type} [DecidableEq α] (table : List (α × β)) (key key' : α) :
    (table.filter (·.1 ≠ key)).lookup key' = if key' = key then none else table.lookup key' := by
  induction table with
  | nil => simp
  | cons entry rest ih =>
    obtain ⟨first, value⟩ := entry
    by_cases hk : first = key
    · subst hk
      by_cases he : key' = first
      · simpa [he] using ih
      · simp [he, List.lookup_cons, beq_eq_false_iff_ne.mpr he] at ih ⊢
        exact ih
    · by_cases he : key' = first
      · subst he; simp [hk]
      · simp [hk, List.lookup_cons, beq_eq_false_iff_ne.mpr he] at ih ⊢
        exact ih

/-! ## One lane -/

/-- A lane knows the places that are in it: in order, and how many. -/
structure Lane.Records (lane : Lane) (places : List Place) : Prop where
  mem_queue : ∀ turn,
    turn ∈ lane.queue ↔ ∃ place ∈ places, place.lane = lane.id ∧ place.turn = turn
  sorted : lane.queue.Pairwise (· < ·)
  references : lane.references = places.countP (fun place => place.lane = lane.id)

namespace Lane.Records
variable {lane : Lane} {places : List Place} {place : Place}

theorem perm {places' : List Place} (h : lane.Records places) (hp : places.Perm places') :
    lane.Records places' where
  mem_queue turn := by
    rw [h.mem_queue turn]
    exact exists_congr fun place => and_congr_left' hp.mem_iff
  sorted := h.sorted
  references := by rw [h.references, hp.countP_eq]

/-- A place in another lane makes no difference. -/
theorem cons_iff (hne : place.lane ≠ lane.id) :
    lane.Records (place :: places) ↔ lane.Records places := by
  have mem : ∀ turn, (∃ p ∈ place :: places, p.lane = lane.id ∧ p.turn = turn) ↔
      ∃ p ∈ places, p.lane = lane.id ∧ p.turn = turn := by simp [hne]
  have count : (place :: places).countP (fun p => p.lane = lane.id) =
      places.countP (fun p => p.lane = lane.id) := by simp [hne]
  constructor
  · rintro ⟨hm, hs, hr⟩
    exact ⟨fun turn => (hm turn).trans (mem turn), hs, hr.trans count⟩
  · rintro ⟨hm, hs, hr⟩
    exact ⟨fun turn => (hm turn).trans (mem turn).symm, hs, hr.trans count.symm⟩

/-- A call takes the last place. -/
theorem enter (h : lane.Records places) (hl : place.lane = lane.id)
    (last : ∀ p ∈ places, p.turn < place.turn) :
    Lane.Records { lane with queue := lane.queue ++ [place.turn], references := lane.references + 1 }
      (place :: places) where
  mem_queue turn := by
    rw [List.mem_append, h.mem_queue turn, List.mem_singleton]
    constructor
    · rintro (⟨p, hp, rest⟩ | rfl)
      · exact ⟨p, List.mem_cons_of_mem _ hp, rest⟩
      · exact ⟨place, List.mem_cons_self, hl, rfl⟩
    · rintro ⟨p, hp, hpl, rfl⟩
      rcases List.mem_cons.mp hp with rfl | hp
      · exact .inr rfl
      · exact .inl ⟨p, hp, hpl, rfl⟩
  sorted := by
    refine List.pairwise_append.mpr ⟨h.sorted, List.pairwise_singleton _ _, ?_⟩
    intro turn ht new hn
    obtain ⟨p, hp, -, rfl⟩ := (h.mem_queue turn).mp ht
    rw [List.mem_singleton.mp hn]
    exact last p hp
  references := by simp [h.references, hl]

/-- A call gives up its place and its reference. -/
theorem leave (h : lane.Records (place :: places)) (hl : place.lane = lane.id)
    (other : ∀ p ∈ places, p.turn ≠ place.turn) :
    Lane.Records { lane with
      queue := lane.queue.filter (· ≠ place.turn), references := lane.references - 1 } places where
  mem_queue turn := by
    simp only [List.mem_filter, h.mem_queue turn, List.mem_cons, ne_eq, decide_not,
      Bool.not_eq_true', decide_eq_false_iff_not]
    constructor
    · rintro ⟨⟨p, rfl | hp, hpl, rfl⟩, hne⟩
      · exact absurd rfl hne
      · exact ⟨p, hp, hpl, rfl⟩
    · rintro ⟨p, hp, hpl, rfl⟩
      exact ⟨⟨p, .inr hp, hpl, rfl⟩, other p hp⟩
  sorted := h.sorted.filter _
  references := by simp [h.references, hl]

/-- The holder is the place with the first turn. -/
theorem head?_eq_some_iff (h : lane.Records places) {turn : TurnId} :
    lane.queue.head? = some turn ↔
      (∃ p ∈ places, p.lane = lane.id ∧ p.turn = turn) ∧
        ∀ p ∈ places, p.lane = lane.id → turn ≤ p.turn := by
  rw [← h.mem_queue]
  constructor
  · intro hh
    obtain ⟨rest, hq⟩ := List.head?_eq_some_iff.mp hh
    refine ⟨by simp [hq], fun p hp hl => ?_⟩
    have sorted := h.sorted
    have hm := (h.mem_queue p.turn).mpr ⟨p, hp, hl, rfl⟩
    rw [hq] at sorted hm
    rcases List.mem_cons.mp hm with he | hm
    · exact Nat.le_of_eq he.symm
    · exact Nat.le_of_lt ((List.pairwise_cons.mp sorted).1 _ hm)
  · rintro ⟨hm, first⟩
    obtain ⟨front, rest, hq⟩ := List.exists_cons_of_ne_nil (List.ne_nil_of_mem hm)
    obtain ⟨p, hp, hl, he⟩ := (h.mem_queue front).mp (by simp [hq])
    have le : turn ≤ front := he ▸ first p hp hl
    have sorted := h.sorted
    rw [hq] at sorted hm
    rcases List.mem_cons.mp hm with rfl | hm
    · rw [hq, List.head?_cons]
    · exact absurd le (Nat.not_le_of_lt ((List.pairwise_cons.mp sorted).1 _ hm))

end Lane.Records

/-! ## All lanes -/

namespace Lanes

/-- The lanes are in order: each document has a lane of its own, the places of a document are in its
lane, and every lane knows its places. -/
structure Sound (lanes : Lanes) (places : List Place) : Prop where
  lane_lt : ∀ lane ∈ lanes.all, lane.id < lanes.nextLane
  lane_ids : ∀ lane ∈ lanes.all, ∀ lane' ∈ lanes.all, lane.id = lane'.id → lane = lane'
  lane_of : ∀ uri id, lanes.laneOf? uri = some id → ∃ lane ∈ lanes.all, lane.id = id
  apart : ∀ uri uri' id, lanes.laneOf? uri = some id → lanes.laneOf? uri' = some id → uri = uri'
  at_lane : ∀ place ∈ places, lanes.laneOf? place.uri = some place.lane
  turn_lt : ∀ place ∈ places, place.turn < lanes.nextTurn
  turns : (places.map (·.turn)).Nodup
  records : ∀ lane ∈ lanes.all, lane.Records places

theorem sound_empty : empty.Sound [] := by
  constructor <;> simp [empty, laneOf?]

namespace Sound
variable {lanes : Lanes} {places : List Place} {place : Place}

/-- The order in which places are listed does not matter. -/
theorem perm {places' : List Place} (h : lanes.Sound places) (hp : places.Perm places') :
    lanes.Sound places' where
  lane_lt := h.lane_lt
  lane_ids := h.lane_ids
  lane_of := h.lane_of
  apart := h.apart
  at_lane place hm := h.at_lane place (hp.mem_iff.mpr hm)
  turn_lt place hm := h.turn_lt place (hp.mem_iff.mpr hm)
  turns := (hp.map _).nodup_iff.mp h.turns
  records lane hl := (h.records lane hl).perm hp

theorem find?_eq (h : lanes.Sound places) {lane : Lane} (hl : lane ∈ lanes.all) :
    lanes.find? lane.id = some lane := by
  cases found : lanes.find? lane.id with
  | none => simpa using List.find?_eq_none.mp found lane hl
  | some other =>
    have same : other.id = lane.id := by simpa using List.find?_some found
    rw [h.lane_ids other (List.mem_of_find?_eq_some found) lane hl same]

/-- The lane of a place. -/
theorem exists_lane (h : lanes.Sound (place :: places)) :
    ∃ lane ∈ lanes.all, lane.id = place.lane :=
  h.lane_of _ _ (h.at_lane place List.mem_cons_self)

/-- Places share a lane exactly when they share the document. -/
theorem lane_eq_iff (h : lanes.Sound places) {p q : Place} (hp : p ∈ places) (hq : q ∈ places) :
    p.lane = q.lane ↔ p.uri = q.uri := by
  have hpl := h.at_lane p hp
  have hql := h.at_lane q hq
  constructor
  · intro he
    exact h.apart _ _ _ hpl (he ▸ hql)
  · intro he
    rw [he, hql] at hpl
    exact (Option.some.inj hpl).symm

/-- **The first come hold.**  A place holds its lane exactly when it has the first turn among the
places of its document. -/
theorem holds_iff (h : lanes.Sound (place :: places)) :
    lanes.holds place.lane place.turn = true ↔
      ∀ p ∈ places, p.uri = place.uri → place.turn < p.turn := by
  obtain ⟨lane, hl, hid⟩ := h.exists_lane
  have turns := List.nodup_cons.mp h.turns
  simp only [holds, ← hid, h.find?_eq hl, decide_eq_true_eq]
  rw [(h.records lane hl).head?_eq_some_iff]
  constructor
  · rintro ⟨-, first⟩ p hp he
    have hlane : p.lane = lane.id :=
      hid ▸ (h.lane_eq_iff (List.mem_cons_of_mem _ hp) List.mem_cons_self).mpr he
    refine Nat.lt_of_le_of_ne (first p (List.mem_cons_of_mem _ hp) hlane) fun heq => ?_
    exact turns.1 (List.mem_map.mpr ⟨p, hp, heq.symm⟩)
  · intro first
    refine ⟨⟨place, List.mem_cons_self, hid.symm, rfl⟩, fun p hp hlane => ?_⟩
    rcases List.mem_cons.mp hp with rfl | hm
    · exact Nat.le_refl _
    · exact Nat.le_of_lt (first p hm
        ((h.lane_eq_iff hp List.mem_cons_self).mp (hlane.trans hid)))

/-! ### Letting a call in -/

/-- A document without a lane gets one. -/
theorem obtain (h : lanes.Sound places) (uri : Uri) :
    (lanes.obtain uri).1.Sound places ∧
      (lanes.obtain uri).1.laneOf? uri = some (lanes.obtain uri).2 ∧
      (lanes.obtain uri).1.nextTurn = lanes.nextTurn := by
  cases found : lanes.laneOf? uri with
  | some id => simpa only [Lanes.obtain, found, and_true] using h
  | none =>
    have hnew : ∀ uri', laneOf? ⟨lanes.table ++ [(uri, lanes.nextLane)],
        lanes.all ++ [⟨lanes.nextLane, [], 0⟩], lanes.nextLane + 1, lanes.nextTurn⟩ uri' =
          if uri' = uri then some lanes.nextLane else lanes.laneOf? uri' := by
      intro uri'
      unfold laneOf? at found ⊢
      rw [List.lookup_append]
      by_cases he : uri' = uri
      · subst he; simp [found]
      · simp [he, List.lookup_cons, beq_eq_false_iff_ne.mpr he]
    have old_lt : ∀ uri' id, lanes.laneOf? uri' = some id → id < lanes.nextLane := by
      intro uri' id hid
      obtain ⟨lane, hl, rfl⟩ := h.lane_of uri' id hid
      exact h.lane_lt lane hl
    simp only [Lanes.obtain, found]
    refine ⟨⟨?_, ?_, ?_, ?_, ?_, h.turn_lt, h.turns, ?_⟩, by rw [hnew]; simp, trivial⟩
    · intro lane hl
      rcases List.mem_append.mp hl with hl | hl
      · exact Nat.lt_succ_of_lt (h.lane_lt lane hl)
      · rw [List.mem_singleton.mp hl]
        exact Nat.lt_succ_self _
    · intro lane hl lane' hl' he
      rcases List.mem_append.mp hl with hl | hl <;> rcases List.mem_append.mp hl' with hl' | hl'
      · exact h.lane_ids lane hl lane' hl' he
      · rw [List.mem_singleton.mp hl'] at he
        exact absurd he (Nat.ne_of_lt (h.lane_lt lane hl))
      · rw [List.mem_singleton.mp hl] at he
        exact absurd he.symm (Nat.ne_of_lt (h.lane_lt lane' hl'))
      · rw [List.mem_singleton.mp hl, List.mem_singleton.mp hl']
    · intro uri' id hid
      rw [hnew] at hid
      split at hid
      · exact ⟨⟨lanes.nextLane, [], 0⟩, by simp, Option.some.inj hid⟩
      · obtain ⟨lane, hl, he⟩ := h.lane_of uri' id hid
        exact ⟨lane, List.mem_append_left _ hl, he⟩
    · intro u v id hu hv
      rw [hnew] at hu hv
      split at hu <;> split at hv
      · rename_i hu' hv'; rw [hu', hv']
      · exact absurd (Option.some.inj hu).symm (Nat.ne_of_lt (old_lt v id hv))
      · exact absurd (Option.some.inj hv).symm (Nat.ne_of_lt (old_lt u id hu))
      · exact h.apart u v id hu hv
    · intro place hp
      rw [hnew]
      have := h.at_lane place hp
      split
      · rename_i he; rw [he, found] at this; cases this
      · exact this
    · intro lane hl
      rcases List.mem_append.mp hl with hl | hl
      · exact h.records lane hl
      · -- no place is in the new lane, since the lanes of all places are older
        rw [List.mem_singleton.mp hl]
        have none_in : ∀ p ∈ places, p.lane ≠ lanes.nextLane := fun p hp =>
          Nat.ne_of_lt (old_lt _ _ (h.at_lane p hp))
        refine ⟨fun turn => ?_, List.Pairwise.nil, ?_⟩
        · simp only [List.not_mem_nil, false_iff, not_exists, not_and]
          exact fun p hp he => absurd he (none_in p hp)
        · exact (List.countP_eq_zero.mpr (by simpa using none_in)).symm

/-- Changing lanes but not their numbers keeps everything that is not about queues. -/
theorem update (h : lanes.Sound places) {places' : List Place} {id : LaneId} {f : Lane → Lane}
    {nextTurn : TurnId} (hf : ∀ lane, (f lane).id = lane.id)
    (at_lane : ∀ place ∈ places', lanes.laneOf? place.uri = some place.lane)
    (turn_lt : ∀ place ∈ places', place.turn < nextTurn)
    (turns : (places'.map (·.turn)).Nodup)
    (records : ∀ lane ∈ lanes.all, Lane.Records (if lane.id = id then f lane else lane) places') :
    Sound { lanes.update id f with nextTurn } places' := by
  have ids : ∀ lane : Lane, (if lane.id = id then f lane else lane).id = lane.id := by
    intro lane
    split
    · exact hf lane
    · rfl
  refine ⟨?_, ?_, ?_, h.apart, at_lane, turn_lt, turns, ?_⟩
  · intro lane hl
    obtain ⟨old, ho, rfl⟩ := List.mem_map.mp hl
    exact (ids old).symm ▸ h.lane_lt old ho
  · intro lane hl lane' hl' he
    obtain ⟨old, ho, rfl⟩ := List.mem_map.mp hl
    obtain ⟨old', ho', rfl⟩ := List.mem_map.mp hl'
    rw [ids, ids] at he
    rw [h.lane_ids old ho old' ho' he]
  · intro uri id' hid
    obtain ⟨lane, hl, rfl⟩ := h.lane_of uri id' hid
    exact ⟨_, List.mem_map_of_mem hl, ids lane⟩
  · intro lane hl
    obtain ⟨old, ho, rfl⟩ := List.mem_map.mp hl
    exact records old ho

/-- A call that arrives takes the last place of the lane of its document. -/
theorem enter (h : lanes.Sound places) (uri : Uri) :
    (lanes.enter uri).1.Sound (⟨uri, (lanes.enter uri).2.1, lanes.nextTurn⟩ :: places) := by
  obtain ⟨sound, at_uri, next⟩ := h.obtain uri
  rcases hob : lanes.obtain uri with ⟨made, id⟩
  rw [hob] at sound at_uri next
  simp only [Lanes.enter, hob] at sound at_uri next ⊢
  rw [← next]
  have last : ∀ p ∈ places, p.turn < made.nextTurn := sound.turn_lt
  refine sound.update (fun _ => rfl) ?_ ?_ ?_ ?_
  · intro p hp
    rcases List.mem_cons.mp hp with rfl | hp
    · exact at_uri
    · exact sound.at_lane p hp
  · intro p hp
    rcases List.mem_cons.mp hp with rfl | hp
    · exact Nat.lt_succ_self _
    · exact Nat.lt_succ_of_lt (last p hp)
  · refine List.nodup_cons.mpr ⟨fun hm => ?_, sound.turns⟩
    obtain ⟨p, hp, he⟩ := List.mem_map.mp hm
    exact Nat.ne_of_lt (last p hp) he
  · intro lane hl
    split
    · rename_i hid
      exact @Lane.Records.enter lane places ⟨uri, id, made.nextTurn⟩ (sound.records lane hl)
        hid.symm last
    · rename_i hid
      exact (Lane.Records.cons_iff fun he => hid he.symm).mpr (sound.records lane hl)

/-! ### Letting a call out -/

/-- A call gives up its place. -/
theorem quit (h : lanes.Sound (place :: places)) :
    ((lanes.leave place.lane place.turn).unreference place.lane).Sound places := by
  have turns := List.nodup_cons.mp h.turns
  have other : ∀ p ∈ places, p.turn ≠ place.turn := fun p hp he =>
    turns.1 (List.mem_map.mpr ⟨p, hp, he⟩)
  have both : (lanes.leave place.lane place.turn).unreference place.lane =
      { lanes.update place.lane (fun lane => { lane with
          queue := lane.queue.filter (· ≠ place.turn), references := lane.references - 1 }) with
        nextTurn := lanes.nextTurn } := by
    simp only [leave, unreference, Lanes.update, List.map_map]
    congr 1
    apply List.map_congr_left
    intro lane _
    by_cases hid : lane.id = place.lane <;> simp [hid]
  rw [both]
  refine h.update (fun _ => rfl) ?_ ?_ turns.2 ?_
  · exact fun p hp => h.at_lane p (List.mem_cons_of_mem _ hp)
  · exact fun p hp => h.turn_lt p (List.mem_cons_of_mem _ hp)
  · intro lane hl
    split
    · rename_i hid
      exact (h.records lane hl).leave hid.symm other
    · rename_i hid
      exact (Lane.Records.cons_iff fun he => hid he.symm).mp (h.records lane hl)

end Sound

theorem find?_update (lanes : Lanes) (id : LaneId) {f : Lane → Lane}
    (hf : ∀ lane, (f lane).id = lane.id) :
    (lanes.update id f).find? id = (lanes.find? id).map f := by
  have same : ((fun lane : Lane => decide (lane.id = id)) ∘
      fun lane => if lane.id = id then f lane else lane) = fun lane => decide (lane.id = id) := by
    funext lane
    by_cases he : lane.id = id <;> simp [he, hf]
  simp only [find?, update, List.find?_map, same]
  cases found : lanes.all.find? fun lane => decide (lane.id = id) with
  | none => rfl
  | some lane =>
    have he : lane.id = id := by simpa using List.find?_some found
    simp [he]

namespace Sound
variable {lanes : Lanes} {places : List Place} {place : Place}

/-- A document none of whose calls is in a lane can lose its lane. -/
theorem forget (h : lanes.Sound places) {uri : Uri} (unused : ∀ p ∈ places, p.uri ≠ uri) :
    Sound { lanes with table := lanes.table.filter (·.1 ≠ uri) } places := by
  have kept : ∀ uri' id,
      laneOf? { lanes with table := lanes.table.filter (·.1 ≠ uri) } uri' = some id →
        lanes.laneOf? uri' = some id := by
    intro uri' id hid
    rw [laneOf?, lookup_filter] at hid
    split at hid
    · cases hid
    · exact hid
  refine ⟨h.lane_lt, h.lane_ids, ?_, ?_, ?_, h.turn_lt, h.turns, h.records⟩
  · exact fun uri' id hid => h.lane_of uri' id (kept uri' id hid)
  · exact fun u v id hu hv => h.apart u v id (kept u id hu) (kept v id hv)
  · intro p hp
    rw [laneOf?, lookup_filter, if_neg (unused p hp)]
    exact h.at_lane p hp

/-- **A lane is retired only when nobody else is in it**: a call that closes its document may give
up its place and the lane together. -/
theorem quit_retiring (h : lanes.Sound (place :: places)) :
    (((lanes.leave place.lane place.turn).retire place.uri place.lane).unreference
      place.lane).Sound places := by
  obtain ⟨lane, hl, hid⟩ := h.exists_lane
  have left : (lanes.leave place.lane place.turn).find? place.lane =
      some { lane with queue := lane.queue.filter (· ≠ place.turn) } := by
    have found := find?_update lanes place.lane
      (f := fun lane => { lane with queue := lane.queue.filter (· ≠ place.turn) }) fun _ => rfl
    rwa [← hid, h.find?_eq hl, hid] at found
  simp only [retire, left]
  split
  · rename_i last
    simp only [Bool.and_eq_true, decide_eq_true_eq] at last
    refine h.quit.forget fun p hp he => ?_
    have count := (h.records lane hl).references
    rw [last.2, List.countP_cons, if_pos (by simp [hid])] at count
    have none_left : places.countP (fun p => p.lane = lane.id) = 0 := by omega
    have alone := List.countP_eq_zero.mp none_left p hp
    simp only [decide_eq_true_eq] at alone
    exact alone (((h.lane_eq_iff (List.mem_cons_of_mem _ hp) List.mem_cons_self).mpr he).trans
      hid.symm)
  · exact h.quit

end Sound
end Lanes
end EngineSync
