import EngineSync.Proofs.Sharing

/-!
# What is seen of a document

What can be seen of one document in a run is a machine of its own (`Sight`): its calls with the
number of those ahead of each in the lane, whether it has a lane, and what the engine was asked, has
completed and has answered.  `Shared.look` reads it off the state that all calls share.
-/
namespace EngineSync

/-- How far a call came, with the number of calls of its document that are ahead of it. -/
inductive SeenStage where
  | arriving
  | queued (ahead : Nat)
  | calling (ahead : Nat)
deriving DecidableEq, Repr

/-- A call of a document as it is seen. -/
structure SeenCall where
  number : Nat
  doc : Document
  closes : Bool
  stage : SeenStage
deriving DecidableEq, Repr

/-- What is seen of a document. -/
structure Sight where
  calls : List SeenCall
  lane : Bool
  disposed : Bool
  refusals : Refusals
  recorded : List EngineCall
  completed : List (Caller × String)
  results : List (Caller × SharedResult)

namespace SeenCall

/-- The name of a call. -/
def caller (call : SeenCall) : Caller :=
  ⟨.document call.doc.uri, call.number⟩

/-- What a call asks for. -/
def request (call : SeenCall) : Request :=
  Forwarding.request ⟨call.doc, call.closes, .arriving⟩

/-- Whether a call stands in the lane. -/
def stands (call : SeenCall) : Bool :=
  call.stage ≠ .arriving

/-- A call that had some ahead of it has left; those behind move up. -/
def moveUp (ahead : Nat) (call : SeenCall) : SeenCall :=
  let up (number : Nat) := if ahead < number then number - 1 else number
  { call with
    stage := match call.stage with
      | .arriving => .arriving
      | .queued number => .queued (up number)
      | .calling number => .calling (up number) }

end SeenCall

namespace Sight
variable (base : Sync) (sight : Sight) (before after : List SeenCall) (call : SeenCall)
  (ahead : Nat)

/-- A call leaves the lane with its result; a close that leaves nobody behind takes the lane
along. -/
def ends (result : ForwardingResult) : Sight :=
  { sight with
    calls := (before ++ after).map (·.moveUp ahead)
    lane := sight.lane && !(call.closes && (before ++ after).all (!·.stands))
    results := sight.results ++ [(call.caller, .forwarded result)] }

/-- The engine has the request of a call, and has answered it or not. -/
def called (answered : Bool) : Sight :=
  if answered then
    let answer := { base.engine with refusals := sight.refusals }.answer call.request
    ends { sight with completed := sight.completed ++ [(call.caller, call.request.key)] }
      before after call ahead (answer.map fun _ => true)
  else { sight with calls := before ++ { call with stage := .calling ahead } :: after }

/-- A call stands in the lane: the first one asks the engine, which answers at once what it does not
hold back. -/
def queued : Sight :=
  if ahead = 0 then
    if sight.disposed then sight.ends before after call ahead (.error .disposed)
    else
      called base { sight with recorded := sight.recorded ++ [.request base.session call.request] }
        before after call ahead (!base.engine.gated.contains call.request.key)
  else { sight with calls := before ++ { call with stage := .queued ahead } :: after }

/-- A call arrives at the end of the lane, if its document is tracked. -/
def arrived : Sight :=
  if base.filter.tracks call.doc then
    queued base { sight with lane := true } before after call ((before ++ after).countP (·.stands))
  else
    { sight with
      calls := before ++ after
      results := sight.results ++ [(call.caller, .forwarded (.ok false))] }

/-- A chance of a call. -/
def go : Sight :=
  match call.stage with
  | .arriving => sight.arrived base before after call
  | .queued ahead => sight.queued base before after call ahead
  | .calling ahead => sight.called base before after call ahead false

/-- The engine's answer to a call. -/
def answer : Sight :=
  match call.stage with
  | .calling ahead => sight.called base before after call ahead true
  | _ => sight

/-- A call is given up. -/
def cancel : Sight :=
  match call.stage with
  | .arriving => { sight with calls := before ++ after }
  | .queued ahead | .calling ahead => { sight with calls := (before ++ after).map (·.moveUp ahead) }

/-- What a step that concerns the document does to what is seen of it. -/
def step : SharedStep → Sight
  | .opened number doc | .changed number doc =>
    { sight with calls := sight.calls ++ [⟨number, doc, false, .arriving⟩] }
  | .closed number doc => { sight with calls := sight.calls ++ [⟨number, doc, true, .arriving⟩] }
  | .configure .. => sight
  | .go caller =>
    match split? (·.caller = caller) sight.calls with
    | none => sight
    | some (before, call, after) => sight.go base before after call
  | .answer caller =>
    match split? (·.caller = caller) sight.calls with
    | none => sight
    | some (before, call, after) => sight.answer base before after call
  | .cancel caller =>
    match split? (·.caller = caller) sight.calls with
    | none => sight
    | some (before, call, after) => sight.cancel before after call
  | .refuse refusals => { sight with refusals }
  | .dispose => { sight with disposed := true }

end Sight

/-- How many places of a document have an earlier turn. -/
def ahead (places : List Place) (uri : Uri) (turn : TurnId) : Nat :=
  places.countP fun place => place.uri = uri ∧ place.turn < turn

/-- What is seen of a forwarding among some places. -/
def Forwarding.seen (places : List Place) (number : Nat) (forwarding : Forwarding) : SeenCall where
  number := number
  doc := forwarding.doc
  closes := forwarding.closes
  stage := match forwarding.stage with
    | .arriving => .arriving
    | .queued _ turn => .queued (ahead places forwarding.doc.uri turn)
    | .calling _ turn _ => .calling (ahead places forwarding.doc.uri turn)

/-- What is seen of a call when one looks at a document. -/
def SharedCall.seen? (uri : Uri) (places : List Place) : SharedCall → Option SeenCall
  | .forward number forwarding =>
    if forwarding.doc.uri = uri then some (forwarding.seen places number) else none
  | .configure .. => none

namespace Shared

/-- The places of the calls under way. -/
def places (shared : Shared) : List Place :=
  shared.calls.filterMap SharedCall.place?

/-- What is seen of a document. -/
def look (uri : Uri) (shared : Shared) : Sight where
  calls := shared.calls.filterMap (SharedCall.seen? uri shared.places)
  lane := (shared.sync.lanes.laneOf? uri).isSome
  disposed := shared.sync.engine.isDisposed shared.sync.session
  refusals := shared.sync.engine.refusals
  recorded := shared.sync.engine.callsAbout uri
  completed := shared.completed.filter (·.1.subject = .document uri)
  results := shared.results.filter (·.1.subject = .document uri)

/-- Everything is as it should be: the lanes hold the places of the calls, the engine has the
requests of the calls, and what never changes is as it was at the start. -/
structure Calm (base : Sync) (answered : Option TicketId) (shared : Shared) : Prop where
  session : shared.sync.session = base.session
  filter : shared.sync.filter = base.filter
  gated : shared.sync.engine.gated = base.engine.gated
  defects : shared.sync.engine.defects = base.engine.defects
  there : base.session < shared.sync.engine.sessions.length
  lanes : shared.sync.lanes.Sound shared.places
  engine : shared.sync.engine.Calm base.session answered shared.calls

end Shared

/-! ## Who is ahead -/

section
variable {places places' : List Place} {place : Place} {uri : Uri} {turn : TurnId}
  {call : SharedCall} {calls : List SharedCall}

theorem ahead_cons : ahead (place :: places) uri turn =
    ahead places uri turn + if place.uri = uri ∧ place.turn < turn then 1 else 0 := by
  simp [ahead, List.countP_cons]

theorem ahead_perm (same : places.Perm places') : ahead places uri turn = ahead places' uri turn :=
  same.countP_eq _

theorem ahead_mono {turn' : TurnId} (le : turn ≤ turn') :
    ahead places uri turn ≤ ahead places uri turn' :=
  List.countP_mono_left fun place _ own => by
    simp only [decide_eq_true_eq] at own ⊢
    exact ⟨own.1, Nat.lt_of_lt_of_le own.2 le⟩

/-- Whoever has nobody ahead holds the lane. -/
theorem Lanes.Sound.holds_iff_ahead {lanes : Lanes} (h : lanes.Sound (place :: places)) :
    lanes.holds place.lane place.turn = true ↔ ahead (place :: places) place.uri place.turn = 0 := by
  have turns := (List.nodup_cons.mp h.turns).1
  rw [h.holds_iff, ahead_cons]
  simp only [Nat.lt_irrefl, and_false, if_false, Nat.add_zero, ahead, List.countP_eq_zero,
    decide_eq_true_eq, not_and, Nat.not_lt]
  refine forall₂_congr fun other mem => forall_congr' fun _ => ?_
  have ne : place.turn ≠ other.turn := fun same => turns (List.mem_map.mpr ⟨other, mem, same.symm⟩)
  exact ⟨Nat.le_of_lt, fun le => Nat.lt_of_le_of_ne le ne⟩

theorem SharedCall.seen?_perm (same : places.Perm places') :
    call.seen? uri places = call.seen? uri places' := by
  cases call with
  | forward number forwarding => simp only [seen?, Forwarding.seen, ahead_perm same]
  | configure => rfl

/-- A place makes no difference to those who are not behind it. -/
theorem SharedCall.seen?_cons (front : ∀ own ∈ call.place?, own.uri = uri →
    ¬(place.uri = uri ∧ place.turn < own.turn)) :
    call.seen? uri (place :: places) = call.seen? uri places := by
  cases call with
  | forward number forwarding =>
    by_cases own : forwarding.doc.uri = uri
    · simp only [seen?, Forwarding.seen]
      cases stage : forwarding.stage with
      | arriving => rfl
      | queued lane turn | calling lane turn ticket =>
        have apart := front ⟨forwarding.doc.uri, lane, turn⟩
          (by simp [place?, Forwarding.place?, stage]) own
        simp only [ahead_cons, own, apart, if_false, Nat.add_zero]
    · simp only [seen?, own, if_false]
  | configure => rfl

/-- When a place is given up, those behind it move up. -/
theorem SharedCall.moveUp_seen? (own : place.uri = uri) :
    (call.seen? uri (place :: places)).map
        (SeenCall.moveUp (ahead (place :: places) uri place.turn)) =
      call.seen? uri places := by
  have up (turn : TurnId) : (if ahead (place :: places) uri place.turn <
      ahead (place :: places) uri turn then ahead (place :: places) uri turn - 1
      else ahead (place :: places) uri turn) = ahead places uri turn := by
    simp only [ahead_cons, own, true_and, Nat.lt_irrefl, if_false, Nat.add_zero]
    by_cases behind : place.turn < turn
    · have le := @ahead_mono places uri place.turn turn (Nat.le_of_lt behind)
      simp only [behind, if_true]
      rw [if_pos (by omega)]
      omega
    · have le := @ahead_mono places uri turn place.turn (Nat.le_of_not_lt behind)
      simp only [behind, if_false, Nat.add_zero]
      rw [if_neg (by omega)]
  cases call with
  | forward number forwarding =>
    by_cases same : forwarding.doc.uri = uri
    · simp only [seen?, same, if_true, Option.map_some, Forwarding.seen, SeenCall.moveUp]
      cases forwarding.stage <;> simp only [up]
    · simp only [seen?, same, if_false, Option.map_none]
  | configure => rfl

theorem Forwarding.stands_seen (forwarding : Forwarding) (places : List Place) (number : Nat) :
    (forwarding.seen places number).stands = forwarding.place?.isSome := by
  unfold seen SeenCall.stands place?
  cases forwarding.stage <;> rfl

theorem Forwarding.uri_of_place? {forwarding : Forwarding} {place : Place}
    (own : forwarding.place? = some place) : place.uri = forwarding.doc.uri := by
  unfold place? at own
  cases stage : forwarding.stage <;> rw [stage] at own <;> cases own <;> rfl

/-- Those that stand in the lane are those that have a place of the document. -/
theorem countP_stands (uri : Uri) (places : List Place) (calls : List SharedCall) :
    (calls.filterMap (SharedCall.seen? uri places)).countP (·.stands) =
      (calls.filterMap SharedCall.place?).countP (·.uri = uri) := by
  induction calls with
  | nil => rfl
  | cons call rest ih =>
    cases call with
    | configure => exact ih
    | forward number forwarding =>
      simp only [List.filterMap_cons, SharedCall.seen?, SharedCall.place?]
      have stands := forwarding.stands_seen places number
      cases own : forwarding.place? with
      | none =>
        rw [own] at stands
        by_cases same : forwarding.doc.uri = uri <;> simp only [same, if_true, if_false]
        · rw [List.countP_cons_of_neg (by simp [stands]), ih]
        · exact ih
      | some place =>
        rw [own] at stands
        have about := Forwarding.uri_of_place? own
        by_cases same : forwarding.doc.uri = uri <;> simp only [same, if_true, if_false]
        · rw [List.countP_cons_of_pos stands, List.countP_cons_of_pos (by simp [about, same]), ih]
        · rw [List.countP_cons_of_neg (by simp [about, same])]
          exact ih

/-- Nobody stands in the lane of a document that has no place. -/
theorem all_not_stands (uri : Uri) (places : List Place) (calls : List SharedCall) :
    (calls.filterMap (SharedCall.seen? uri places)).all (!·.stands) =
      (calls.filterMap SharedCall.place?).all (·.uri ≠ uri) := by
  have same := countP_stands uri places calls
  rw [Bool.eq_iff_iff, List.all_eq_true, List.all_eq_true]
  simp only [Bool.not_eq_true', decide_eq_true_eq]
  constructor
  · intro none place mem own
    have zero : (calls.filterMap (SharedCall.seen? uri places)).countP (·.stands) = 0 :=
      List.countP_eq_zero.mpr fun call there => by simp [none call there]
    rw [zero] at same
    have free := List.countP_eq_zero.mp same.symm place mem
    simp [own] at free
  · intro none call mem
    have zero : (calls.filterMap SharedCall.place?).countP (·.uri = uri) = 0 :=
      List.countP_eq_zero.mpr fun place there => by simp [none place there]
    rw [zero] at same
    simpa using List.countP_eq_zero.mp same call mem

end

/-! ## Whether a document has a lane -/

namespace Lanes
variable {lanes : Lanes} {places : List Place} {place : Place}

theorem isSome_enter (lanes : Lanes) (uri uri' : Uri) :
    ((lanes.enter uri).1.laneOf? uri').isSome =
      (decide (uri = uri') || (lanes.laneOf? uri').isSome) := by
  have table : (lanes.enter uri).1.laneOf? uri' = (lanes.obtain uri).1.laneOf? uri' := rfl
  rw [table, obtain]
  cases found : lanes.laneOf? uri with
  | some id =>
    by_cases same : uri = uri'
    · subst same
      simp [found]
    · simp [same]
  | none =>
    simp only [laneOf?, List.lookup_append, List.lookup_cons, List.lookup_nil]
    by_cases same : uri = uri'
    · subst same
      simp
    · have other : (uri' == uri) = false := beq_eq_false_iff_ne.mpr (Ne.symm same)
      simp [same, other]

/-- A lane goes when its document is closed and nobody else is in it. -/
theorem Sound.isSome_retire (h : lanes.Sound (place :: places)) (uri : Uri) :
    (((lanes.leave place.lane place.turn).retire place.uri place.lane).laneOf? uri).isSome =
      ((lanes.laneOf? uri).isSome &&
        !(decide (place.uri = uri) && places.all (·.uri ≠ place.uri))) := by
  obtain ⟨lane, there, number⟩ := h.exists_lane
  have left : (lanes.leave place.lane place.turn).find? place.lane =
      some { lane with queue := lane.queue.filter (· ≠ place.turn) } := by
    have found := @find?_update lanes place.lane
      (fun lane => { lane with queue := lane.queue.filter (· ≠ place.turn) }) fun _ => rfl
    rwa [← number, h.find?_eq there, number] at found
  have own : (lanes.leave place.lane place.turn).laneOf? place.uri = some place.lane :=
    h.at_lane place List.mem_cons_self
  have alone : lane.references = 1 ↔ places.all (·.uri ≠ place.uri) = true := by
    rw [(h.records lane there).references, List.countP_cons_of_pos (by simp [number]),
      Nat.add_eq_right, List.countP_eq_zero, List.all_eq_true]
    refine forall₂_congr fun other mem => ?_
    have shared := h.lane_eq_iff (List.mem_cons_of_mem _ mem) List.mem_cons_self
    simp only [decide_eq_true_eq, number, ne_eq, shared]
  simp only [retire, left, own, decide_true, Bool.true_and, decide_eq_true_eq]
  by_cases last : lane.references = 1
  · rw [if_pos last, alone.mp last, laneOf?, lookup_filter]
    by_cases same : uri = place.uri
    · simp [same]
    · have other : ¬place.uri = uri := fun eq => same eq.symm
      simp only [same, if_false, other, decide_false, Bool.not_false, Bool.and_true]
      rfl
  · have some : places.all (·.uri ≠ place.uri) = false := by
      rw [← Bool.not_eq_true, ← alone]
      exact last
    rw [if_neg last, some]
    simp only [Bool.and_false, Bool.not_false, Bool.and_true]
    rfl

end Lanes

theorem Sync.isSome_depart {sync : Sync} {forwarding : Forwarding} {lane : LaneId} {turn : TurnId}
    {places : List Place} (h : sync.lanes.Sound (⟨forwarding.doc.uri, lane, turn⟩ :: places))
    (uri : Uri) : ((sync.depart forwarding lane turn).lanes.laneOf? uri).isSome =
      ((sync.lanes.laneOf? uri).isSome && !(forwarding.closes &&
        (decide (forwarding.doc.uri = uri) && places.all (·.uri ≠ forwarding.doc.uri)))) := by
  have retired := h.isSome_retire uri
  unfold depart
  cases closes : forwarding.closes with
  | true =>
    simp only [if_true, Bool.true_and]
    exact retired
  | false => simp [Lanes.unreference, Lanes.leave, Lanes.update, Lanes.laneOf?]

/-! ## Whoever leaves -/

namespace Shared
variable {base : Sync} {shared : Shared} {before after : List SharedCall} {call : SharedCall}
  {number : Nat} {forwarding : Forwarding} {lane : LaneId} {turn : TurnId} {place : Place}

/-- The engine, with the request of one call in front. -/
theorem Calm.engine_front {answered : Option TicketId} (h : shared.Calm base answered)
    (split : shared.calls = before ++ call :: after) :
    shared.sync.engine.Calm base.session answered (call :: (before ++ after)) :=
  h.engine.perm (split ▸ List.perm_middle)

theorem places_perm (split : shared.calls = before ++ call :: after)
    (own : call.place? = some place) :
    shared.places.Perm (place :: (before ++ after).filterMap SharedCall.place?) := by
  rw [places, split, List.filterMap_append, List.filterMap_cons_some own, List.filterMap_append]
  exact List.perm_middle

theorem places_none (split : shared.calls = before ++ call :: after) (none : call.place? = none) :
    shared.places = (before ++ after).filterMap SharedCall.place? := by
  rw [places, split, List.filterMap_append, List.filterMap_cons_none none, List.filterMap_append]

/-- The calls of a document when one of its calls is among them. -/
theorem calls_look (split : shared.calls = before ++ .forward number forwarding :: after)
    (uri : Uri) (places : List Place) : shared.calls.filterMap (SharedCall.seen? uri places) =
      before.filterMap (SharedCall.seen? uri places) ++
        (if forwarding.doc.uri = uri then [forwarding.seen places number] else []) ++
        after.filterMap (SharedCall.seen? uri places) := by
  rw [split, List.filterMap_append, List.filterMap_cons, List.append_assoc]
  by_cases same : forwarding.doc.uri = uri <;> simp [SharedCall.seen?, same]

/-- The others, when a place is given up. -/
theorem others_look (perm : shared.places.Perm (place :: (before ++ after).filterMap
      SharedCall.place?)) (uri : Uri) :
    (before ++ after).filterMap (SharedCall.seen? uri
        ((before ++ after).filterMap SharedCall.place?)) =
      if place.uri = uri then
        (before.filterMap (SharedCall.seen? uri shared.places) ++
          after.filterMap (SharedCall.seen? uri shared.places)).map
            (·.moveUp (ahead shared.places uri place.turn))
      else before.filterMap (SharedCall.seen? uri shared.places) ++
        after.filterMap (SharedCall.seen? uri shared.places) := by
  rw [← List.filterMap_append]
  split
  · rename_i own
    rw [List.map_filterMap]
    refine List.filterMap_congr fun call _ => ?_
    rw [ahead_perm perm, call.seen?_perm perm, call.moveUp_seen? own]
  · rename_i other
    refine List.filterMap_congr fun call _ => ?_
    rw [call.seen?_perm perm, call.seen?_cons fun _ _ _ => fun both => other both.1]

/-- What is seen when a call leaves the lane with its result. -/
theorem look_depart (h : shared.sync.lanes.Sound shared.places)
    (split : shared.calls = before ++ .forward number forwarding :: after)
    (own : forwarding.place? = some ⟨forwarding.doc.uri, lane, turn⟩) {sync : Sync}
    (lanes : sync.lanes = shared.sync.lanes) (session : sync.session = shared.sync.session)
    (calls : sync.engine.calls = shared.sync.engine.calls)
    (sessions : sync.engine.sessions = shared.sync.engine.sessions)
    (refusals : sync.engine.refusals = shared.sync.engine.refusals) (keys : List String)
    (result : ForwardingResult) (uri : Uri) :
    let caller : Caller := ⟨.document forwarding.doc.uri, number⟩
    look uri ⟨sync.depart forwarding lane turn, before ++ after,
        shared.completed ++ keys.map (caller, ·),
        shared.results ++ [(caller, .forwarded result)]⟩ =
      if forwarding.doc.uri = uri then
        Sight.ends { shared.look uri with
            completed := (shared.look uri).completed ++ keys.map (caller, ·) }
          (before.filterMap (SharedCall.seen? uri shared.places))
          (after.filterMap (SharedCall.seen? uri shared.places))
          (forwarding.seen shared.places number) (ahead shared.places forwarding.doc.uri turn)
          result
      else shared.look uri := by
  intro caller
  have perm := places_perm split own
  have there : sync.lanes.Sound (⟨forwarding.doc.uri, lane, turn⟩ ::
      (before ++ after).filterMap SharedCall.place?) := by
    rw [lanes]
    exact h.perm perm
  have gone := sync.isSome_depart there uri
  have others := others_look perm uri
  have disposed : (sync.depart forwarding lane turn).engine.isDisposed
      (sync.depart forwarding lane turn).session =
        shared.sync.engine.isDisposed shared.sync.session := by
    show sync.engine.isDisposed sync.session = _
    rw [Engine.isDisposed, sessions, session]
    rfl
  have recorded : (sync.depart forwarding lane turn).engine.callsAbout uri =
      shared.sync.engine.callsAbout uri := by
    show sync.engine.callsAbout uri = _
    rw [Engine.callsAbout, calls]
    rfl
  have kept : (sync.depart forwarding lane turn).engine.refusals =
      shared.sync.engine.refusals := refusals
  rw [lanes] at gone
  by_cases same : forwarding.doc.uri = uri
  · subst same
    rw [if_pos rfl] at others
    have nobody : ((before ++ after).filterMap SharedCall.place?).all
        (·.uri ≠ forwarding.doc.uri) =
        (before.filterMap (SharedCall.seen? forwarding.doc.uri shared.places) ++
          after.filterMap (SharedCall.seen? forwarding.doc.uri shared.places)).all
            (!·.stands) := by
      rw [← List.filterMap_append, all_not_stands]
    rw [if_pos rfl]
    simp only [look, Sight.ends, places, gone, others, disposed, recorded, kept, nobody,
      decide_true, Bool.true_and, List.filter_append, Sight.mk.injEq, true_and]
    refine ⟨rfl, ?_, ?_⟩
    · simp [caller]
    · simp [caller, SeenCall.caller, Forwarding.seen]
  · rw [if_neg same] at others ⊢
    have nothing : ¬caller.subject = .document uri := fun eq => same (Subject.document.inj eq)
    have calls := calls_look split uri shared.places
    rw [if_neg same, List.append_nil] at calls
    simp only [look, places, gone, others, disposed, recorded, kept, decide_eq_false same,
      Bool.false_and, Bool.and_false, Bool.not_false, Bool.and_true, List.filter_append,
      Sight.mk.injEq, true_and]
    refine ⟨calls.symm, ?_, ?_⟩
    · simp [nothing]
    · simp [nothing]

end Shared
end EngineSync
