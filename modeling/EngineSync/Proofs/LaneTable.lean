import EngineSync.Proofs.LaneSafety
import EngineSync.Proofs.Sight

/-!
# Lanes do not leak

A lane is made when a forwarding arrives and goes when a close leaves it that refers to it alone.
References only count who is in a lane; they say nothing of what was asked first or last.
`Lanes.Listed` puts both together: a document has a lane exactly when somebody is in it or the
latest forwarding that reached it was an update.  As long as nobody is given up, every step keeps
this, because whoever leaves was there first: the latest that arrived is among those who stay, or
nobody stays.
-/
namespace EngineSync

/-- A forwarding that has reached the lane of its document. -/
structure Arrival where
  uri : Uri
  closes : Bool
deriving DecidableEq, Repr

/-- Whether a call closes its document; a replay only updates. -/
def SyncCall.closes : SyncCall → Bool
  | .forward forwarding => forwarding.closes
  | .replay _ => false

/-- The arrivals among some moves of a call. -/
def arrivalsIn (closes : Bool) (moves : List LaneMove) : List Arrival :=
  (moves.filter (·.step.isReached)).map fun move => ⟨move.uri, closes⟩

/-- The arrivals of a call that gets the chance to go on. -/
def Sync.arrivals (sync : Sync) (call : SyncCall) : List Arrival :=
  arrivalsIn call.closes (sync.callMoves call)

/-- Whether the latest forwarding that reached the lane of a document was a close. -/
def latestArrival (history : List Arrival) (uri : Uri) : Option Bool :=
  ((history.filter (·.uri = uri)).getLast?).map (·.closes)

/-- The documents that have a lane. -/
def Lanes.documents (lanes : Lanes) : List Uri :=
  lanes.table.map (·.1)

theorem arrivalsIn_append (closes : Bool) (moves more : List LaneMove) :
    arrivalsIn closes (moves ++ more) = arrivalsIn closes moves ++ arrivalsIn closes more := by
  simp [arrivalsIn]

theorem latestArrival_own (history : List Arrival) (arrival : Arrival) :
    latestArrival (history ++ [arrival]) arrival.uri = some arrival.closes := by
  simp [latestArrival]

theorem latestArrival_other (history : List Arrival) {arrival : Arrival} {uri : Uri}
    (other : arrival.uri ≠ uri) :
    latestArrival (history ++ [arrival]) uri = latestArrival history uri := by
  simp [latestArrival, other]

/-! ## The documents of the table -/

namespace Lanes
variable {lanes : Lanes}

theorem mem_documents {uri : Uri} : uri ∈ lanes.documents ↔ (lanes.laneOf? uri).isSome := by
  unfold documents laneOf?
  induction lanes.table with
  | nil => simp
  | cons entry rest ih =>
    obtain ⟨first, lane⟩ := entry
    by_cases same : uri = first
    · simp [same]
    · simp only [List.map_cons, List.mem_cons, same, false_or, List.lookup_cons,
        beq_eq_false_iff_ne.mpr same]
      exact ih

theorem nodup_enter (single : lanes.documents.Nodup) (uri : Uri) :
    (lanes.enter uri).1.documents.Nodup := by
  have table : (lanes.enter uri).1.documents = (lanes.obtain uri).1.documents := rfl
  rw [table, obtain]
  cases found : lanes.laneOf? uri with
  | some id => exact single
  | none =>
    have absent : uri ∉ lanes.documents := by simp [mem_documents, found]
    have grown : (lanes.table ++ [(uri, lanes.nextLane)]).map (·.1) = lanes.documents ++ [uri] := by
      simp [documents]
    show ((lanes.table ++ [(uri, lanes.nextLane)]).map (·.1)).Nodup
    rw [grown]
    exact List.nodup_append.mpr ⟨single, List.nodup_singleton uri,
      fun old mem new last same => absent (List.mem_singleton.mp last ▸ same ▸ mem)⟩

theorem nodup_retire (single : lanes.documents.Nodup) (uri : Uri) (id : LaneId) :
    (lanes.retire uri id).documents.Nodup := by
  unfold retire
  cases lanes.find? id with
  | none => exact single
  | some lane =>
    dsimp only
    split
    · exact single.sublist (List.filter_sublist.map _)
    · exact single

end Lanes

theorem Sync.nodup_depart {sync : Sync} {forwarding : Forwarding} {lane : LaneId} {turn : TurnId}
    (single : sync.lanes.documents.Nodup) :
    (sync.depart forwarding lane turn).lanes.documents.Nodup := by
  have left : (sync.lanes.leave lane turn).documents.Nodup := single
  unfold depart
  dsimp only
  split
  · exact Lanes.nodup_retire left forwarding.doc.uri lane
  · exact left

/-! ## Who is in a lane and who came last -/

/-- A document has a place in a lane when a forwarding of it has reached one. -/
theorem exists_place_iff {forwardings : List Forwarding} {uri : Uri} :
    (∃ p ∈ placesOf forwardings, p.uri = uri) ↔
      ∃ f ∈ forwardings, f.stage ≠ .arriving ∧ f.doc.uri = uri := by
  constructor
  · rintro ⟨p, hp, about⟩
    obtain ⟨f, hf, own⟩ := mem_placesOf.mp hp
    refine ⟨f, hf, ?_, (Forwarding.uri_of_place? own).symm.trans about⟩
    intro arriving
    simp [Forwarding.place?, arriving] at own
  · rintro ⟨f, hf, stands, about⟩
    cases own : f.place? with
    | none => cases stage : f.stage <;> simp_all [Forwarding.place?]
    | some p =>
      exact ⟨p, mem_placesOf.mpr ⟨f, hf, own⟩, (Forwarding.uri_of_place? own).trans about⟩

/-- The lanes with the forwardings that are under way and the arrivals so far: whoever the engine
has a call of was there first (`first`), the latest arrival of a document is that of the last who is
in its lane (`latest`), and a document has a lane if and only if somebody is in it or the latest that
arrived was an update (`listed`). -/
structure Lanes.Listed (lanes : Lanes) (history : List Arrival) (forwardings : List Forwarding) :
    Prop where
  sound : lanes.Sound (placesOf forwardings)
  single : lanes.documents.Nodup
  first : ∀ f ∈ forwardings, f.isCalling = true → ∀ p, f.place? = some p →
    ∀ q ∈ placesOf forwardings, q.uri = p.uri → p.turn ≤ q.turn
  latest : ∀ f ∈ forwardings, ∀ p, f.place? = some p →
    (∀ q ∈ placesOf forwardings, q.uri = p.uri → q.turn ≤ p.turn) →
      latestArrival history p.uri = some f.closes
  listed : ∀ uri, (lanes.laneOf? uri).isSome = true ↔
    (∃ p ∈ placesOf forwardings, p.uri = uri) ∨ latestArrival history uri = some false

namespace Lanes.Listed
variable {lanes : Lanes} {sync after : Sync} {history : List Arrival} {f : Forwarding}
  {fs fs' : List Forwarding} {lane : LaneId} {turn : TurnId}

theorem start : Lanes.empty.Listed [] [] where
  sound := sound_empty
  single := List.nodup_nil
  first := nofun
  latest := nofun
  listed uri := by simp [empty, laneOf?, placesOf, latestArrival]

theorem perm (h : lanes.Listed history fs) (same : fs.Perm fs') : lanes.Listed history fs' := by
  have places : ∀ p, p ∈ placesOf fs' ↔ p ∈ placesOf fs := fun p => (same.filterMap _).mem_iff.symm
  refine ⟨h.sound.perm (same.filterMap _), h.single, ?_, ?_, ?_⟩
  · intro f hf calling p own q hq
    exact h.first f (same.mem_iff.mpr hf) calling p own q ((places q).mp hq)
  · intro f hf p own youngest
    refine h.latest f (same.mem_iff.mpr hf) p own ?_
    intro q hq
    exact youngest q ((places q).mpr hq)
  · intro uri
    simp only [places, h.listed uri]

/-- A forwarding that has not run is in no lane. -/
theorem arriving_iff (arriving : f.stage = .arriving) :
    lanes.Listed history (f :: fs) ↔ lanes.Listed history fs := by
  have no_place : f.place? = none := by simp [Forwarding.place?, arriving]
  have places := placesOf_cons_none no_place fs
  constructor
  · intro h
    refine ⟨places ▸ h.sound, h.single, ?_, ?_, places ▸ h.listed⟩
    · intro g hg
      exact places ▸ h.first g (List.mem_cons_of_mem _ hg)
    · intro g hg
      exact places ▸ h.latest g (List.mem_cons_of_mem _ hg)
  · intro h
    refine ⟨places.symm ▸ h.sound, h.single, ?_, ?_, places.symm ▸ h.listed⟩
    · intro g hg calling p own
      rcases List.mem_cons.mp hg with rfl | hg
      · rw [no_place] at own
        cases own
      · exact places.symm ▸ h.first g hg calling p own
    · intro g hg p own
      rcases List.mem_cons.mp hg with rfl | hg
      · rw [no_place] at own
        cases own
      · exact places.symm ▸ h.latest g hg p own

/-- A forwarding reaches its lane: nobody there came later. -/
theorem reach (h : lanes.Listed history fs) (f : Forwarding) :
    (lanes.enter f.doc.uri).1.Listed (history ++ [⟨f.doc.uri, f.closes⟩])
      ({ f with stage := .queued (lanes.enter f.doc.uri).2.1 lanes.nextTurn } :: fs) := by
  have own : ({ f with stage := .queued (lanes.enter f.doc.uri).2.1 lanes.nextTurn } :
      Forwarding).place? = some ⟨f.doc.uri, (lanes.enter f.doc.uri).2.1, lanes.nextTurn⟩ := rfl
  have places := placesOf_cons_some own fs
  have older : ∀ p ∈ placesOf fs, p.turn < lanes.nextTurn := h.sound.turn_lt
  refine ⟨?_, nodup_enter h.single f.doc.uri, ?_, ?_, ?_⟩
  · rw [places]
    exact h.sound.enter f.doc.uri
  · intro g hg calling p own' q hq same
    rcases List.mem_cons.mp hg with rfl | hg
    · cases calling
    · have before := older p (mem_placesOf.mpr ⟨g, hg, own'⟩)
      rw [places] at hq
      rcases List.mem_cons.mp hq with rfl | hq
      · exact Nat.le_of_lt before
      · exact h.first g hg calling p own' q hq same
  · intro g hg p own' youngest
    rcases List.mem_cons.mp hg with rfl | hg
    · cases own'
      exact latestArrival_own history ⟨f.doc.uri, f.closes⟩
    · -- somebody older is the last of his document only if the newcomer is of another one
      have before := older p (mem_placesOf.mpr ⟨g, hg, own'⟩)
      rw [places] at youngest
      have other : f.doc.uri ≠ p.uri := by
        intro same
        have late : lanes.nextTurn ≤ p.turn := youngest _ List.mem_cons_self same
        exact Nat.not_lt_of_le late before
      rw [latestArrival_other history other]
      refine h.latest g hg p own' ?_
      intro q hq
      exact youngest q (List.mem_cons_of_mem _ hq)
  · intro uri
    rw [isSome_enter, places]
    by_cases same : f.doc.uri = uri
    · simp [same]
    · rw [latestArrival_other history same]
      simp [same, h.listed uri]

/-- The engine gets the call of a forwarding that holds its lane, which is then the first in it. -/
theorem issue (h : lanes.Listed history (f :: fs)) (queued : f.stage = .queued lane turn)
    (holds : lanes.holds lane turn = true) (ticket : TicketId) :
    lanes.Listed history ({ f with stage := .calling lane turn ticket } :: fs) := by
  have own : f.place? = some ⟨f.doc.uri, lane, turn⟩ := by simp [Forwarding.place?, queued]
  have sound := h.sound
  rw [placesOf_cons_some own] at sound
  have ahead := sound.holds_iff.mp holds
  have places : placesOf ({ f with stage := .calling lane turn ticket } :: fs) =
      placesOf (f :: fs) := by
    rw [placesOf_cons_some own, placesOf_cons_some]
    rfl
  refine ⟨places ▸ h.sound, h.single, ?_, ?_, places ▸ h.listed⟩
  · intro g hg calling p own' q hq same
    rw [places] at hq
    rcases List.mem_cons.mp hg with rfl | hg
    · cases own'
      rw [placesOf_cons_some own] at hq
      rcases List.mem_cons.mp hq with rfl | hq
      · exact Nat.le_refl _
      · exact Nat.le_of_lt (ahead q hq same)
    · exact h.first g (List.mem_cons_of_mem _ hg) calling p own' q hq same
  · intro g hg p own' youngest
    rw [places] at youngest
    rcases List.mem_cons.mp hg with rfl | hg
    · cases own'
      exact h.latest f List.mem_cons_self _ own youngest
    · exact h.latest g (List.mem_cons_of_mem _ hg) p own' youngest

/-- The first in a lane leaves it: if others stay, so does the lane, and otherwise it was the last
that arrived. -/
theorem leave (h : sync.lanes.Listed history (f :: fs))
    (own : f.place? = some ⟨f.doc.uri, lane, turn⟩)
    (ahead : ∀ q ∈ placesOf fs, q.uri = f.doc.uri → turn ≤ q.turn) :
    (sync.depart f lane turn).lanes.Listed history fs := by
  have places := placesOf_cons_some own fs
  have sound := h.sound
  rw [places] at sound
  refine ⟨Sync.depart_sound sound, Sync.nodup_depart h.single, ?_, ?_, ?_⟩
  · intro g hg calling p own' q hq
    exact h.first g (List.mem_cons_of_mem _ hg) calling p own' q (places ▸ List.mem_cons_of_mem _ hq)
  · intro g hg p own' youngest
    refine h.latest g (List.mem_cons_of_mem _ hg) p own' ?_
    intro q hq same
    rw [places] at hq
    rcases List.mem_cons.mp hq with rfl | hq
    · exact ahead p (mem_placesOf.mpr ⟨g, hg, own'⟩) same.symm
    · exact youngest q hq same
  · intro uri
    have before := h.listed uri
    rw [places] at before
    rw [Sync.isSome_depart sound uri]
    by_cases same : f.doc.uri = uri
    · subst same
      have there : (sync.lanes.laneOf? f.doc.uri).isSome = true :=
        before.mpr (.inl ⟨_, List.mem_cons_self, rfl⟩)
      by_cases alone : ∀ q ∈ placesOf fs, q.uri ≠ f.doc.uri
      · have last : latestArrival history f.doc.uri = some f.closes := by
          refine h.latest f List.mem_cons_self _ own ?_
          intro q hq about
          rw [places] at hq
          rcases List.mem_cons.mp hq with rfl | hq
          · exact Nat.le_refl _
          · exact absurd about (alone q hq)
        have nobody : ¬∃ p ∈ placesOf fs, p.uri = f.doc.uri := by
          rintro ⟨p, hp, about⟩
          exact alone p hp about
        simp [there, last, nobody]
      · have somebody : ∃ p ∈ placesOf fs, p.uri = f.doc.uri := by
          simpa only [ne_eq, not_forall, not_not, exists_prop] using alone
        simp [there, somebody]
    · simpa [same] using before

/-- One step of a forwarding. -/
theorem hop {moves : List LaneMove} {progress : Progress Forwarding ForwardingResult}
    (h : sync.lanes.Listed history (f :: fs)) (hop : Sync.Hop sync f moves after progress) :
    after.lanes.Listed (history ++ arrivalsIn f.closes moves) (progress.rest ++ fs) := by
  cases hop with
  | skip arriving untracked =>
    have gone := (arriving_iff arriving).mp h
    have silent : history ++ arrivalsIn f.closes [] = history := List.append_nil history
    rw [silent]
    split
    · exact gone
    · exact gone
  | @reach lanes lane turn arriving tracked entered =>
    have reached := ((arriving_iff arriving).mp h).reach f
    have turn_eq : turn = sync.lanes.nextTurn := by
      simpa [entered] using Lanes.enter_turn sync.lanes f.doc.uri
    rw [entered, ← turn_eq] at reached
    exact reached
  | @refuse lane turn queued holds disposed =>
    have own : f.place? = some ⟨f.doc.uri, lane, turn⟩ := by simp [Forwarding.place?, queued]
    have sound := h.sound
    rw [placesOf_cons_some own] at sound
    have silent : history ++ arrivalsIn f.closes [⟨f.doc.uri, turn, .ended (.error .disposed)⟩] =
        history := List.append_nil history
    rw [silent]
    show (Sync.depart (sync.log _) f lane turn).lanes.Listed history fs
    refine leave h own ?_
    intro q hq same
    exact Nat.le_of_lt (sound.holds_iff.mp holds q hq same)
  | @issue lane turn queued holds open' =>
    have silent : history ++ arrivalsIn f.closes [⟨f.doc.uri, turn, .issued f.request⟩] =
        history := List.append_nil history
    rw [silent]
    exact h.issue queued holds _
  | @collect lane turn ticket engine answer calling collected =>
    have own : f.place? = some ⟨f.doc.uri, lane, turn⟩ := by simp [Forwarding.place?, calling]
    have silent : history ++ arrivalsIn f.closes
        [⟨f.doc.uri, turn, .ended (answer.map fun _ => true)⟩] = history := List.append_nil history
    rw [silent]
    show (Sync.depart { sync with engine } f lane turn).lanes.Listed history fs
    refine leave h own ?_
    intro q hq same
    have called : f.isCalling = true := by simp [Forwarding.isCalling, calling]
    refine h.first f List.mem_cons_self called _ own q ?_ same
    exact placesOf_cons_some own fs ▸ List.mem_cons_of_mem _ hq

theorem poll (h : sync.lanes.Listed history (f :: fs)) :
    (sync.poll f).1.lanes.Listed (history ++ arrivalsIn f.closes (sync.moves f))
        ((sync.poll f).2.rest ++ fs) ∧
      ∀ g ∈ (sync.poll f).2.rest, g.closes = f.closes := by
  have start : sync.lanes.Listed (history ++ arrivalsIn f.closes []) ([f] ++ fs) ∧
      ∀ g ∈ [f], g.closes = f.closes := ⟨by simpa [arrivalsIn] using h, by simp⟩
  have chain := (sync.poll_hops f).keeps (fun sync gs moves =>
    sync.lanes.Listed (history ++ arrivalsIn f.closes moves) (gs ++ fs) ∧
      ∀ g ∈ gs, g.closes = f.closes) ?_ start
  · simpa using chain
  · rintro between g moves after progress told ⟨listed, same⟩ hop
    have closes : g.closes = f.closes := same g List.mem_cons_self
    rw [arrivalsIn_append, ← List.append_assoc]
    refine ⟨closes ▸ listed.hop hop, ?_⟩
    intro next mem
    cases hop with
    | skip | refuse | collect => cases mem
    | reach | issue =>
      rw [List.mem_singleton.mp mem]
      exact closes

theorem pollReplay {replay : Replay} (h : sync.lanes.Listed history (replay.current.toList ++ fs))
    (texts : ∀ f, replay.current = some f → f.closes = false) :
    (sync.pollReplay replay).1.lanes.Listed
        (history ++ arrivalsIn false (sync.callMoves (.replay replay)))
        ((sync.pollReplay replay).2.rest.filterMap Replay.current ++ fs) ∧
      ∀ next ∈ (sync.pollReplay replay).2.rest, ∀ f, next.current = some f → f.closes = false := by
  have start : sync.lanes.Listed (history ++ arrivalsIn false [])
      ([replay].filterMap Replay.current ++ fs) ∧
        ∀ next ∈ [replay], ∀ f, next.current = some f → f.closes = false := by
    refine ⟨?_, by simpa using texts⟩
    cases current : replay.current <;> simpa [arrivalsIn, current] using h
  have chain := (sync.pollReplay_hops replay).keeps (fun sync replays moves =>
    sync.lanes.Listed (history ++ arrivalsIn false moves)
        (replays.filterMap Replay.current ++ fs) ∧
      ∀ next ∈ replays, ∀ f, next.current = some f → f.closes = false) ?_ start
  · exact chain
  · rintro between replay moves after progress told ⟨listed, texts⟩ hop
    rw [arrivalsIn_append, ← List.append_assoc]
    cases hop with
    | next doc rest forwarded total =>
      refine ⟨?_, ?_⟩
      · have same := (arriving_iff (f := .update doc) rfl).mpr listed
        simpa [arrivalsIn] using same
      · intro next mem f current
        rw [List.mem_singleton.mp mem] at current
        cases current
        rfl
    | @go f rest forwarded total _ _ progress step =>
      have closes : f.closes = false := texts _ List.mem_cons_self f rfl
      have stepped := listed.hop step
      rw [closes] at stepped
      rcases progress with g | failure | taken
      · refine ⟨stepped, ?_⟩
        intro next mem f' current
        rw [List.mem_singleton.mp mem] at current
        cases current
        -- the document is the same as before the step
        cases step <;> exact closes
      · exact ⟨stepped, nofun⟩
      · refine ⟨stepped, ?_⟩
        intro next mem f' current
        rw [List.mem_singleton.mp mem] at current
        cases current
    | done forwarded total =>
      have silent : arrivalsIn false [] = [] := rfl
      rw [silent, List.append_nil]
      exact ⟨listed, nofun⟩

end Lanes.Listed

/-! ## Any run -/

/-- The lanes with the calls under way; a replay is only ever at a text. -/
structure Sync.Tabled (sync : Sync) (calls : List SyncCall) (history : List Arrival) : Prop where
  listed : sync.lanes.Listed history (calls.filterMap SyncCall.current?)
  closes : ∀ call ∈ calls, ∀ f, call.current? = some f → f.closes = call.closes

namespace Sync.Tabled
variable {sync : Sync} {call : SyncCall} {calls : List SyncCall} {history : List Arrival}

theorem pollCall (h : sync.Tabled (call :: calls) history) :
    (sync.pollCall call).1.Tabled ((sync.pollCall call).2.rest ++ calls)
      (history ++ sync.arrivals call) := by
  obtain ⟨listed, closes⟩ := h
  have later : ∀ other ∈ calls, ∀ f, other.current? = some f → f.closes = other.closes :=
    fun other mem => closes other (List.mem_cons_of_mem _ mem)
  rw [Sync.current?_cons] at listed
  cases call with
  | forward forwarding =>
    obtain ⟨polled, same⟩ := Lanes.Listed.poll listed
    refine ⟨?_, ?_⟩
    · have forwards : SyncCall.current? ∘ SyncCall.forward = some := rfl
      simp only [Sync.pollCall, Progress.rest_map, List.filterMap_append, List.filterMap_map,
        forwards, List.filterMap_some]
      exact polled
    · intro other mem f current
      simp only [Sync.pollCall, Progress.rest_map] at mem
      rcases List.mem_append.mp mem with own | rest
      · obtain ⟨g, -, rfl⟩ := List.mem_map.mp own
        cases current
        rfl
      · exact later other rest f current
  | replay replay =>
    obtain ⟨polled, texts⟩ := listed.pollReplay fun f current =>
      closes (.replay replay) List.mem_cons_self f current
    refine ⟨?_, ?_⟩
    · have replays : SyncCall.current? ∘ SyncCall.replay = Replay.current := rfl
      simp only [Sync.pollCall, Progress.rest_map, List.filterMap_append, List.filterMap_map,
        replays]
      exact polled
    · intro other mem f current
      simp only [Sync.pollCall, Progress.rest_map] at mem
      rcases List.mem_append.mp mem with own | rest
      · obtain ⟨next, left, rfl⟩ := List.mem_map.mp own
        exact texts next left f current
      · exact later other rest f current

theorem accept (h : sync.Tabled calls history) (request : SyncRequest) :
    sync.Tabled (request.call :: calls) history := by
  refine ⟨?_, ?_⟩
  · cases request with
    | opened doc | changed doc | closed doc => exact (Lanes.Listed.arriving_iff rfl).mpr h.listed
    | replay docs => exact h.listed
  · intro other mem f current
    rcases List.mem_cons.mp mem with rfl | rest
    · cases request <;> cases current <;> rfl
    · exact h.closes other rest f current

/-- The surroundings do not touch the lanes. -/
theorem surround_lanes (sync : Sync) (way : SyncMove) : (sync.surround way).lanes = sync.lanes := by
  cases way <;> rfl

theorem abides : Sync.machine.Abides Sync.arrivals Sync.Tabled where
  perm same h := ⟨h.listed.perm (same.filterMap _), fun call mem => h.closes call (same.mem_iff.mpr mem)⟩
  accept {_ _ _ request _} h accepted := by
    rw [← Option.some.inj accepted]
    exact h.accept request
  poll h := h.pollCall
  move way h := ⟨(surround_lanes _ way).symm ▸ h.listed, h.closes⟩

end Sync.Tabled

namespace Sync

theorem pollReplayFrom_placed {sync : Sync} {docs : List Document} {total forwarded : Nat}
    {next : Replay} (pending : (sync.pollReplayFrom total forwarded docs).2 = .pending next) :
    ∀ f, next.current = some f → f.stage ≠ .arriving := by
  induction docs generalizing sync forwarded with
  | nil => cases pending
  | cons doc rest ih =>
    rw [pollReplayFrom] at pending
    rcases polled : sync.poll (.update doc) with ⟨after, forwarding | failure | taken⟩
    · rw [polled] at pending
      cases pending
      intro f current
      cases current
      exact poll_placed (by rw [polled])
    · rw [polled] at pending
      cases pending
    · rw [polled] at pending
      exact ih pending

theorem pollReplay_placed {sync : Sync} {replay next : Replay}
    (pending : (sync.pollReplay replay).2 = .pending next) :
    ∀ f, next.current = some f → f.stage ≠ .arriving := by
  unfold pollReplay at pending
  cases current : replay.current with
  | none =>
    rw [current] at pending
    exact pollReplayFrom_placed pending
  | some forwarding =>
    rcases polled : sync.poll forwarding with ⟨after, forwarding' | failure | taken⟩
    · simp only [current, polled] at pending
      cases pending
      intro f own
      cases own
      exact poll_placed (by rw [polled])
    · simp only [current, polled] at pending
      cases pending
    · simp only [current, polled] at pending
      exact pollReplayFrom_placed pending

/-- A call that has had a chance and goes on stands in a lane with what it is at. -/
theorem pollCall_placed {sync : Sync} {call next : SyncCall}
    (mem : next ∈ (sync.pollCall call).2.rest) :
    ∀ f, next.current? = some f → f.stage ≠ .arriving := by
  cases call with
  | forward forwarding =>
    simp only [pollCall, Progress.rest_map] at mem
    obtain ⟨g, left, rfl⟩ := List.mem_map.mp mem
    intro f current
    cases current
    exact poll_placed (Progress.eq_pending left)
  | replay replay =>
    simp only [pollCall, Progress.rest_map] at mem
    obtain ⟨next', left, rfl⟩ := List.mem_map.mp mem
    exact pollReplay_placed (Progress.eq_pending left)

end Sync

/-- **Lanes do not leak.**  As long as nobody is given up, a document has a lane exactly when a
forwarding of it has reached the lane and not left it, or the latest that reached the lane was an
update.  So once nothing is under way, no lane is left of a document that was closed last, whether or
not the close failed, and every other document that was sent has one, which the table counts
once. -/
theorem lanes_do_not_leak (sync : Sync) (fresh : sync.lanes = .empty)
    (actions : List (Action SyncRequest SyncMove)) (kept : Machine.Steadfast actions) :
    let work := Sync.machine.run (.idle sync) actions
    let arrived := (Sync.machine.chronicle Sync.arrivals (.idle sync) actions).map (·.2)
    let underway := work.calls.filterMap SyncCall.current?
    let documents := work.state.lanes.documents
    (work.calls = [] → ∀ uri, uri ∈ documents ↔ latestArrival arrived uri = some false) ∧
      (∀ uri, uri ∈ documents ↔ (∃ f ∈ underway, f.stage ≠ .arriving ∧ f.doc.uri = uri) ∨
        latestArrival arrived uri = some false) ∧
      (∀ call next f, next ∈ (work.state.pollCall call).2.rest → next.current? = some f →
        f.stage ≠ .arriving) ∧
      documents.Nodup := by
  intro work arrived underway documents
  let idle : Work Sync SyncCall SyncResult := .idle sync
  have start : idle.state.Tabled idle.calls [] := ⟨fresh ▸ Lanes.Listed.start, nofun⟩
  have tabled : work.state.Tabled work.calls arrived := by
    simpa using Sync.Tabled.abides.run start kept
  have listed : ∀ uri, uri ∈ documents ↔
      (∃ f ∈ underway, f.stage ≠ .arriving ∧ f.doc.uri = uri) ∨
        latestArrival arrived uri = some false := by
    intro uri
    rw [← exists_place_iff]
    exact Lanes.mem_documents.trans (tabled.listed.listed uri)
  refine ⟨?_, listed, ?_, tabled.listed.single⟩
  · intro idle uri
    have nobody : underway = [] := by simp only [underway, idle, List.filterMap_nil]
    simpa [nobody] using listed uri
  · intro call next f mem current
    exact Sync.pollCall_placed mem f current

/-- A document is opened and closed while the engine holds the first call, and the close fails: its
lane is gone.  Another that was opened last has one. -/
theorem lanes_do_not_leak_of_failed_close :
    let doc : Document := ⟨⟨"file:///a.qs"⟩, "qsharp", 1, "operation", false⟩
    let other : Document := ⟨⟨"file:///b.qs"⟩, "qsharp", 1, "operation", false⟩
    let engine := Engine.initial ⟨false, false, false⟩ ⟨false, true, false, []⟩ ["file:///a.qs@1"]
    let sync : Sync := ⟨0, ⟨"qsharp"⟩, .empty, engine, []⟩
    let actions : List (Action SyncRequest SyncMove) :=
      [.start (.opened doc), .start (.closed doc), .start (.closed other), .start (.opened other),
        .poll 0, .poll 1, .poll 2, .move (.release "file:///a.qs@1"), .poll 0, .poll 0, .poll 0]
    let work := Sync.machine.run (.idle sync) actions
    sync.lanes = .empty ∧ Machine.Steadfast actions ∧ work.calls = [] ∧
      (∀ uri, uri ∈ work.state.lanes.documents ↔ latestArrival
        ((Sync.machine.chronicle Sync.arrivals (.idle sync) actions).map (·.2)) uri = some false) ∧
      work.state.lanes.documents = [⟨"file:///b.qs"⟩] :=
  ⟨rfl, by simp [Machine.Steadfast], by decide +kernel,
    (lanes_do_not_leak _ rfl _ (by simp [Machine.Steadfast])).1 (by decide +kernel),
    by decide +kernel⟩

end EngineSync
