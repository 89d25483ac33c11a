import Mathlib.Data.List.Pairwise
import EngineSync.Proofs.Effort
import EngineSync.Proofs.Failures
import EngineSync.Proofs.Queues

/-!
# Whom calls wait for

A lane is held by one of the calls that stand in it, a barrier that is closed has a call that
replays the open documents, and each request under way has a call that waits for it
(`World.Linked`).  So where nobody can go on, whoever waits in a lane waits for a call whose request
the engine has, and whoever waits at a barrier waits for an activation whose text the engine has.
-/
namespace EngineSync

/-- The engine has a request and did not answer it. -/
def Engine.Unanswered (engine : Engine) (ticket : TicketId) : Prop :=
  ∃ entry ∈ engine.tickets, entry.id = ticket ∧ entry.granted = false

theorem Engine.unanswered_of_collect? {engine : Engine} {ticket : TicketId}
    (under : ticket ∈ engine.underway) (unanswered : engine.collect? ticket = none) :
    engine.Unanswered ticket := by
  unfold Engine.collect? at unanswered
  cases found : engine.tickets.find? (·.id = ticket) with
  | none =>
    obtain ⟨claim, mem, rfl⟩ := List.mem_map.mp under
    obtain ⟨entry, there, rfl⟩ := List.mem_map.mp mem
    have other : ¬entry.id = entry.claim.1 := by
      simpa using List.find?_eq_none.mp found entry there
    exact absurd rfl other
  | some entry =>
    rw [found] at unanswered
    refine ⟨entry, List.mem_of_find?_eq_some found, by simpa using List.find?_some found, ?_⟩
    cases granted : entry.granted with
    | false => rfl
    | true => simp [granted] at unanswered

/-- Some place holds the lane in which a place is. -/
theorem Lanes.Sound.holder {lanes : Lanes} {places : List Place} {place : Place}
    (h : lanes.Sound places) (mem : place ∈ places) :
    ∃ holder ∈ places, holder.lane = place.lane ∧ holder.uri = place.uri ∧
      lanes.holds holder.lane holder.turn = true := by
  obtain ⟨lane, there, same⟩ := h.lane_of _ _ (h.at_lane place mem)
  have queued : place.turn ∈ lane.queue :=
    ((h.records lane there).mem_queue place.turn).mpr ⟨place, mem, same.symm, rfl⟩
  obtain ⟨front, behind, queue⟩ := List.exists_cons_of_ne_nil (List.ne_nil_of_mem queued)
  obtain ⟨holder, hm, own, turn⟩ :=
    ((h.records lane there).mem_queue front).mp (queue ▸ List.mem_cons_self)
  have lanes_eq : holder.lane = place.lane := own.trans same
  refine ⟨holder, hm, lanes_eq, (h.lane_eq_iff hm mem).mp lanes_eq, ?_⟩
  rw [own, turn]
  simp [Lanes.holds, h.find?_eq there, queue]

/-- Whoever has a place stands in its lane or has called the engine. -/
theorem Forwarding.stage_of_place? {forwarding : Forwarding} {place : Place}
    (at_place : forwarding.place? = some place) : place.uri = forwarding.doc.uri ∧
      (forwarding.stage = .queued place.lane place.turn ∨
        ∃ ticket, forwarding.stage = .calling place.lane place.turn ticket) := by
  unfold place? at at_place
  cases stage : forwarding.stage with
  | arriving => rw [stage] at at_place; cases at_place
  | queued lane turn =>
    rw [stage] at at_place
    cases at_place
    exact ⟨rfl, .inl rfl⟩
  | calling lane turn ticket =>
    rw [stage] at at_place
    cases at_place
    exact ⟨rfl, .inr ⟨ticket, rfl⟩⟩

namespace Call
variable {call : Call} {id : ActivationId} {forwarding : Forwarding}

/-- A call stands in the lanes of an activation with the document that it is about to bring. -/
theorem mem_places_iff {place : Place} :
    place ∈ call.places id ↔ ∃ forwarding, call.standing? = some (id, forwarding) ∧
      forwarding.place? = some place := by
  match call with
  | .activate _ .arriving | .activate _ (.configuring ..) | .publish (.arriving _)
  | .publish (.delivering ⟨_, none, _⟩) | .publish (.delivering ⟨_, some (.outside _), _⟩)
  | .publish (.delivering ⟨_, some (.activation _ .arriving), _⟩)
  | .publish (.delivering ⟨_, some (.activation _ (.routing _)), _⟩) =>
    simp [places, standing?]
  | .activate _ (.replaying id' _ replay) =>
    by_cases same : id' = id <;> simp [places, standing?, same, mem_placesOf]
  | .publish (.delivering ⟨_, some (.activation id' (.forwarding forwarding)), _⟩) =>
    by_cases same : id' = id <;> simp [places, standing?, same, mem_placesOf]
  | .sync id' call =>
    by_cases same : id' = id <;> simp [places, standing?, same, mem_placesOf]

theorem tickets_of_standing (stands : call.standing? = some (id, forwarding)) :
    call.tickets = forwarding.tickets := by
  match call with
  | .activate _ (.replaying id' _ replay) =>
    obtain ⟨_, current, same⟩ := Option.map_eq_some_iff.mp stands
    cases same
    simp [tickets, SyncCall.tickets, SyncCall.current?, current]
  | .publish (.delivering ⟨_, some (.activation id' (.forwarding forwarding')), _⟩) =>
    cases stands
    rfl
  | .sync id' call =>
    obtain ⟨_, current, same⟩ := Option.map_eq_some_iff.mp stands
    cases same
    simp [tickets, SyncCall.tickets, current]

/-- Whoever brings a document to an activation replays for it or works for it. -/
theorem at_of_standing (stands : call.standing? = some (id, forwarding)) :
    call.replaying? = some id ∨ call.worksFor? = some id := by
  match call with
  | .activate _ (.replaying id' _ replay) =>
    obtain ⟨_, -, same⟩ := Option.map_eq_some_iff.mp stands
    cases same
    exact .inl rfl
  | .publish (.delivering ⟨_, some (.activation id' (.forwarding forwarding')), _⟩) =>
    cases stands
    exact .inr rfl
  | .sync id' call =>
    obtain ⟨_, -, same⟩ := Option.map_eq_some_iff.mp stands
    cases same
    exact .inr rfl

end Call

namespace World
variable {world world' : World} {call : Call} {calls : List Call} {id : ActivationId}
  {notes : List WorldNote} {progress : Progress Call CallResult}

/-- Every barrier that is closed is so because some call replays the open documents. -/
def Manned (world : World) (calls : List Call) : Prop :=
  ∀ id < world.activations.length, (world.activation id).barrier = .replaying →
    ∃ call ∈ calls, call.replaying? = some id

theorem Manned.hop (h : Manned world (call :: calls)) (sound : Sound world (call :: calls))
    (hop : Hop world call notes world' progress) : Manned world' (progress.rest ++ calls) := by
  intro id lt closed
  rcases sound.newcomer_hop hop lt with old | ⟨-, -, next, mem, replays⟩
  · by_cases still : call.replaying? = some id
    · -- the call itself replays, and it goes on to do so as long as the barrier is closed
      obtain ⟨name, settings, replay, rfl⟩ := Call.of_replaying still
      rcases sound.replay_hop hop with ⟨-, replay', rfl⟩ | ⟨opened, -⟩ | ⟨given_up, -⟩
      · exact ⟨_, List.mem_cons_self, rfl⟩
      · cases closed.symm.trans opened
      · cases closed.symm.trans given_up
    · rw [lasting_barrier.hop sound old (.inl still) hop] at closed
      obtain ⟨other, mem, replays⟩ := h id old closed
      rcases List.mem_cons.mp mem with rfl | there
      · exact absurd replays still
      · exact ⟨other, List.mem_append_right _ there, replays⟩
  · exact ⟨next, List.mem_append_left _ mem, replays⟩

theorem Manned.cancels (h : Manned world (call :: calls)) (sound : Sound world (call :: calls)) :
    Manned (world.cancel call) calls := by
  intro id lt closed
  rw [Sound.length_cancel] at lt
  by_cases still : call.replaying? = some id
  · obtain ⟨name, settings, replay, rfl⟩ := Call.of_replaying still
    cases closed.symm.trans sound.replay_cancel
  · rw [lasting_barrier.cancel world id (.inl still)] at closed
    obtain ⟨other, mem, replays⟩ := h id lt closed
    rcases List.mem_cons.mp mem with rfl | there
    · exact absurd replays still
    · exact ⟨other, there, replays⟩

/-- What keeps a world from coming to a halt. -/
structure Linked (world : World) (calls : List Call) : Prop where
  sound : Sound world calls
  attended : world.Attended calls
  laned : ∀ id, Laned id world calls
  manned : world.Manned calls

theorem linked_tells : Tells fun world calls _ => Linked world calls where
  tidy h := h.sound.tidy
  perm hp h := ⟨h.sound.perm hp, h.attended.perm (hp.flatMap_right _),
    fun id => (h.laned id).perm (hp.flatMap_right _), fun id lt closed => by
      obtain ⟨call, mem, replays⟩ := h.manned id lt closed
      exact ⟨call, hp.mem_iff.mp mem, replays⟩⟩
  accept {_ _ history _ _} h accepted := ⟨h.sound.accepts accepted, h.attended.accepts accepted,
    (@laned_tells.accept _ _ history _ _ ⟨h.sound, h.laned⟩ accepted).2, fun id lt closed => by
      obtain ⟨call, mem, replays⟩ := h.manned id lt closed
      exact ⟨call, List.mem_cons_of_mem _ mem, replays⟩⟩
  hop h hop := ⟨h.sound.hop hop, h.attended.hop hop, fun id => (h.laned id).hop h.sound hop,
    h.manned.hop h.sound hop⟩
  cancel h := ⟨h.sound.cancels, h.attended.cancels, fun id => (h.laned id).cancel h.sound,
    h.manned.cancels h.sound⟩
  surround {world _ _} move h := ⟨h.sound.surrounds move, h.attended.surrounds move,
    fun id => (h.laned id).surround move, fun id lt closed => by
      rw [h.sound.length_surround move] at lt
      rw [lasting_barrier.surround h.sound id move] at closed
      exact h.manned id lt closed⟩

theorem linked_run (outset : Outset) (ledger : Ledger)
    (actions : List (Action WorldRequest WorldMove)) :
    let work := World.machine.run (outset.host ledger) actions
    Linked work.state work.calls :=
  linked_tells.keeps.run
    ⟨sound_host outset ledger, attended_host outset ledger, fun _ => Lanes.sound_empty, nofun⟩
    actions

/-! ## Who waits for whom -/

/-- A call that waits with its document in a lane, or with its request at the engine, waits for
just that. -/
theorem Waits.standing {forwarding : Forwarding} (waits : Waits world call)
    (stands : call.standing? = some (id, forwarding)) : (world.sync id).Waits forwarding := by
  cases waits with
  | @engine call ticket mem unanswered =>
    rw [Call.tickets_of_standing stands] at mem
    cases stage : forwarding.stage with
    | arriving => rw [Sync.tickets_arriving stage] at mem; cases mem
    | queued lane turn => rw [Sync.tickets_queued stage] at mem; cases mem
    | calling lane turn ticket' =>
      rw [Sync.tickets_calling stage] at mem
      exact .engine stage (List.mem_singleton.mp mem ▸ unanswered)
  | lane stands' queued taken =>
    cases stands.symm.trans stands'
    exact .lane queued taken
  | barrier closed => cases stands
  | listener unanswered => cases stands

/-- A request that a call waits for without an answer is unanswered. -/
theorem Attended.unanswered {ticket : TicketId} (h : world.Attended calls) (mem : call ∈ calls)
    (waits : ticket ∈ call.tickets) (unanswered : world.env.engine.collect? ticket = none) :
    world.env.engine.Unanswered ticket :=
  Engine.unanswered_of_collect?
    (h.owners.mem_iff.mpr (List.mem_flatMap.mpr ⟨call, mem, waits⟩)) unanswered

/-- The engine has a document and has not answered; until then its lane is held. -/
inductive Held (world : World) (id : ActivationId) (forwarding : Forwarding) (lane : LaneId) :
    Prop where
  | engine {turn ticket} (calling : forwarding.stage = .calling lane turn ticket)
      (holds : (world.activation id).lanes.holds lane turn = true)
      (unanswered : world.env.engine.Unanswered ticket)

namespace Linked
variable {forwarding : Forwarding} {lane : LaneId} {turn : TurnId}

/-- A call that waits in a lane waits for another one that holds it and waits for the engine. -/
theorem holder (h : Linked world calls) (waits : ∀ call ∈ calls, Waits world call)
    (mem : call ∈ calls) (stands : call.standing? = some (id, forwarding))
    (queued : forwarding.stage = .queued lane turn) :
    ∃ other ∈ calls, other ≠ call ∧ ∃ held, other.standing? = some (id, held) ∧
      held.doc.uri = forwarding.doc.uri ∧ Held world id held lane := by
  have place : (⟨forwarding.doc.uri, lane, turn⟩ : Place) ∈ calls.flatMap (Call.places id) :=
    List.mem_flatMap.mpr ⟨call, mem, Call.mem_places_iff.mpr
      ⟨forwarding, stands, by simp [Forwarding.place?, queued]⟩⟩
  obtain ⟨front, there, same, uri, holds⟩ := (h.laned id).holder place
  obtain ⟨other, found, own⟩ := List.mem_flatMap.mp there
  obtain ⟨held, stands', at_front⟩ := Call.mem_places_iff.mp own
  obtain ⟨own_uri, stage⟩ := Forwarding.stage_of_place? at_front
  rcases (waits other found).standing stands' with
    ⟨queued', taken⟩ | @⟨_, _, ticket, calling, unanswered⟩
  · -- whoever holds its lane does not wait in it
    rcases stage with stage | ⟨ticket, stage⟩
    · cases queued'.symm.trans stage
      cases holds.symm.trans taken
    · cases queued'.symm.trans stage
  · rcases stage with stage | ⟨ticket, stage⟩
    · cases calling.symm.trans stage
    · cases calling.symm.trans stage
      have under : world.env.engine.Unanswered ticket := by
        refine h.attended.unanswered found ?_ unanswered
        rw [Call.tickets_of_standing stands', Sync.tickets_calling calling]
        exact List.mem_singleton_self ticket
      refine ⟨other, found, ?_, held, stands', own_uri.symm.trans uri, ?_⟩
      · rintro rfl
        cases stands.symm.trans stands'
        cases queued.symm.trans calling
      · rw [same] at calling holds
        exact .engine calling holds under

/-- Where an activation replays, only its own documents stand in its lanes. -/
theorem alone (h : Linked world calls) {replaying other : Call} (mem : replaying ∈ calls)
    (replays : replaying.replaying? = some id) (there : other ∈ calls)
    (stands : other.standing? = some (id, forwarding)) : other = replaying := by
  have orderly := h.sound.orderly
  have closed := (orderly.replaying id (List.mem_filterMap.mpr ⟨_, mem, replays⟩)).1
  rcases Call.at_of_standing stands with replays' | works
  · by_contra ne
    have apart := List.pairwise_filterMap.mp orderly.replays
    have : Std.Symm fun call call' : Call => ∀ id, call.replaying? = some id → ∀ id',
        call'.replaying? = some id' → id ≠ id' :=
      ⟨fun _ _ ne id hid id' hid' => (ne id' hid' id hid).symm⟩
    exact apart.forall there mem ne id replays' id replays rfl
  · have opened := orderly.working id (List.mem_filterMap.mpr ⟨_, there, works⟩)
    cases closed.symm.trans opened

/-- Where a barrier is closed, the activation waits for the engine to take a document. -/
theorem activator (h : Linked world calls) (waits : ∀ call ∈ calls, Waits world call)
    (lt : id < world.activations.length) (closed : (world.activation id).barrier = .replaying) :
    ∃ name settings replay, .activate name (.replaying id settings replay) ∈ calls ∧
      ∃ forwarding ticket, replay.current = some forwarding ∧ forwarding.ticket? = some ticket ∧
        world.env.engine.Unanswered ticket := by
  obtain ⟨call, mem, replays⟩ := h.manned id lt closed
  obtain ⟨name, settings, replay, rfl⟩ := Call.of_replaying replays
  refine ⟨name, settings, replay, mem, ?_⟩
  cases waits _ mem with
  | @engine _ ticket asked unanswered =>
    obtain ⟨forwarding, current, own⟩ := List.mem_flatMap.mp asked
    exact ⟨forwarding, ticket, by simpa [SyncCall.current?] using current,
      by simpa [Forwarding.tickets] using own, h.attended.unanswered mem asked unanswered⟩
  | @lane _ id' forwarding lane turn stands queued taken =>
    -- it would wait for another call of the activation, but there is none
    obtain ⟨_, -, same⟩ := Option.map_eq_some_iff.mp stands
    cases same
    obtain ⟨other, there, ne, held, stands', -⟩ := h.holder waits mem stands queued
    exact absurd (h.alone mem replays there stands') ne

end Linked

end World
end EngineSync
