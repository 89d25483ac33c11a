import EngineSync.Proofs.Accounts
import EngineSync.Proofs.Claims

/-!
# What activations leave behind

An activation holds something only while a call replays its open documents or while it is live
(`World.Tended`).  So when no call is under way and nothing is live, nobody holds anything
(`World.AtRest`): only others listen, each under a number of its own, and no request is with the
engine.  Sessions are still there, and they report to collections that are there as well.
-/
namespace EngineSync

/-! ## Numbers of subscriptions and sinks of sessions -/

namespace Environment
variable {scope : Scope} {env env' : Environment}

/-- No two subscriptions have the same number, and sessions report to collections that are there. -/
structure Neat (env : Environment) : Prop where
  numbers : (env.bus.subscriptions.map (·.id)).Nodup
  sinks : ∀ session ∈ env.engine.sessions, ∀ id ∈ session.sink, id < env.collections.length

theorem Edit.neat (edit : Edit scope env env') (tidy : env.Tidy) (h : env.Neat) : env'.Neat := by
  have kept (session : SessionState) (hs : session ∈ env.engine.sessions) :
      ∀ id ∈ session.sink, id < env'.collections.length := fun id hid =>
    Nat.lt_of_lt_of_le (h.sinks session hs id hid) edit.evolves.collections
  cases edit with
  | engine calls sessions claims => exact ⟨h.numbers, by rwa [sessions]⟩
  | create aimed =>
    refine ⟨h.numbers, fun session hs => ?_⟩
    rcases List.mem_append.mp hs with old | new
    · exact h.sinks session old
    · rw [List.mem_singleton.mp new]
      exact aimed
  | @issue session request names =>
    obtain ⟨granted, permits, issued⟩ := env.engine.issue_eq session request
    rw [issued]
    exact ⟨h.numbers, h.sinks⟩
  | @dispose session up names =>
    refine ⟨h.numbers, fun state hs => ?_⟩
    obtain ⟨place, at_place⟩ := List.getElem?_of_mem hs
    simp only [Engine.dispose, Engine.record, List.getElem?_modify] at at_place
    obtain ⟨old, found, rfl⟩ := Option.map_eq_some_iff.mp at_place
    have sinks := h.sinks old (List.mem_of_getElem? found)
    split <;> exact sinks
  | addCollection | setCollection => exact ⟨h.numbers, kept⟩
  | subscribe kind names =>
    refine ⟨?_, h.sinks⟩
    have new : env.bus.nextId ∉ env.bus.subscriptions.map (·.id) := fun mem => by
      obtain ⟨sub, hs, same⟩ := List.mem_map.mp mem
      exact absurd (tidy.subscriptions sub hs) (same ▸ Nat.lt_irrefl _)
    rw [EventBus.subscribe, List.map_append]
    exact (List.perm_append_singleton _ _).nodup_iff.mpr (List.nodup_cons.mpr ⟨new, h.numbers⟩)
  | unsubscribe names => exact ⟨h.numbers.sublist (List.filter_sublist.map _), h.sinks⟩
  | _ => exact ⟨h.numbers, h.sinks⟩

theorem Edits.neat (edits : Edits scope env env') (tidy : env.Tidy) (h : env.Neat) : env'.Neat := by
  induction edits with
  | refl => exact h
  | tail before step ih => exact step.neat (Edits.tidy before tidy) ih

end Environment

namespace World

/-- Whoever holds something has its documents replayed or is live, and no name is live twice. -/
structure Tended (world : World) (replays : List ActivationId) : Prop where
  names : (world.live.map (·.1)).Nodup
  owners : ∀ id, (world.activation id).owner.held ≠ [] → id ∈ replays ∨ id ∈ world.live.map (·.2)

namespace Tended
variable {world world' : World} {call : Call} {calls : List Call} {replays : List ActivationId}
  {id : ActivationId} {name : String} {settings : Settings} {replay : Replay} {total : Nat}
  {notes : List WorldNote} {progress : Progress Call CallResult} {env : Environment} {scope : Scope}

/-- Owners and live activations are as they were. -/
theorem calm (h : Tended world replays) (calm : Calm world world') : Tended world' replays := by
  refine ⟨calm.live ▸ h.names, fun id holds => ?_⟩
  rw [calm.owner] at holds
  rw [calm.live]
  exact h.owners id holds

theorem edits (h : Tended world replays) (edits : Environment.Edits scope world.env env)
    (nobody : ∀ listener, ¬scope.listens listener) : Tended { world with env } replays :=
  h.calm (calm_edits edits nobody)

theorem plain (h : Tended world replays) (edits : Environment.Edits .plain world.env env) :
    Tended { world with env } replays :=
  h.edits edits fun _ no => no

theorem works (h : Tended world replays) (works : Works id world world') : Tended world' replays :=
  h.calm works.calm

theorem setBarrier (h : Tended world replays) (barrier : Barrier) :
    Tended (world.setBarrier id barrier) replays := by
  refine ⟨h.names, fun other holds => h.owners other ?_⟩
  have same : ((world.setBarrier id barrier).activation other).owner =
      (world.activation other).owner := by
    refine (congrArg (·.owner) (activation_setActivation world id other _)).trans ?_
    split
    · next here => rw [here.1]
    · rfl
  rwa [same] at holds

/-- Whoever is torn down holds nothing any more. -/
theorem owner_teardown (lt : id < world.activations.length) {other : ActivationId}
    (holds : ((world.teardown id).1.activation other).owner.held ≠ []) :
    other ≠ id ∧ (world.activation other).owner.held ≠ [] := by
  have torn : (world.teardown id).1.activation other =
      if other = id ∧ id < world.activations.length then { world.activation id with owner := .empty }
      else world.activation other :=
    activation_setActivation { world with env := (world.teardown id).1.env } id other _
  rw [torn] at holds
  by_cases here : other = id
  · rw [if_pos ⟨here, lt⟩] at holds
    exact absurd rfl holds
  · rw [if_neg fun both => here both.1] at holds
    exact ⟨here, holds⟩

/-- The live activation of a name is torn down. -/
theorem unname (h : Tended world replays) (lt : id < world.activations.length)
    (found : world.live? name = some id) :
    Tended { (world.teardown id).1 with live := world.live.filter (·.1 ≠ name) } replays := by
  refine ⟨h.names.sublist (List.filter_sublist.map _), fun other holds => ?_⟩
  obtain ⟨ne, held⟩ := owner_teardown lt holds
  refine (h.owners other held).imp_right fun live => ?_
  obtain ⟨entry, mem, rfl⟩ := List.mem_map.mp live
  refine List.mem_map_of_mem (List.mem_filter.mpr ⟨mem, decide_eq_true fun same => ne ?_⟩)
  -- no name is live twice, so the entry is the one that was torn down
  have one := List.inj_on_of_nodup_map h.names mem (Sound.lookup_mem found) same
  exact congrArg Prod.snd one

theorem drop (h : Tended world replays) (sound : Sound world calls) (name : String) :
    Tended (world.drop name) replays := by
  unfold World.drop
  cases found : world.live? name with
  | none => exact h
  | some id => exact h.unname (sound.live_lt found) found

theorem deactivate (h : Tended world replays) (sound : Sound world calls) (name : String) :
    Tended (world.deactivate name) replays := by
  unfold World.deactivate
  cases found : world.live? name with
  | none => exact h
  | some id => exact (h.unname (sound.live_lt found) found).plain (Environment.log_edits _ _)

theorem abandon (h : Tended world (id :: replays))
    (sound : Sound world (.activate name (.replaying id settings replay) :: calls)) :
    Tended (world.abandon id) replays := by
  obtain ⟨-, lt, -⟩ := sound.abandoning
  refine ⟨h.names, fun other holds => ?_⟩
  obtain ⟨ne, held⟩ := owner_teardown lt holds
  exact ((h.setBarrier .abandoned).owners other held).imp_left fun replays =>
    (List.mem_cons.mp replays).resolve_left ne

/-- A dropped name is not live any more. -/
theorem names_drop (world : World) (name : String) : name ∉ (world.drop name).live.map (·.1) := by
  unfold World.drop
  cases found : world.live? name with
  | none =>
    intro mem
    obtain ⟨entry, he, rfl⟩ := List.mem_map.mp mem
    have ne := List.lookup_eq_none_iff.mp found entry he
    simp at ne
  | some id =>
    intro mem
    obtain ⟨entry, he, same⟩ := List.mem_map.mp mem
    exact absurd same (of_decide_eq_true (List.mem_filter.mp he).2)

/-- An activation that is ready is live under its name, and nobody else is. -/
theorem finishActivate (h : Tended world (id :: replays))
    (sound : Sound world (.activate name (.replaying id settings replay) :: calls)) :
    Tended (world.finishActivate name id settings total) replays := by
  have ready : Tended (world.readied id settings total) (id :: replays) :=
    (h.setBarrier .open).plain (Environment.log_edits _ _)
  have dropped := ready.drop (sound.readied total) name
  refine ⟨?_, fun other holds => ?_⟩
  · show (List.map (·.1) (((world.readied id settings total).drop name).live ++ [(name, id)])).Nodup
    rw [List.map_append]
    exact (List.perm_append_singleton _ _).nodup_iff.mpr
      (List.nodup_cons.mpr ⟨names_drop _ name, dropped.names⟩)
  · show _ ∨ other ∈ List.map (·.2) (((world.readied id settings total).drop name).live ++ [(name, id)])
    rw [List.map_append, List.mem_append]
    rcases dropped.owners other holds with replays | live
    · rcases List.mem_cons.mp replays with rfl | replays
      · exact .inr (.inr List.mem_cons_self)
      · exact .inl replays
    · exact .inr (.inl live)

theorem welcome (h : Tended world replays) (collection : CollectionId) (session : SessionId)
    (settings : Settings) :
    Tended (world.welcome collection session settings) (world.activations.length :: replays) := by
  refine ⟨h.names, fun other holds => ?_⟩
  rw [activation_welcome] at holds
  split at holds
  · next new => exact .inl (new ▸ List.mem_cons_self)
  · exact (h.owners other holds).imp_left (List.mem_cons_of_mem _)

/-! ## Steps, calls that are given up, and moves -/

theorem hop (h : Tended world ((call :: calls).filterMap Call.replaying?))
    (sound : Sound world (call :: calls)) (hop : Hop world call notes world' progress) :
    Tended world' ((progress.rest ++ calls).filterMap Call.replaying?) := by
  cases hop with
  | refused opened =>
    exact h.plain (Relation.ReflTransGen.trans (Environment.makeCollection_edits _)
      (Relation.ReflTransGen.trans (Environment.snapshot_edits _)
        (Environment.openSession_refused opened)))
  | began opened applied => exact h.edits (began_edits opened applied) fun _ no => no
  | @rejected name collection session settings ticket env failure collected =>
    have disposes : Environment.Edits (.changing (· = .session session)) env _ :=
      Environment.disposeSession_edits env (.inl rfl)
    exact (h.plain (Environment.collectProfile?_edits collected)).edits disposes fun _ no => no
  | @subscribed name collection session settings ticket env collected =>
    exact (h.plain (Environment.collectProfile?_edits collected)).welcome collection session settings
  | @replay name id settings replay sync replay' polled => exact h.works (works_pollReplay polled)
  | @ready name id settings replay sync count polled =>
    have lt : id < world.activations.length := sound.lt_of_ids List.mem_cons_self
    have works := works_pollReplay polled
    exact (h.works works).finishActivate (sound.works lt works)
  | @failed name id settings replay sync failure polled =>
    have lt : id < world.activations.length := sound.lt_of_ids List.mem_cons_self
    have works := works_pollReplay polled
    exact (h.works works).abandon (sound.works lt works)
  | publish event => exact h.plain (Environment.log_edits _ _)
  | call event next waiting =>
    unfold startListener
    cases next.listener <;> exact ⟨h.names, h.owners⟩
  | @listen event listener waiting _ _ progress hop =>
    have quiet : ((delivered event waiting progress).rest ++ calls).filterMap Call.replaying? =
        calls.filterMap Call.replaying? := by
      rcases progress with next | failure | ⟨⟩ <;> rfl
    rw [quiet]
    cases hop with
    | pass | take | answered => exact h
    | forward id forwarding => exact h.works (works_forwarding world id forwarding)
    | route id route => exact h.works (works_routing sound.tidy id route)
  | finish event => exact h
  | sync id call =>
    have quiet : ((world.poll (.sync id call)).2.rest ++ calls).filterMap Call.replaying? =
        calls.filterMap Call.replaying? := by
      simp only [World.poll]
      rcases ((world.sync id).pollCall call).2 with next | result <;> rfl
    rw [quiet]
    exact h.works (works_sync world id call)

theorem cancel (h : Tended world ((call :: calls).filterMap Call.replaying?))
    (sound : Sound world (call :: calls)) :
    Tended (world.cancel call) (calls.filterMap Call.replaying?) := by
  match call with
  | .activate name .arriving | .publish (.arriving event)
  | .publish (.delivering ⟨event, none, waiting⟩)
  | .publish (.delivering ⟨event, some (.outside number), waiting⟩) => exact h
  | .activate name (.configuring collection session settings ticket) =>
    exact h.plain (.single (Environment.cancel_edit world.env ticket))
  | .activate name (.replaying id settings replay) =>
    have lt : id < world.activations.length := sound.lt_of_ids List.mem_cons_self
    have works := works_cancelSync world id (.replay replay)
    exact (h.works works).abandon (sound.works lt works)
  | .publish (.delivering ⟨event, some (.activation id stage), waiting⟩) =>
    exact h.works (works_cancelListener world id stage)
  | .sync id call => exact h.works (works_cancelSync world id call)

theorem surround (h : Tended world replays) (sound : Sound world calls) (move : WorldMove) :
    Tended (world.surround move) replays := by
  cases move with
  | release | grant | refuse | files | source | documents | report | answer =>
    exact ⟨h.names, h.owners⟩
  | listen kind number => exact h.calm (calm_subscribe world kind number)
  | unlisten number =>
    simp only [World.surround]
    split <;> exact ⟨h.names, h.owners⟩
  | deactivate name => exact h.deactivate sound name
  | drop name => exact h.drop sound name
  | disposeSession name =>
    simp only [World.surround]
    cases world.live? name <;> exact ⟨h.names, h.owners⟩
  | route name change =>
    simp only [World.surround]
    cases found : world.live? name with
    | none => exact h
    | some id => exact h.works (works_routeNow sound.tidy id change)

end Tended

/-- **Whoever holds something is tended**, and what is numbered is neat, in every world that is
reached. -/
theorem tended_tells : Tells fun world calls _ =>
    Sound world calls ∧ Tended world (calls.filterMap Call.replaying?) ∧ world.env.Neat where
  tidy h := h.1.tidy
  perm hp h := by
    refine ⟨h.1.perm hp, ⟨h.2.1.names, fun id holds => ?_⟩, h.2.2⟩
    exact (h.2.1.owners id holds).imp_left (hp.filterMap _).mem_iff.mp
  accept {world calls history request call} h accepted := by
    have fresh : call.replaying? = none := by
      cases request with
      | activate | publish =>
        cases accepted
        rfl
      | sync id request =>
        simp only [World.accept, Option.ite_none_right_eq_some, Option.some.injEq] at accepted
        rw [← accepted.2]
        rfl
    rw [List.filterMap_cons_none fresh]
    exact ⟨h.1.accepts accepted, h.2⟩
  hop h hop := ⟨h.1.hop hop, h.2.1.hop h.1 hop,
    Environment.Edits.neat (h.1.sessions_hop hop) h.1.tidy h.2.2⟩
  cancel h := ⟨h.1.cancels, h.2.1.cancel h.1,
    Environment.Edits.neat h.1.sessions_cancel h.1.tidy h.2.2⟩
  surround {world calls history} move h := by
    refine ⟨h.1.surrounds move, h.2.1.surround h.1 move, ?_⟩
    obtain ⟨env, files, source, docs, edits, moved⟩ :=
      @Sound.sessions_surround world calls (fun _ => True) h.1 (fun _ _ => trivial) move
    have neat := Environment.Edits.neat edits h.1.tidy h.2.2
    rw [moved]
    exact ⟨neat.numbers, neat.sinks⟩

/-! ## Nothing is under way and nothing is live -/

/-- Only others listen, and no request is with the engine. -/
structure AtRest (world : World) : Prop extends world.env.Neat where
  live : world.live = []
  idle : world.env.engine.tickets = []
  outside : ∀ sub ∈ world.env.bus.subscriptions, ∃ number, sub.listener = .outside number
  given : ∀ sub ∈ world.env.bus.subscriptions, sub.id < world.env.bus.nextId

/-- **Activations leave nothing behind that would be in the way of another.**  Whatever was done
before and however activations have ended, once no call is under way and nothing is live, nobody but
others listens and nothing is with the engine. -/
theorem atRest_run (outset : Outset) (ledger : Ledger)
    (actions : List (Action WorldRequest WorldMove))
    (done : (World.machine.run (outset.host ledger) actions).jobs = [])
    (none : (World.machine.run (outset.host ledger) actions).state.live = []) :
    (World.machine.run (outset.host ledger) actions).state.AtRest := by
  have calls : (World.machine.run (outset.host ledger) actions).calls = [] := by
    rw [Work.calls, done]
    rfl
  obtain ⟨sound, square⟩ := square_run outset ledger actions
  obtain ⟨-, tended, neat⟩ := tended_tells.keeps.run
    ⟨sound_host outset ledger, ⟨List.nodup_nil, fun _ holds => absurd rfl holds⟩,
      ⟨List.nodup_nil, fun _ mem => absurd mem List.not_mem_nil⟩⟩ actions
  obtain ⟨-, attended⟩ := attended_tells.keeps.run
    ⟨sound_host outset ledger, attended_host outset ledger⟩ actions
  refine { neat with
    live := none
    idle := ?_
    outside := fun sub hs => ?_
    given := sound.tidy.subscriptions }
  · have owners := attended.owners
    rw [calls] at owners
    simpa [Engine.underway, Engine.claims] using owners.eq_nil
  · rcases listener : sub.listener with id | number
    · -- the activation would hold something, and be tended
      have empty := square.gone id fun core found => by
        rw [cores, List.getElem?_map] at found
        obtain ⟨activation, at_place, rfl⟩ := Option.map_eq_some_iff.mp found
        by_contra holds
        rw [← activation_eq at_place] at holds
        rcases tended.owners id holds with replays | live
        · simp [calls] at replays
        · simp [none] at live
      exact absurd (decide_eq_true listener) (List.filter_eq_nil_iff.mp empty sub hs)
    · exact ⟨number, rfl⟩

end World
end EngineSync
