import Mathlib.Data.List.Nodup
import EngineSync.Proofs.Newcomer

/-!
# What registering and releasing come to

Registering makes handles at the end of the table and writes into the ledger or subscribes, and
disposing handles that still have their releases takes those and undoes just that.  So both come to
one change of the environment, which is said here once for all operations: what a row of
registrations adds (`registerProviders_eq`, `subscribeAll_eq`), what disposing a row of plain
handles takes away (`disposeEach_providers`, `disposeEach_subscriptions`), and what opening, closing
or disposing a gate comes to (`enableGate_eq`, `disableGate_eq`, `dispose_gate`).  Only the journal
is left open.
-/
namespace EngineSync

namespace Handles
variable {ρ : Type} {table : Handles ρ} {id : HandleId}

/-- The release action that a handle still has. -/
def release? (table : Handles ρ) (id : HandleId) : Option ρ :=
  (table.pending? id).map (·.2)

/-- Takes the release actions of several handles away. -/
def retireAll (table : Handles ρ) (ids : List HandleId) : Handles ρ :=
  ids.foldl retire table

/-- Makes handles one after another. -/
def extend (table : Handles ρ) (made : List (Handle ρ)) : Handles ρ :=
  ⟨table.all ++ made⟩

theorem release?_eq_some {release : ρ} :
    table.release? id = some release ↔ ∃ label, table.pending? id = some (label, release) := by
  constructor
  · intro h
    obtain ⟨⟨label, release'⟩, pending, rfl⟩ := Option.map_eq_some_iff.mp h
    exact ⟨label, pending⟩
  · rintro ⟨label, pending⟩
    rw [release?, pending]
    rfl

theorem lt_of_release? {release : ρ} (h : table.release? id = some release) :
    id < table.all.length := by
  obtain ⟨label, pending⟩ := release?_eq_some.mp h
  exact lt_of_pending? pending

theorem release?_retire (id' : HandleId) :
    (table.retire id).release? id' = if id' = id then none else table.release? id' := by
  rw [release?, pending?_retire]
  split <;> rfl

/-- Several handles lose their releases and no other one does. -/
theorem release?_retireAll (ids : List HandleId) (id' : HandleId) :
    (table.retireAll ids).release? id' = if id' ∈ ids then none else table.release? id' := by
  induction ids generalizing table with
  | nil => simp [retireAll]
  | cons id ids ih =>
    refine (@ih (table.retire id)).trans ?_
    rw [release?_retire]
    by_cases here : id' = id <;> by_cases later : id' ∈ ids <;> simp [here, later]

theorem retireAll_append (ids ids' : List HandleId) :
    table.retireAll (ids ++ ids') = (table.retireAll ids).retireAll ids' :=
  List.foldl_append

/-- Handles keep their releases while others lose theirs. -/
theorem map_release?_retireAll {ids ids' : List HandleId} (apart : ids.Disjoint ids') :
    ids'.map (table.retireAll ids).release? = ids'.map table.release? := by
  refine List.map_congr_left fun id mem => ?_
  rw [release?_retireAll, if_neg fun retired => apart retired mem]

/-- Handles that are there keep their releases while others are made. -/
theorem release?_extend (made : List (Handle ρ)) (lt : id < table.all.length) :
    (table.extend made).release? id = table.release? id := by
  simp [release?, pending?, get?, extend, List.getElem?_append_left lt]

/-- The handles that are made have the releases they were made with. -/
theorem release?_made (made : List (Handle ρ)) (place : Nat) :
    (table.extend made).release? (table.all.length + place) =
      made[place]?.bind (·.release) := by
  simp only [release?, pending?, get?, extend]
  rw [List.getElem?_append_right (Nat.le_add_right _ _), Nat.add_sub_cancel_left]
  cases made[place]? with
  | none => rfl
  | some handle =>
    simp only [Option.bind_some, Option.map_map]
    exact Option.map_id'

theorem map_release?_made (made : List (Handle ρ)) (places : List Nat) :
    (places.map (table.all.length + ·)).map (table.extend made).release? =
      places.map fun place => made[place]?.bind (·.release) := by
  rw [List.map_map]
  exact List.map_congr_left fun place _ => release?_made made place

end Handles

/-- The handle that ends the registration of a provider. -/
def ProviderKind.handle (kind : ProviderKind) : Handle Release :=
  ⟨kind.label, some (.provider kind)⟩

/-- The handles that end subscriptions to kinds in order, numbered from some number on. -/
def EventKind.handles : SubscriptionId → List EventKind → List (Handle Release)
  | _, [] => []
  | number, kind :: kinds =>
    ⟨kind.subscriptionLabel, some (.subscription number)⟩ :: handles (number + 1) kinds

/-- The ledger with registrations for a language. -/
def Ledger.registerAll (ledger : Ledger) (language : String) (kinds : List ProviderKind) : Ledger :=
  ⟨ledger.changes ++ kinds.map .registered, ledger.bindings ++ kinds.map (⟨·, language⟩)⟩

/-- The ledger with the ends of registrations. -/
def Ledger.unregisterAll (ledger : Ledger) (kinds : List ProviderKind) : Ledger :=
  { ledger with changes := ledger.changes ++ kinds.map .unregistered }

namespace Environment
variable {env : Environment} {id : GateId}

/-! ## Registering -/

/-- What a row of registrations adds. -/
theorem registerProviders_eq (env : Environment) (language : String) (kinds : List ProviderKind) :
    env.registerProviders language kinds =
      ({ env with
          handles := env.handles.extend (kinds.map ProviderKind.handle)
          ledger := env.ledger.registerAll language kinds },
        List.range' env.handles.all.length kinds.length) := by
  induction kinds generalizing env with
  | nil => simp [registerProviders, Handles.extend, Ledger.registerAll]
  | cons kind kinds ih =>
    simp only [registerProviders, registerProvider, addHandle, Handles.add, ih]
    simp [Handles.extend, Ledger.registerAll, Ledger.register, ProviderKind.handle,
      List.range'_succ]

/-- What a row of subscriptions adds. -/
theorem subscribeAll_eq (env : Environment) (listener : Listener) (kinds : List EventKind) :
    env.subscribeAll listener kinds =
      ({ env with
          handles := env.handles.extend (EventKind.handles env.bus.nextId kinds)
          bus := ⟨env.bus.nextId + kinds.length,
            env.bus.subscriptions ++ Subscription.row listener env.bus.nextId kinds⟩ },
        List.range' env.handles.all.length kinds.length) := by
  induction kinds generalizing env with
  | nil => simp [subscribeAll, Handles.extend, EventKind.handles, Subscription.row]
  | cons kind kinds ih =>
    simp only [subscribeAll, subscribe, EventBus.subscribe, addHandle, Handles.add, ih]
    simp [Handles.extend, EventKind.handles, Subscription.row, List.range'_succ, Nat.add_assoc,
      Nat.add_comm 1]

/-! ## Disposing plain handles -/

/-- The environment without some subscriptions, some handles and some registrations. -/
def shed (env : Environment) (numbers : List SubscriptionId) (handles : List HandleId)
    (kinds : List ProviderKind) (gates : List FormattingGate) (journal : Journal) : Environment :=
  { env with
    bus.subscriptions := env.bus.subscriptions.filter (·.id ∉ numbers)
    handles := env.handles.retireAll handles
    ledger := env.ledger.unregisterAll kinds
    gates
    journal }

/-- What is shed at once may be shed one after the other. -/
theorem shed_shed (env : Environment) (numbers numbers' : List SubscriptionId)
    (handles handles' : List HandleId) (kinds kinds' : List ProviderKind)
    (gates gates' : List FormattingGate) (journal journal' : Journal) :
    (env.shed numbers handles kinds gates journal).shed numbers' handles' kinds' gates' journal' =
      env.shed (numbers ++ numbers') (handles ++ handles') (kinds ++ kinds') gates' journal' := by
  simp only [shed, List.filter_filter, Handles.retireAll_append, Ledger.unregisterAll,
    List.map_append, List.append_assoc, List.mem_append, not_or, Bool.decide_and]
  simp only [Bool.and_comm]

/-- Handles that are not shed keep their releases. -/
theorem map_release?_shed {numbers : List SubscriptionId} {handles ids : List HandleId}
    {kinds : List ProviderKind} {gates : List FormattingGate} {journal : Journal}
    (apart : handles.Disjoint ids) :
    ids.map (env.shed numbers handles kinds gates journal).handles.release? =
      ids.map env.handles.release? :=
  Handles.map_release?_retireAll apart

/-- The environment after releases that dispose no other handle, with the handles that had them. -/
def releaseAll (env : Environment) (releases : List Release) : Environment :=
  releases.foldl releasePlain env

/-- A release that disposes no other handle pays no heed to handles and the journal. -/
theorem releasePlain_with (env : Environment) (handles : Handles Release) (journal : Journal)
    (release : Release) :
    ∃ journal', ({ env with handles, journal } : Environment).releasePlain release =
      { env.releasePlain release with handles, journal := journal' } := by
  cases release with
  | session id =>
    simp only [releasePlain, disposeSession]
    exact ⟨_, rfl⟩
  | diagnostics id => exact ⟨_, rfl⟩
  | provider kind => exact ⟨_, rfl⟩
  | subscription id => exact ⟨_, rfl⟩
  | gate id => exact ⟨_, rfl⟩

theorem releaseAll_with (env : Environment) (handles : Handles Release) (journal : Journal)
    (releases : List Release) :
    ∃ journal', ({ env with handles, journal } : Environment).releaseAll releases =
      { env.releaseAll releases with handles, journal := journal' } := by
  induction releases generalizing env journal with
  | nil => exact ⟨journal, rfl⟩
  | cons release releases ih =>
    obtain ⟨between, first⟩ := releasePlain_with env handles journal release
    obtain ⟨journal', rest⟩ := ih (env.releasePlain release) between
    refine ⟨journal', ?_⟩
    show Environment.releaseAll (releasePlain _ release) releases = _
    rw [first]
    exact rest

/-- The environment without the release of a handle. -/
def taking (env : Environment) (handle : HandleId) (label : String) : Environment :=
  { env with
    handles := env.handles.retire handle
    journal := env.journal ++ [.disposeHandle label] }

/-- A handle that still has its release is disposed by running it. -/
theorem dispose_pending {handle : HandleId} {label : String} {release : Release}
    (pending : env.handles.pending? handle = some (label, release)) :
    env.dispose handle = ((env.taking handle label).runRelease release, true) ∧
      env.disposePlain handle = ((env.taking handle label).releasePlain release, true) := by
  have taken : env.take? handle = some (env.taking handle label, release) := by
    unfold take?
    rw [pending]
    rfl
  constructor
  · simp only [dispose, taken]
  · simp only [disposePlain, taken]

/-- A handle that still has a plain release is disposed by running it. -/
theorem dispose_plain {handle : HandleId} {release : Release}
    (pending : env.handles.release? handle = some release) (plain : ∀ id, release ≠ .gate id) :
    ∃ journal, env.dispose handle =
      ({ env.releasePlain release with handles := env.handles.retire handle, journal }, true) ∧
      env.disposePlain handle = env.dispose handle := by
  obtain ⟨label, pending⟩ := Handles.release?_eq_some.mp pending
  obtain ⟨disposed, disposed'⟩ := dispose_pending pending
  have runs : (env.taking handle label).runRelease release =
      (env.taking handle label).releasePlain release := by
    cases release with
    | gate id => exact absurd rfl (plain id)
    | _ => rfl
  obtain ⟨journal, ran⟩ := releasePlain_with env (env.handles.retire handle)
    (env.journal ++ [.disposeHandle label]) release
  exact ⟨journal, by rw [disposed, runs]; exact congrArg (·, true) ran, by
    rw [disposed, disposed', runs]⟩

/-- Handles that still have plain releases are disposed by running those in order. -/
theorem disposeEach_plain {handles : List HandleId} {releases : List Release}
    (nodup : handles.Nodup) (pending : handles.map env.handles.release? = releases.map some)
    (plain : ∀ release ∈ releases, ∀ id, release ≠ .gate id) :
    ∃ journal, disposeEach dispose env handles =
        ({ env.releaseAll releases with handles := env.handles.retireAll handles, journal },
          handles.length) ∧
      disposeEach disposePlain env handles = disposeEach dispose env handles := by
  induction handles generalizing env releases with
  | nil =>
    cases releases with
    | nil => exact ⟨env.journal, rfl, rfl⟩
    | cons => cases pending
  | cons handle handles ih =>
    cases releases with
    | nil => cases pending
    | cons release releases =>
      simp only [List.map_cons, List.cons.injEq] at pending
      obtain ⟨own, later⟩ := pending
      obtain ⟨away, nodup⟩ := List.nodup_cons.mp nodup
      obtain ⟨journal, first, same⟩ := dispose_plain own (plain release List.mem_cons_self)
      -- the other handles have their releases still
      have kept : handles.map (env.handles.retire handle).release? = releases.map some := by
        rw [← later]
        refine List.map_congr_left fun other ho => ?_
        have ne : other ≠ handle := fun he => away (he ▸ ho)
        rw [Handles.release?_retire, if_neg ne]
      obtain ⟨journal', rest, same'⟩ := @ih
        { env.releasePlain release with handles := env.handles.retire handle, journal }
        releases nodup kept fun release hr => plain release (List.mem_cons_of_mem _ hr)
      obtain ⟨journal'', ran⟩ := releaseAll_with (env.releasePlain release)
        (env.handles.retire handle) journal releases
      refine ⟨journal', ?_, ?_⟩
      · simp only [disposeEach, first, rest, if_true, List.length_cons]
        rw [ran]
        rfl
      · simp only [disposeEach, same, first, same']

/-- Ending registrations one after another. -/
theorem disposeEach_providers {handles : List HandleId} {kinds : List ProviderKind}
    (nodup : handles.Nodup)
    (pending : handles.map env.handles.release? = (kinds.map Release.provider).map some) :
    ∃ journal, disposeEach dispose env handles =
        (env.shed [] handles kinds env.gates journal, handles.length) ∧
      disposeEach disposePlain env handles = disposeEach dispose env handles := by
  have ends (env : Environment) : env.releaseAll (kinds.map .provider) =
      { env with ledger := env.ledger.unregisterAll kinds } := by
    clear pending
    induction kinds generalizing env with
    | nil => simp [releaseAll, Ledger.unregisterAll]
    | cons kind kinds ih =>
      refine (ih (env.releasePlain (.provider kind))).trans ?_
      simp [releasePlain, Ledger.unregister, Ledger.unregisterAll]
  obtain ⟨journal, disposed, same⟩ := disposeEach_plain nodup pending (by simp)
  refine ⟨journal, ?_, same⟩
  rw [disposed, ends]
  simp [shed]

/-- Ending subscriptions one after another. -/
theorem disposeEach_subscriptions {handles : List HandleId} {numbers : List SubscriptionId}
    (nodup : handles.Nodup)
    (pending : handles.map env.handles.release? = (numbers.map Release.subscription).map some) :
    ∃ journal, disposeEach dispose env handles =
      (env.shed numbers handles [] env.gates journal, handles.length) := by
  have ends (env : Environment) : env.releaseAll (numbers.map .subscription) =
      { env with bus.subscriptions := env.bus.subscriptions.filter (·.id ∉ numbers) } := by
    clear pending
    induction numbers generalizing env with
    | nil => simp [releaseAll]
    | cons number numbers ih =>
      refine (ih (env.releasePlain (.subscription number))).trans ?_
      simp [releasePlain, EventBus.unsubscribe, List.filter_filter, Bool.and_comm]
  obtain ⟨journal, disposed, -⟩ := disposeEach_plain nodup pending (by simp)
  refine ⟨journal, ?_⟩
  rw [disposed, ends]
  simp [shed, Ledger.unregisterAll]

theorem release?_shed {numbers : List SubscriptionId} {handles : List HandleId} {handle : HandleId}
    {kinds : List ProviderKind} {gates : List FormattingGate} {journal : Journal}
    (away : handle ∉ handles) :
    (env.shed numbers handles kinds gates journal).handles.release? handle =
      env.handles.release? handle :=
  (Handles.release?_retireAll handles handle).trans (if_neg away)

/-! ## Opening and closing a gate -/

/-- The gate of a number, holding something else. -/
def holding (env : Environment) (id : GateId) (active : Option (List HandleId)) :
    List FormattingGate :=
  (env.setGate id { env.gate id with active }).gates

/-- The handles that two more formatting providers get. -/
def nextPair (env : Environment) : List HandleId :=
  List.range' env.handles.all.length ProviderKind.formatting.length

/-- A closed gate is opened by registering the formatting providers. -/
theorem enableGate_eq (closed : (env.gate id).isEnabled = false) :
    ∃ journal, (env.enableGate id).1 = { env with
      handles := env.handles.extend (ProviderKind.formatting.map ProviderKind.handle)
      ledger := env.ledger.registerAll (env.formattingGate id).language ProviderKind.formatting
      gates := env.holding id (some env.nextPair)
      journal } := by
  -- registering leaves the gate closed, so the new handles are taken
  have none : (Environment.gate { env with
      handles := env.handles.extend (ProviderKind.formatting.map ProviderKind.handle)
      ledger := env.ledger.registerAll (env.formattingGate id).language ProviderKind.formatting }
      id).active = none := by
    have before : (env.gate id).active = none := by simpa [FeatureGate.isEnabled] using closed
    exact before
  unfold enableGate
  rw [if_neg (by simp [closed])]
  simp only [registerProviders_eq, FeatureGate.offer, none]
  exact ⟨_, rfl⟩

/-- A closed gate stays closed, and nothing is done. -/
theorem disableGate_closed_eq (closed : (env.gate id).isEnabled = false) :
    env.disableGate id = (env, .unchanged) := by
  have none : (env.gate id).active = none := by simpa [FeatureGate.isEnabled] using closed
  unfold disableGate FeatureGate.takeActive
  rw [none]

/-- An open gate is closed by ending the registrations that it holds. -/
theorem disableGate_eq {ids : List HandleId} {kinds : List ProviderKind}
    (active : (env.gate id).active = some ids) (nodup : ids.Nodup)
    (pending : ids.map env.handles.release? = (kinds.map Release.provider).map some) :
    ∃ journal, (env.disableGate id).1 =
      env.shed [] ids.reverse kinds.reverse (env.holding id none) journal := by
  obtain ⟨journal, disposed, same⟩ := @disposeEach_providers
    (env.setGate id { env.gate id with active := none }) ids.reverse kinds.reverse
    (List.nodup_reverse.mpr nodup)
    (by rw [List.map_reverse, List.map_reverse, List.map_reverse, ← pending]; rfl)
  unfold disableGate FeatureGate.takeActive
  rw [active]
  dsimp only at disposed same ⊢
  rw [same, disposed]
  exact ⟨_, rfl⟩

/-- A gate that holds nothing is as it was when it is told to hold nothing. -/
theorem holding_none (closed : (env.gate id).isEnabled = false) : env.holding id none = env.gates := by
  have none : (env.gate id).active = none := by simpa [FeatureGate.isEnabled] using closed
  have same : { env.gate id with active := Option.none } = env.gate id := by
    rw [← none]
  rw [holding, same, setGate_self]

/-- Disposing the handle of a gate ends the registrations that the gate holds. -/
theorem dispose_gate {handle : HandleId} {kinds : List ProviderKind}
    (pending : env.handles.release? handle = some (.gate id))
    (held : ∀ ids ∈ (env.gate id).active,
      ids.map env.handles.release? = (kinds.map Release.provider).map some)
    (nodup : (handle :: (env.gate id).held).Nodup) :
    ∃ journal, env.dispose handle = (env.shed [] (handle :: (env.gate id).held.reverse)
      (if (env.gate id).isEnabled then kinds.reverse else []) (env.holding id none) journal,
        true) := by
  obtain ⟨label, pending⟩ := Handles.release?_eq_some.mp pending
  obtain ⟨away, nodup⟩ := List.nodup_cons.mp nodup
  rw [(dispose_pending pending).1]
  simp only [runRelease]
  cases active : (env.gate id).active with
  | none =>
    have closed : (env.gate id).isEnabled = false := by simp [FeatureGate.isEnabled, active]
    have still : ((env.taking handle label).gate id).isEnabled = false := closed
    rw [disableGate_closed_eq still, holding_none closed, closed]
    refine ⟨env.journal ++ [.disposeHandle label], ?_⟩
    simp [FeatureGate.held, active, Handles.retireAll, Ledger.unregisterAll, taking, shed]
  | some ids =>
    have enabled : (env.gate id).isEnabled = true := by simp [FeatureGate.isEnabled, active]
    have ids_held : (env.gate id).held = ids := by simp [FeatureGate.held, active]
    rw [ids_held] at away nodup ⊢
    rw [enabled]
    -- taking the release of the gate's handle leaves those of the held ones
    have kept : ids.map (env.handles.retire handle).release? =
        (kinds.map Release.provider).map some := by
      rw [← held ids active]
      refine List.map_congr_left fun other ho => ?_
      have ne : other ≠ handle := fun he => away (he ▸ ho)
      rw [Handles.release?_retire, if_neg ne]
    obtain ⟨journal, closes⟩ := @disableGate_eq (env.taking handle label) id ids kinds active
      nodup kept
    refine ⟨journal, ?_⟩
    rw [closes]
    rfl

/-! ## Disposing what an activation holds -/

theorem disposeEach_append (dispose : Environment → HandleId → Environment × Bool)
    (env : Environment) (first second : List HandleId) :
    disposeEach dispose env (first ++ second) =
      ((disposeEach dispose (disposeEach dispose env first).1 second).1,
        (disposeEach dispose env first).2 +
          (disposeEach dispose (disposeEach dispose env first).1 second).2) := by
  induction first generalizing env with
  | nil => simp [disposeEach]
  | cons handle first ih =>
    simp only [List.cons_append, disposeEach, ih]
    split <;> simp [Nat.add_right_comm]

/-- Handles that are all released are released one row after the other. -/
theorem disposeEach_then {dispose : Environment → HandleId → Environment × Bool}
    {env between after : Environment} {first second : List HandleId} {n m : Nat}
    (before : disposeEach dispose env first = (between, n))
    (later : disposeEach dispose between second = (after, m)) :
    disposeEach dispose env (first ++ second) = (after, n + m) := by
  rw [disposeEach_append, before, later]

theorem disposeEach_one {dispose : Environment → HandleId → Environment × Bool}
    {env after : Environment} {handle : HandleId} (disposed : dispose env handle = (after, true)) :
    disposeEach dispose env [handle] = (after, 1) := by
  simp [disposeEach, disposed]

end Environment

end EngineSync
