import Mathlib.Data.List.Induction
import Mathlib.Data.List.Perm.Basic
import EngineSync.Proofs.Releases

/-!
# What the ledger of a host accounts for

A host hands out one handle for every registration.  Whoever has a clone of it may dispose it, at
any time and as often as they like, and the host learns of it only through its ledger.  Here every
registration has a flag besides, which is up until somebody disposes it (`Flags`).

The live providers are read off the ledger by taking away the oldest one of a kind for each end, so
the list need not show the registration that did end, but another one of its kind.  As a multiset it
is right: no registration of a kind ends before it is there (`Ledger.Balanced`), so each end takes
one away, and those left are the ones whose flag is up (`Registry.Accounted`).
-/
namespace EngineSync

namespace Ledger
variable {ledger : Ledger}

/-- Up to any point no more registrations of a kind have ended than there were. -/
def Balanced (ledger : Ledger) : Prop :=
  ∀ changes, changes <+: ledger.changes → ∀ kind,
    changes.count (.unregistered kind) ≤ changes.count (.registered kind)

theorem balanced_empty : empty.Balanced := by
  intro changes initial kind
  rw [List.prefix_nil.mp initial]
  exact Nat.le_refl _

theorem live_register (binding : ProviderBinding) :
    (ledger.register binding).live = ledger.live ++ [binding.kind] := by
  simp [live, register, List.foldl_append, applyChange]

theorem live_unregister (kind : ProviderKind) :
    (ledger.unregister kind).live = ledger.live.erase kind := by
  simp [live, unregister, List.foldl_append, applyChange]

/-- What is live of a kind and what has ended of it are all its registrations. -/
theorem Balanced.count_live (balanced : ledger.Balanced) (kind : ProviderKind) :
    ledger.live.count kind + ledger.changes.count (.unregistered kind) =
      ledger.changes.count (.registered kind) := by
  obtain ⟨changes, bindings⟩ := ledger
  -- the changes are added one after another at the end
  induction changes using List.reverseRecOn with
  | nil => rfl
  | append_singleton changes change ih =>
    have before : (⟨changes, bindings⟩ : Ledger).Balanced := fun initial le =>
      balanced initial (le.trans (List.prefix_append _ _))
    have ih := ih before
    have le := balanced (changes ++ [change]) (List.prefix_refl _) kind
    dsimp only at ih ⊢
    cases change with
    | registered other =>
      have live : (⟨changes ++ [.registered other], bindings⟩ : Ledger).live =
          (⟨changes, bindings⟩ : Ledger).live ++ [other] := by
        simp [Ledger.live, applyChange]
      rw [live, List.count_append, List.count_append, List.count_append]
      simp only [List.count_singleton, beq_iff_eq, ProviderChange.registered.injEq, reduceCtorEq,
        if_false]
      omega
    | unregistered other =>
      have live : (⟨changes ++ [.unregistered other], bindings⟩ : Ledger).live =
          (⟨changes, bindings⟩ : Ledger).live.erase other := by
        simp [Ledger.live, applyChange]
      rw [List.count_append, List.count_append] at le
      rw [live, List.count_erase, List.count_append, List.count_append]
      simp only [List.count_singleton, beq_iff_eq, ProviderChange.unregistered.injEq, reduceCtorEq,
        if_false] at le ⊢
      split_ifs at le ⊢ <;> omega

/-- One more change at the end. -/
theorem Balanced.concat (balanced : ledger.Balanced) {after : Ledger} {change : ProviderChange}
    (changes : after.changes = ledger.changes ++ [change])
    (whole : ∀ kind, after.changes.count (.unregistered kind) ≤
      after.changes.count (.registered kind)) : after.Balanced := by
  intro initial le kind
  rw [changes] at le
  rcases List.prefix_concat_iff.mp le with all | earlier
  · rw [all, ← changes]
    exact whole kind
  · exact balanced initial earlier kind

theorem Balanced.register (balanced : ledger.Balanced) (binding : ProviderBinding) :
    (ledger.register binding).Balanced := by
  refine balanced.concat rfl fun kind => ?_
  have le := balanced ledger.changes (List.prefix_refl _) kind
  simp only [Ledger.register, List.count_append, List.count_singleton, beq_iff_eq, reduceCtorEq,
    if_false]
  omega

/-- A registration that is live may end. -/
theorem Balanced.unregister (balanced : ledger.Balanced) {kind : ProviderKind}
    (live : kind ∈ ledger.live) : (ledger.unregister kind).Balanced := by
  refine balanced.concat rfl fun other => ?_
  have all := balanced.count_live other
  simp only [Ledger.unregister, List.count_append, List.count_singleton, beq_iff_eq,
    ProviderChange.unregistered.injEq, reduceCtorEq, if_false]
  by_cases same : kind = other
  · subst same
    have some_live := List.count_pos_iff.mpr live
    rw [if_pos rfl]
    omega
  · rw [if_neg same]
    omega

end Ledger

namespace Handles
variable {ρ : Type} {table : Handles ρ}

theorem isLive_eq (id : HandleId) : table.isLive id = (table.release? id).isSome := by
  simp [isLive, release?]

theorem isLive_add (label : String) (release : ρ) (id : HandleId) :
    (table.add label release).1.isLive id =
      if id = table.all.length then true else table.isLive id := by
  unfold isLive
  rw [pending?_add]
  split <;> rfl

theorem isLive_retire (id id' : HandleId) :
    (table.retire id).isLive id' = if id' = id then false else table.isLive id' := by
  unfold isLive
  rw [pending?_retire]
  split <;> rfl

end Handles

namespace Environment
variable {env : Environment}

/-- Disposing the handle of a registration ends that registration, the first time. -/
theorem dispose_registration {kind : ProviderKind} {handle : HandleId}
    (own : ∀ release, env.handles.release? handle = some release → release = .provider kind) :
    (env.handles.isLive handle = false ∧ (env.dispose handle).1 = env) ∨
      (env.handles.isLive handle = true ∧
        (env.dispose handle).1.handles = env.handles.retire handle ∧
        (env.dispose handle).1.ledger = env.ledger.unregister kind) := by
  rw [Handles.isLive_eq]
  cases found : env.handles.release? handle with
  | none =>
    have gone : env.handles.pending? handle = none := by simpa [Handles.release?] using found
    exact .inl ⟨rfl, by simp [dispose, take?, gone]⟩
  | some release =>
    obtain rfl := own release found
    obtain ⟨journal, disposed, -⟩ := dispose_plain found (by simp)
    rw [disposed]
    exact .inr ⟨rfl, rfl, rfl⟩

end Environment

/-- What is done to a host: a registration, or a disposal of the handle that came back from one of
them, counted from zero, by whoever has a clone of it. -/
inductive ProviderAction where
  | register (language : String) (kind : ProviderKind)
  | dispose (registration : Nat)
deriving DecidableEq, Repr

/-- Registrations by their kinds, each with a flag that is up until it is disposed. -/
abbrev Flags := List (ProviderKind × Bool)

namespace Flags

/-- The flags after one more action.  Whoever names no registration disposes nothing. -/
def perform (flags : Flags) : ProviderAction → Flags
  | .register _ kind => flags ++ [(kind, true)]
  | .dispose registration => flags.modify registration fun (kind, _) => (kind, false)

/-- The flags of the registrations that some actions make. -/
def after (actions : List ProviderAction) : Flags :=
  actions.foldl perform []

/-- The kinds whose flag is up. -/
def up (flags : Flags) : List ProviderKind :=
  (flags.filter (·.2)).map (·.1)

/-- Lowering a flag that is up takes away one of its kind. -/
theorem up_lower {flags : Flags} {place : Nat} {kind : ProviderKind}
    (here : flags[place]? = some (kind, true)) :
    flags.up.Perm (kind :: up (flags.modify place fun (kind, _) => (kind, false))) := by
  induction flags generalizing place with
  | nil => simp at here
  | cons flag flags ih =>
    cases place with
    | zero =>
      obtain rfl : flag = (kind, true) := by simpa using here
      simp [up]
    | succ place =>
      have rest := ih (by simpa using here)
      obtain ⟨other, raised⟩ := flag
      cases raised with
      | false => simpa [up] using rest
      | true =>
        have swapped := (rest.cons other).trans (List.Perm.swap kind other _)
        simpa [up] using swapped

end Flags

/-- A host with the registrations made on it so far, each with its kind and its handle. -/
structure Registry where
  env : Environment
  registrations : List (ProviderKind × HandleId)

namespace Registry

/-- A host on which nothing was registered so far. -/
def start (env : Environment) : Registry :=
  ⟨env, []⟩

/-- One action. -/
def perform (registry : Registry) : ProviderAction → Registry
  | .register language kind =>
    let (env, handle) := registry.env.registerProvider language kind
    ⟨env, registry.registrations ++ [(kind, handle)]⟩
  | .dispose registration =>
    match registry.registrations[registration]? with
    | none => registry
    | some (_, handle) => { registry with env := (registry.env.dispose handle).1 }

/-- Actions one after another. -/
def run (registry : Registry) (actions : List ProviderAction) : Registry :=
  actions.foldl perform registry

/-- The registrations, each with whether its handle is not disposed yet. -/
def flags (registry : Registry) : Flags :=
  registry.registrations.map fun (kind, handle) => (kind, registry.env.handles.isLive handle)

/-- Every registration has a handle of its own, which does nothing but end it, and the ledger is
balanced and tells what is live. -/
structure Accounted (registry : Registry) : Prop where
  own : ∀ kind handle, (kind, handle) ∈ registry.registrations → ∀ release,
    registry.env.handles.release? handle = some release → release = .provider kind
  made : ∀ handle ∈ registry.registrations.map (·.2), handle < registry.env.handles.all.length
  once : (registry.registrations.map (·.2)).Nodup
  balanced : registry.env.ledger.Balanced
  live : registry.env.ledger.live.Perm registry.flags.up

variable {registry : Registry}

theorem accounted_start {env : Environment} (fresh : env.ledger = .empty) :
    (start env).Accounted where
  own := nofun
  made := nofun
  once := List.nodup_nil
  balanced := by
    show env.ledger.Balanced
    rw [fresh]
    exact Ledger.balanced_empty
  live := by
    show env.ledger.live.Perm []
    rw [fresh]
    exact List.Perm.nil

/-! ## Registrations -/

theorem flags_register (made : ∀ handle ∈ registry.registrations.map (·.2),
      handle < registry.env.handles.all.length) (language : String) (kind : ProviderKind) :
    (registry.perform (.register language kind)).flags = registry.flags ++ [(kind, true)] := by
  have older (entry : ProviderKind × HandleId) (mem : entry ∈ registry.registrations) :
      entry.2 ≠ registry.env.handles.all.length :=
    Nat.ne_of_lt (made entry.2 (List.mem_map_of_mem mem))
  simp only [flags, perform, Environment.registerProvider, Environment.addHandle,
    List.map_append, List.map_cons, List.map_nil, Handles.isLive_add]
  refine congrArg₂ (· ++ ·) (List.map_congr_left fun entry mem => ?_) ?_
  · rw [if_neg (older entry mem)]
  · simp [Handles.add]

theorem Accounted.register (h : registry.Accounted) (language : String) (kind : ProviderKind) :
    (registry.perform (.register language kind)).Accounted := by
  have fresh : registry.env.handles.all.length ∉ registry.registrations.map (·.2) :=
    fun mem => Nat.lt_irrefl _ (h.made _ mem)
  have grown : (registry.perform (.register language kind)).env.handles =
      (registry.env.handles.add kind.label (.provider kind)).1 := rfl
  have listed : (registry.perform (.register language kind)).registrations =
      registry.registrations ++ [(kind, registry.env.handles.all.length)] := rfl
  have noted : (registry.perform (.register language kind)).env.ledger =
      registry.env.ledger.register ⟨kind, language⟩ := rfl
  refine ⟨?_, ?_, ?_, ?_, ?_⟩
  · intro kind' handle mem release found
    rw [grown] at found
    simp only [Handles.release?, Handles.pending?_add] at found
    rw [listed] at mem
    rcases List.mem_append.mp mem with old | new
    · have ne : handle ≠ registry.env.handles.all.length :=
        Nat.ne_of_lt (h.made handle (List.mem_map_of_mem old))
      rw [if_neg ne] at found
      exact h.own kind' handle old release found
    · obtain ⟨rfl, rfl⟩ : kind' = kind ∧ handle = registry.env.handles.all.length := by
        simpa using new
      rw [if_pos rfl] at found
      exact (Option.some.inj found).symm
  · intro handle mem
    rw [grown, Handles.add, List.length_append, List.length_singleton]
    rw [listed, List.map_append] at mem
    rcases List.mem_append.mp mem with old | new
    · exact Nat.lt_succ_of_lt (h.made handle old)
    · obtain rfl : handle = registry.env.handles.all.length := by simpa using new
      exact Nat.lt_succ_self _
  · rw [listed, List.map_append]
    refine List.nodup_append.mpr ⟨h.once, List.nodup_singleton _, fun handle old other new same => ?_⟩
    obtain rfl : other = registry.env.handles.all.length := by simpa using new
    exact fresh (same ▸ old)
  · rw [noted]
    exact h.balanced.register _
  · rw [noted, Ledger.live_register, flags_register h.made]
    simpa [Flags.up] using h.live.append_right [kind]

/-! ## Disposals -/

/-- However its handle came to be disposed, the flag of a registration is down and no other one
changes. -/
theorem flags_without {env : Environment} {place : Nat} {kind : ProviderKind} {handle : HandleId}
    (once : (registry.registrations.map (·.2)).Nodup)
    (found : registry.registrations[place]? = some (kind, handle))
    (others : ∀ id, env.handles.isLive id =
      if id = handle then false else registry.env.handles.isLive id) :
    ({ registry with env } : Registry).flags =
      registry.flags.modify place fun (kind, _) => (kind, false) := by
  refine List.ext_getElem? fun other => ?_
  simp only [flags, List.getElem?_map, List.getElem?_modify]
  cases there : registry.registrations[other]? with
  | none => simp
  | some entry =>
    have same : entry.2 = handle ↔ place = other := by
      constructor
      · intro same
        have lt : place < (registry.registrations.map (·.2)).length := by
          simpa using (List.getElem?_eq_some_iff.mp found).1
        refine (List.getElem?_inj lt once).mp ?_
        simp [List.getElem?_map, found, there, same]
      · rintro rfl
        rw [found] at there
        cases there
        rfl
    by_cases here : place = other
    · simp [here, others, same.mpr here]
    · simp [here, others, mt same.mp here]

theorem Accounted.dispose (h : registry.Accounted) (place : Nat) :
    (registry.perform (.dispose place)).flags =
        registry.flags.modify place (fun (kind, _) => (kind, false)) ∧
      (registry.perform (.dispose place)).Accounted := by
  cases found : registry.registrations[place]? with
  | none =>
    have nothing : registry.perform (.dispose place) = registry := by simp [perform, found]
    have out : registry.flags.length ≤ place := by
      simpa [flags] using List.getElem?_eq_none_iff.mp found
    rw [nothing]
    exact ⟨(List.modify_eq_self out).symm, h⟩
  | some entry =>
    obtain ⟨kind, handle⟩ := entry
    have mem : (kind, handle) ∈ registry.registrations := List.mem_of_getElem? found
    have flag : registry.flags[place]? = some (kind, registry.env.handles.isLive handle) := by
      simp [flags, found]
    have disposed : registry.perform (.dispose place) =
        { registry with env := (registry.env.dispose handle).1 } := by simp [perform, found]
    rw [disposed]
    rcases Environment.dispose_registration (h.own kind handle mem) with
      ⟨gone, same⟩ | ⟨live, handles, ledger⟩
    · rw [same]
      refine ⟨flags_without h.once found fun id => ?_, h⟩
      split
      · next here => rw [here, gone]
      · rfl
    · have lowered : ({ registry with env := (registry.env.dispose handle).1 } : Registry).flags =
          registry.flags.modify place fun (kind, _) => (kind, false) :=
        flags_without h.once found fun id => by rw [handles, Handles.isLive_retire]
      rw [live] at flag
      -- the flag was up, so the ledger has one of its kind to take away
      have listed : registry.env.ledger.live.Perm
          (kind :: Flags.up (registry.flags.modify place fun (kind, _) => (kind, false))) :=
        h.live.trans (Flags.up_lower flag)
      refine ⟨lowered, ?_, ?_, h.once, ?_, ?_⟩
      · intro kind' handle' mem' release found'
        refine h.own kind' handle' mem' release ?_
        simp only [handles, Handles.release?_retire] at found'
        split at found'
        · cases found'
        · exact found'
      · intro handle' mem'
        simpa [handles, Handles.retire] using h.made handle' mem'
      · show (registry.env.dispose handle).1.ledger.Balanced
        rw [ledger]
        exact h.balanced.unregister (listed.mem_iff.mpr List.mem_cons_self)
      · rw [lowered]
        show (registry.env.dispose handle).1.ledger.live.Perm _
        rw [ledger, Ledger.live_unregister]
        simpa using listed.erase kind

/-! ## Every run -/

/-- Whatever is done, the handles show the flags that the actions leave, and the ledger accounts for
them. -/
theorem Accounted.perform (h : registry.Accounted) (action : ProviderAction) :
    (registry.perform action).flags = registry.flags.perform action ∧
      (registry.perform action).Accounted := by
  cases action with
  | register language kind => exact ⟨flags_register h.made language kind, h.register language kind⟩
  | dispose registration => exact h.dispose registration

theorem Accounted.run (h : registry.Accounted) (actions : List ProviderAction) :
    (registry.run actions).flags = actions.foldl Flags.perform registry.flags ∧
      (registry.run actions).Accounted := by
  induction actions generalizing registry with
  | nil => exact ⟨rfl, h⟩
  | cons action rest ih =>
    obtain ⟨flags, next⟩ := h.perform action
    obtain ⟨flags', last⟩ := ih next
    exact ⟨flags'.trans (by rw [flags]; rfl), last⟩

/-- **The ledger accounts for every handle**: on a host whose ledger is empty, whatever else there
is on it, and after any registrations and disposals in any order, a handle is live just as long as
nobody disposed it, the live providers are the kinds of the registrations whose handle is live, each
as often as there are such, and at no point of the ledger have more registrations of a kind ended
than there were. -/
theorem ledger_accounts {env : Environment} (fresh : env.ledger = .empty)
    (actions : List ProviderAction) :
    let registry := (start env).run actions
    registry.flags = Flags.after actions ∧
      registry.env.ledger.live.Perm (Flags.after actions).up ∧
      ∀ changes, changes <+: registry.env.ledger.changes → ∀ kind,
        changes.count (.unregistered kind) ≤ changes.count (.registered kind) := by
  intro registry
  obtain ⟨shown, accounted⟩ := (accounted_start fresh).run actions
  have flags : registry.flags = Flags.after actions := shown
  exact ⟨flags, flags ▸ accounted.live, accounted.balanced⟩

/-- Of two registrations of one kind the later one is disposed, twice, before a third one is made.
The list of the live ones then shows the other kind first, though the handle that is still live is
the older one's. -/
theorem ledger_accounts_of_later_twin :
    let env : Environment := .initial (.initial ⟨false, false, false⟩ default []) .empty
      (.memory .standard) []
    let actions : List ProviderAction := [.register "qsharp" .hover, .register "qsharp" .rename,
      .register "qsharp" .hover, .dispose 2, .dispose 2, .dispose 7, .register "other" .codeLens]
    let registry := (start env).run actions
    env.ledger = .empty ∧
      registry.env.ledger.live = [.rename, .hover, .codeLens] ∧
      registry.flags = [(.hover, true), (.rename, true), (.hover, false), (.codeLens, true)] ∧
      registry.env.ledger.live.Perm [.hover, .rename, .codeLens] := by
  intro env actions registry
  obtain ⟨flags, live, -⟩ := ledger_accounts (rfl : env.ledger = .empty) actions
  exact ⟨rfl, by decide, flags, live⟩

end Registry
end EngineSync
