import EngineSync.Text.Outline

/-!
# Handles

A handle stands for a resource that is released at most once.  Handles live in a table and are named
by their place in it, so that any number of holders can name the same one.  The release action is
taken out of the table before it runs: whoever finds it has the duty to run it, and nobody finds it
twice.  So the weight of the actions that were not taken bounds whatever releasing can still do.
-/
namespace EngineSync

/-- The place of a handle in its table. -/
abbrev HandleId := Nat

/-- A handle: its label and, until it is disposed, its release action. -/
structure Handle (ρ : Type) where
  label : String
  release : Option ρ
deriving DecidableEq, Repr, Inhabited

namespace Handle
variable {ρ : Type}

/-- Whether the release action was taken. -/
def isDisposed (handle : Handle ρ) : Bool :=
  handle.release.isNone

/-- The outline of a handle. -/
def outline (handle : Handle ρ) : String :=
  Text.outline "DisposableHandle"
    [("label", Text.quoted handle.label), ("disposed", Text.flag handle.isDisposed)] false

end Handle

/-- Every handle made so far. -/
structure Handles (ρ : Type) where
  all : List (Handle ρ)
deriving DecidableEq, Repr, Inhabited

namespace Handles
variable {ρ : Type}

/-- No handles. -/
def empty : Handles ρ :=
  ⟨[]⟩

/-- The handle at a place. -/
def get? (table : Handles ρ) (id : HandleId) : Option (Handle ρ) :=
  table.all[id]?

/-- Makes a handle, at the next place. -/
def add (table : Handles ρ) (label : String) (release : ρ) : Handles ρ × HandleId :=
  (⟨table.all ++ [⟨label, some release⟩]⟩, table.all.length)

/-- The release action of a handle that is still live, with its label. -/
def pending? (table : Handles ρ) (id : HandleId) : Option (String × ρ) :=
  (table.get? id).bind fun handle => handle.release.map fun release => (handle.label, release)

/-- Whether a handle is still live. -/
def isLive (table : Handles ρ) (id : HandleId) : Bool :=
  (table.pending? id).isSome

/-- Whether a handle is disposed. -/
def isDisposed (table : Handles ρ) (id : HandleId) : Bool :=
  !table.isLive id

/-- Takes the release action away from a handle. -/
def retire (table : Handles ρ) (id : HandleId) : Handles ρ :=
  ⟨table.all.modify id fun handle => { handle with release := none }⟩

/-- The total weight of the release actions that were not taken. -/
def liveWeight (table : Handles ρ) (weight : ρ → Nat) : Nat :=
  table.all.foldr (fun handle total => (handle.release.map weight).getD 0 + total) 0

/-- The label of a handle. -/
def label (table : Handles ρ) (id : HandleId) : String :=
  ((table.get? id).map (·.label)).getD ""

/-- The outline of a handle. -/
def outline (table : Handles ρ) (id : HandleId) : String :=
  ((table.get? id).map (·.outline)).getD ""

theorem foldr_modify_release (weight : ρ → Nat) (all : List (Handle ρ)) (id : Nat)
    (handle : Handle ρ) (found : all[id]? = some handle) :
    (all.modify id fun handle => { handle with release := none }).foldr
        (fun handle total => (handle.release.map weight).getD 0 + total) 0 +
        (handle.release.map weight).getD 0 =
      all.foldr (fun handle total => (handle.release.map weight).getD 0 + total) 0 := by
  induction all generalizing id with
  | nil => simp at found
  | cons head rest ih =>
    cases id with
    | zero =>
      simp only [List.getElem?_cons_zero, Option.some.injEq] at found
      subst found
      simp only [List.modify_zero_cons, List.foldr_cons, Option.map_none, Option.getD_none]
      omega
    | succ id =>
      have := ih id (by simpa using found)
      simp only [List.modify_succ_cons, List.foldr_cons]
      omega

/-- Taking a release action takes its weight away. -/
theorem liveWeight_retire {table : Handles ρ} {id : HandleId} {label : String} {release : ρ}
    (weight : ρ → Nat) (found : table.pending? id = some (label, release)) :
    (table.retire id).liveWeight weight + weight release = table.liveWeight weight := by
  simp only [pending?, Option.bind_eq_some_iff, Option.map_eq_some_iff, Prod.mk.injEq] at found
  obtain ⟨handle, at_id, _, held, _, rfl⟩ := found
  have := foldr_modify_release weight table.all id handle at_id
  simp only [retire, liveWeight]
  simpa only [held, Option.map_some, Option.getD_some] using this

end Handles

/-- Disposes handles in order and counts those that this released. -/
def disposeEach {σ : Type} (dispose : σ → HandleId → σ × Bool) (state : σ) :
    List HandleId → σ × Nat
  | [] => (state, 0)
  | id :: rest =>
    let (state, ran) := dispose state id
    let (state, released) := disposeEach dispose state rest
    (state, if ran then released + 1 else released)

/-- The owner of handles, in the order in which it took them. -/
structure Disposables where
  held : List HandleId
deriving DecidableEq, Repr, Inhabited

namespace Disposables

/-- An owner of nothing. -/
def empty : Disposables :=
  ⟨[]⟩

/-- Takes a handle. -/
def push (owner : Disposables) (id : HandleId) : Disposables :=
  ⟨owner.held ++ [id]⟩

/-- Takes handles in order. -/
def extend (owner : Disposables) (ids : List HandleId) : Disposables :=
  ⟨owner.held ++ ids⟩

/-- How many handles are held. -/
def size (owner : Disposables) : Nat :=
  owner.held.length

/-- The outline of an owner, with those of its handles. -/
def outline {ρ : Type} (owner : Disposables) (table : Handles ρ) : String :=
  Text.outline "Disposables"
    [("handles", "[" ++ ", ".intercalate (owner.held.map table.outline) ++ "]")] false

end Disposables
end EngineSync
