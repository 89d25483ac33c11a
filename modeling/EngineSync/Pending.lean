/-!
# Pending calls

Calls that were started and have not finished.  They are given the chance to go on one after
another, in the order in which they were started, and this is repeated until none of them can.
-/
namespace EngineSync

/-- What became of a call that was given the chance to go on. -/
inductive Progress (κ ρ : Type) where
  | pending (call : κ)
  | finished (result : ρ)
deriving DecidableEq, Repr, Inhabited

/-- Changes both outcomes. -/
def Progress.map {κ κ' ρ ρ' : Type} (f : κ → κ') (g : ρ → ρ') : Progress κ ρ → Progress κ' ρ'
  | .pending call => .pending (f call)
  | .finished result => .finished (g result)

/-- A call that has not finished, and the name it goes by. -/
structure Pending (κ : Type) where
  id : String
  call : κ
deriving DecidableEq, Repr, Inhabited

/-- The state that calls share, the calls that have not finished, and the results of the others. -/
structure Course (σ κ ρ : Type) where
  state : σ
  pending : List (Pending κ)
  finished : List (String × ρ)
deriving Repr, Inhabited

namespace Pending
variable {σ κ ρ : Type}

/-- Gives every call one chance to go on, in order. -/
def round (poll : σ → κ → σ × Progress κ ρ) (state : σ) : List (Pending κ) → Course σ κ ρ
  | [] => ⟨state, [], []⟩
  | next :: rest =>
    match poll state next.call with
    | (state, .pending call) =>
      let after := round poll state rest
      { after with pending := ⟨next.id, call⟩ :: after.pending }
    | (state, .finished result) =>
      let after := round poll state rest
      { after with finished := (next.id, result) :: after.finished }

/-- How many moves calls have still to make. -/
def totalWeight (weight : κ → Nat) (pending : List (Pending κ)) : Nat :=
  pending.foldr (fun next total => weight next.call + total) 0

/-- Repeats rounds as long as they bring calls further. -/
def settleFrom (poll : σ → κ → σ × Progress κ ρ) (weight : κ → Nat) (state : σ)
    (pending : List (Pending κ)) : Course σ κ ρ :=
  let after := round poll state pending
  if totalWeight weight after.pending < totalWeight weight pending then
    let later := settleFrom poll weight after.state after.pending
    { later with finished := after.finished ++ later.finished }
  else after
termination_by totalWeight weight pending

/-- Lets calls go on until none of them can.  The first round starts those that have not run, so
their weight counts from then on. -/
def settle (poll : σ → κ → σ × Progress κ ρ) (weight : κ → Nat) (state : σ)
    (pending : List (Pending κ)) : Course σ κ ρ :=
  let after := round poll state pending
  let later := settleFrom poll weight after.state after.pending
  { later with finished := after.finished ++ later.finished }

/-- Takes out the calls of one name and gives them up. -/
def cancel (drop : σ → κ → σ) (state : σ) (id : String) (pending : List (Pending κ)) :
    σ × List (Pending κ) :=
  ((pending.filter (·.id = id)).foldl (fun state next => drop state next.call) state,
    pending.filter (·.id ≠ id))

end Pending
end EngineSync
