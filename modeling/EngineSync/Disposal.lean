import EngineSync.Handle
import EngineSync.Journal

/-!
# Disposal

A family of handles whose release actions dispose handles of the same family, by name and in any
pattern: themselves, each other, members of one owner.  Releasing works off an agenda.  A handle
puts its release action on the agenda once and everything else shortens it, so every disposal ends,
whatever the pattern.
-/
namespace EngineSync

/-- What a release action reports, in the name of its owner. -/
inductive ReleaseNote where
  | released (owner : String)
  | disposed (owner other : String) (outcome : Option Bool)
  | looked (owner other : String) (outcome : Option Bool)
deriving DecidableEq, Repr, Inhabited

namespace ReleaseNote

/-- An outcome in words; a name without a handle is missing. -/
def outcomeText : Option Bool → String
  | none => "missing"
  | some outcome => Text.flag outcome

/-- The wording of a note. -/
def text : ReleaseNote → String
  | .released owner => "release " ++ owner
  | .disposed owner other outcome => owner ++ " disposes " ++ other ++ ": " ++ outcomeText outcome
  | .looked owner other outcome => owner ++ " sees " ++ other ++ ": " ++ outcomeText outcome

end ReleaseNote

/-- One part of a release action. -/
inductive ReleaseStep where
  | note (note : ReleaseNote)
  | dispose (owner other : String)
  | look (owner other : String)
deriving DecidableEq, Repr, Inhabited

/-- A release action, in order. -/
abbrev ReleaseAction := List ReleaseStep

namespace ReleaseAction

/-- Announces its owner, disposes some handles and looks at others. -/
def announced (owner : String) (disposes looks : List String) : ReleaseAction :=
  .note (.released owner) ::
    (disposes.map (ReleaseStep.dispose owner) ++ looks.map (ReleaseStep.look owner))

/-- Does nothing. -/
def silent : ReleaseAction :=
  []

end ReleaseAction

/-- Handles, the names they go by, and what their releases reported. -/
structure Family where
  handles : Handles ReleaseAction
  names : List (String × HandleId)
  notes : List ReleaseNote
  journal : Journal
deriving DecidableEq, Repr, Inhabited

namespace Family

/-- No handles. -/
def empty : Family :=
  ⟨Handles.empty, [], [], []⟩

/-- The handle that goes by a name. -/
def find? (family : Family) (name : String) : Option HandleId :=
  family.names.lookup name

/-- Gives a handle a name, which no other handle keeps. -/
def bind (family : Family) (name : String) (id : HandleId) : Family :=
  { family with names := (name, id) :: family.names.filter (·.1 ≠ name) }

/-- Takes a name away. -/
def forget (family : Family) (name : String) : Family :=
  { family with names := family.names.filter (·.1 ≠ name) }

/-- Makes a handle under a name. -/
def add (family : Family) (name label : String) (action : ReleaseAction) : Family :=
  let (handles, id) := family.handles.add label action
  { family with handles }.bind name id

/-- Adds a note. -/
def report (family : Family) (note : ReleaseNote) : Family :=
  { family with notes := family.notes ++ [note] }

/-- Takes the release action of a handle and writes so into the journal. -/
def take (family : Family) (id : HandleId) (label : String) : Family :=
  { family with
    handles := family.handles.retire id
    journal := family.journal ++ [.disposeHandle label] }

/-- How much there is still to do at most: the agenda, and what live handles can add to it. -/
def weight (family : Family) (agenda : List ReleaseStep) : Nat :=
  family.handles.liveWeight (fun action => action.length + 1) + agenda.length

/-- Works off an agenda. -/
def run (family : Family) : List ReleaseStep → Family
  | [] => family
  | .note note :: rest => (family.report note).run rest
  | .look owner other :: rest =>
    (family.report (.looked owner other ((family.find? other).map family.handles.isDisposed))).run
      rest
  | .dispose owner other :: rest =>
    match family.find? other with
    | none => (family.report (.disposed owner other none)).run rest
    | some id =>
      match found : family.handles.pending? id with
      | none => (family.report (.disposed owner other (some false))).run rest
      | some (label, action) =>
        have := Handles.liveWeight_retire (fun action => action.length + 1) found
        (family.take id label).run (action ++ .note (.disposed owner other (some true)) :: rest)
termination_by agenda => family.weight agenda
decreasing_by
  all_goals simp only [weight, report, take, List.length_append, List.length_cons]
  all_goals omega

/-- Disposes a handle; tells whether this call released it. -/
def dispose (family : Family) (id : HandleId) : Family × Bool :=
  match family.handles.pending? id with
  | none => (family, false)
  | some (label, action) => ((family.take id label).run action, true)

/-- Disposes what an owner holds, from the last handle to the first; tells how many this
released. -/
def disposeAll (family : Family) (owner : Disposables) : Family × Nat :=
  let (family, released) := disposeEach dispose family owner.held.reverse
  if owner.size = 0 then (family, released)
  else ({ family with journal := family.journal ++ [.teardown owner.size released] }, released)

end Family
end EngineSync
