import EngineSync.FileTree.Change
import EngineSync.Scenario.Refusal

/-!
# Changes to the files of a scenario
-/
namespace EngineSync.Scenario

/-- A change to the files. -/
inductive FileStep where
  | write (path : String) (bytes : List UInt8)
  | makeDirectory (path : String)
  | link (path target : String)
  | remove (path : String)
deriving DecidableEq, Repr, Inhabited

namespace FileStep

/-- The tree after a change. -/
def change (tree : FileTree) : FileStep → FileTree.Change
  | .write path bytes => tree.write path bytes
  | .makeDirectory path => tree.makeDirectories path
  | .link path target => tree.link path target
  | .remove path => tree.remove path

/-- Carries out a change; one that fails is refused by its cause. -/
def run (tree : FileTree) (step : FileStep) : FileTree × Except Refusal Unit :=
  match step.change tree with
  | (tree, .ok ()) => (tree, .ok ())
  | (tree, .error kind) => (tree, .error (.unusable kind.name))

end FileStep
end EngineSync.Scenario
