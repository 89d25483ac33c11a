import EngineSync.Profile
import EngineSync.Json.Fields

/-!
# Configuration payload

What a configuration call carries to the engine: the target profile and nothing else.
-/
namespace EngineSync

/-- The payload of a configuration call. -/
structure Configuration where
  targetProfile : Profile
deriving DecidableEq, Repr, Inhabited

namespace Configuration

/-- The written form of a payload. -/
def toJson (c : Configuration) : Json :=
  .object [("targetProfile", c.targetProfile.toJson)]

/-- Reads a payload; the profile is required. -/
def ofTree? (tree : Json.Tree) : Option Configuration :=
  match Json.fields? ["targetProfile"] tree with
  | some [some profile] => (Profile.ofTree? profile).map (⟨·⟩)
  | _ => none

end Configuration
end EngineSync
