import EngineSync.Profile

/-!
# Settings

The two options that are recognized, at one point in time.
-/
namespace EngineSync

/-- The recognized options. -/
structure Settings where
  profile : Profile
  formatting : Bool
deriving DecidableEq, Repr

namespace Settings

/-- What holds where nothing is given: no restrictions, and formatting is on. -/
def standard : Settings :=
  { profile := .unrestricted, formatting := true }

instance : Inhabited Settings := ⟨standard⟩

end Settings
end EngineSync
