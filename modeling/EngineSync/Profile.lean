import EngineSync.Json.Value

/-!
# Target profiles

What the engine compiles for.  Two names are recognized; every other value is kept verbatim, so
that it can still be forwarded and the engine can fall back to its own default.
-/
namespace EngineSync

/-- A target profile. -/
inductive Profile where
  | base
  | unrestricted
  | unrecognized (name : String)
deriving DecidableEq, Repr

namespace Profile

instance : Inhabited Profile := ⟨.unrestricted⟩

/-- Reads a configured name; this never fails. -/
def parse (name : String) : Profile :=
  if name = "base" then .base
  else if name = "unrestricted" then .unrestricted
  else .unrecognized name

/-- The name that is forwarded to the engine. -/
def name : Profile → String
  | .base => "base"
  | .unrestricted => "unrestricted"
  | .unrecognized name => name

/-- Whether the profile is one of the two known ones. -/
def isRecognized : Profile → Bool
  | .unrecognized _ => false
  | _ => true

/-- A profile is written as its name. -/
def toJson (profile : Profile) : Json :=
  .string profile.name

/-- A profile is read from a string. -/
def ofTree? : Json.Tree → Option Profile
  | .string pieces => (Json.pieceText? pieces).map parse
  | _ => none

@[simp] theorem parse_base : parse "base" = .base := rfl

@[simp] theorem parse_unrestricted : parse "unrestricted" = .unrestricted := by
  simp [parse]

@[simp] theorem name_parse (s : String) : (parse s).name = s := by
  unfold parse
  split
  · simp_all [name]
  · split <;> simp_all [name]

end Profile
end EngineSync
