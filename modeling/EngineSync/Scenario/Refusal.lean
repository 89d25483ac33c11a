/-!
# Refused requests

A request can be unusable for a reason of its own: it names something that is not there, or a text
in it is no identifier.
-/
namespace EngineSync.Scenario

/-- Why a request was not carried out. -/
inductive Refusal where
  | unusable (what : String)
  | invalidUri (text : String)
deriving DecidableEq, Repr, Inhabited

namespace Refusal

/-- The name of the reason. -/
def kind : Refusal → String
  | .unusable _ => "BadInput"
  | .invalidUri _ => "InvalidUri"

/-- What the request is refused for. -/
def message : Refusal → String
  | .unusable what => what
  | .invalidUri text => text

end Refusal
end EngineSync.Scenario
