import EngineSync.Environment
import EngineSync.Pending

/-!
# The router of configuration changes

Each change of the configuration has one reaction.  The profile comes first: a change that touches
it is answered by applying the profile as it is now, whatever else it touches.  A change of the
formatting toggle brings the gate into the state that the toggle has now.  Nothing else is
recognized.
-/
namespace EngineSync

/-- Where changes are routed to. -/
structure Router where
  session : SessionId
  gate : GateId
deriving DecidableEq, Repr, Inhabited

/-- The reaction to a change. -/
inductive Reaction where
  | profile (profile : Profile)
  | formatting (transition : Transition)
deriving DecidableEq, Repr, Inhabited

/-- A change under way: not looked at, or with the engine. -/
inductive RouteCall where
  | arriving (change : ConfigChange)
  | applying (profile : Profile) (ticket : TicketId)
deriving DecidableEq, Repr, Inhabited

/-- The result of routing a change. -/
abbrev RouteResult := Except EngineFailure (Option Reaction)

namespace RouteCall

/-- How many moves a change has still to make. -/
def weight : RouteCall → Nat
  | .arriving _ => 2
  | .applying .. => 1

end RouteCall

namespace Router

/-- Looks for the engine's answer. -/
def pollApplying (env : Environment) (profile : Profile) (ticket : TicketId) :
    Environment × Progress RouteCall RouteResult :=
  match env.collectProfile? profile ticket with
  | none => (env, .pending (.applying profile ticket))
  | some (env, answer) => (env, .finished (answer.map fun _ => some (.profile profile)))

/-- Reacts to a change of the profile. -/
def routeProfile (router : Router) (env : Environment) :
    Environment × Progress RouteCall RouteResult :=
  let (env, profile) := env.profile
  let env := env.log [.routeProfile ConfigChange.profileKey profile]
  match env.applyProfile router.session profile with
  | (env, .error failure) => (env, .finished (.error failure))
  | (env, .ok ticket) => pollApplying env profile ticket

/-- Reacts to a change of the formatting toggle. -/
def routeFormatting (router : Router) (env : Environment) : Environment × Reaction :=
  let (env, enabled) := env.formatting
  let env := env.log [.routeFormatting ConfigChange.formattingKey enabled]
  let (env, transition) := env.setEnabled router.gate enabled
  (env, .formatting transition)

/-- Looks at a change for the first time. -/
def route (router : Router) (env : Environment) (change : ConfigChange) :
    Environment × Progress RouteCall RouteResult :=
  if change.affects ConfigChange.profileKey then router.routeProfile env
  else if change.affects ConfigChange.formattingKey then
    let (env, reaction) := router.routeFormatting env
    (env, .finished (.ok (some reaction)))
  else (env.log [.routeIgnored change.keys], .finished (.ok none))

/-- Lets a change go on as far as it can. -/
def poll (router : Router) (env : Environment) :
    RouteCall → Environment × Progress RouteCall RouteResult
  | .arriving change => router.route env change
  | .applying profile ticket => pollApplying env profile ticket

/-- Gives up a change under way. -/
def cancel (env : Environment) : RouteCall → Environment
  | .arriving _ => env
  | .applying _ ticket => { env with engine := env.engine.cancel ticket }

end Router
end EngineSync
