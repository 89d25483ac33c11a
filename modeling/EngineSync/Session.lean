import EngineSync.Engine
import EngineSync.Journal

/-!
# Sessions

The way to a session that all its holders share.  The first disposal reaches the engine and every
request after it is turned away; a request that was under way still gets the engine's answer.  Each
function tells what it leaves in the journal.
-/
namespace EngineSync.Session

/-- What a request leaves in the journal, whether or not the session still takes it. -/
def requestEntry : Request → Entry
  | .update uri version text => .updateDocument uri version text.utf8ByteSize
  | .close uri => .closeDocument uri
  | .configure profile => .updateConfiguration profile

/-- Hands a request to the engine. -/
def request (engine : Engine) (session : SessionId) (request : Request) :
    Engine × Journal × Except EngineFailure TicketId :=
  if engine.isDisposed session then (engine, [requestEntry request], .error .disposed)
  else
    let (engine, ticket) := engine.issue session request
    (engine, [requestEntry request], .ok ticket)

/-- Disposes a session; tells whether this call did it. -/
def dispose (engine : Engine) (session : SessionId) : Engine × Journal × Bool :=
  if engine.isDisposed session then (engine, [], false)
  else (engine.dispose session, [.disposeSession], true)

/-- Applies a profile; one that is not recognized is passed on with a warning. -/
def applyProfile (engine : Engine) (session : SessionId) (profile : Profile) :
    Engine × Journal × Except EngineFailure TicketId :=
  let warning : Journal := if profile.isRecognized then [] else [.profileUnrecognized profile]
  let (engine, journal, issued) := request engine session (.configure profile)
  (engine, warning ++ journal, issued)

/-- What the answer to an applied profile leaves in the journal. -/
def appliedEntries (profile : Profile) : Except EngineFailure Unit → Journal
  | .ok () => [.profileApplied profile]
  | .error _ => []

/-- The outline of a session. -/
def outline (engine : Engine) (session : SessionId) : String :=
  Text.outline "SessionHandle" [("disposed", Text.flag (engine.isDisposed session))] true

end EngineSync.Session
