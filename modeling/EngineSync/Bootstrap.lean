import EngineSync.Environment

/-!
# Bringing the engine up

A module is read and loaded, a session is created, and the profile of a snapshot is applied to it.
The first stage that fails ends it; a session that refuses its profile is disposed.
-/
namespace EngineSync.Environment

/-- Reads a module, loads it and creates a session that reports to a sink. -/
def openSession (env : Environment) (path : String) (sink : Option CollectionId) :
    Environment × Except StartFailure SessionId :=
  match env.files.read path with
  | .error cause => (env, .error (.read path cause.failure))
  | .ok bytes =>
    match env.engine.load bytes.length with
    | .error failure => (env, .error (.instantiate failure))
    | .ok engine =>
      match engine.create sink with
      | .error failure => ({ env with engine }, .error (.session failure))
      | .ok (engine, session) =>
        ({ env with engine }.log [.engineLoaded path bytes.length], .ok session)

/-- What follows from the answer to the first profile. -/
def concludeBootstrap (env : Environment) (session : SessionId) :
    Except EngineFailure Unit → Environment × Except StartFailure SessionId
  | .ok () => (env, .ok session)
  | .error failure => ((env.disposeSession session).1, .error (.configure failure))

end EngineSync.Environment
