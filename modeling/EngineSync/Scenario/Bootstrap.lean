import EngineSync.Bootstrap
import EngineSync.Scenario.EngineView
import EngineSync.Scenario.Files

/-!
# Bringing sessions up
-/
namespace EngineSync.Scenario.Bootstrap

/-- The scenario so far, with the sessions that were handed out. -/
structure State where
  env : Environment
  sessions : List SessionId
  view : EngineView
deriving Repr, Inhabited

/-- A step.  A profile may be refused, but only if there is such a session. -/
inductive Step where
  | file (step : FileStep)
  | load (path : String)
  | bootstrap (path : String) (settings : Settings)
  | applyProfile (session : Nat) (profile : Except Refusal Profile)
  | dispose (session : Nat)
  | refuse (refusals : Refusals)
  | refused (refusal : Refusal)
deriving Repr, Inhabited

/-- The answer to a step. -/
inductive Answer where
  | done
  | session (index : Nat)
  | flag (value : Bool)
  | failed (failure : EngineFailure)
  | notStarted (failure : StartFailure)
  | refused (refusal : Refusal)
deriving DecidableEq, Repr, Inhabited

namespace State

/-- No session yet. -/
def initial (env : Environment) : State :=
  ⟨env, [], .start⟩

/-- Hands out a session, or tells why there is none. -/
def handOut (state : State) : Environment × Except StartFailure SessionId → State × Answer
  | (env, .ok session) =>
    ({ state with env, sessions := state.sessions ++ [session] }, .session state.sessions.length)
  | (env, .error failure) => ({ state with env }, .notStarted failure)

/-- Applies a profile; nothing is held back here. -/
def applyProfile (env : Environment) (session : SessionId) (profile : Profile) :
    Environment × Except EngineFailure Unit :=
  match env.applyProfile session profile with
  | (env, .error failure) => (env, .error failure)
  | (env, .ok ticket) => (env.collectProfile? profile ticket).getD (env, .ok ())

/-- Opens a session and applies the profile of a snapshot. -/
def bootstrap (env : Environment) (path : String) (settings : Settings) :
    Environment × Except StartFailure SessionId :=
  match env.openSession path none with
  | (env, .error failure) => (env, .error failure)
  | (env, .ok session) =>
    let (env, answer) := applyProfile env session settings.profile
    env.concludeBootstrap session answer

/-- Answers about a session that was handed out. -/
def withSession (state : State) (index : Nat) (answer : SessionId → State × Answer) :
    State × Answer :=
  match state.sessions[index]? with
  | none => (state, .refused (.unusable "do"))
  | some session => answer session

/-- What one step does. -/
def apply (state : State) : Step → State × Answer
  | .file step =>
    match step.run state.env.files with
    | (files, .ok ()) => ({ state with env := { state.env with files } }, .done)
    | (files, .error refusal) => ({ state with env := { state.env with files } }, .refused refusal)
  | .load path => state.handOut (state.env.openSession path none)
  | .bootstrap path settings => state.handOut (bootstrap state.env path settings)
  | .applyProfile index profile =>
    state.withSession index fun session =>
      match profile with
      | .error refusal => (state, .refused refusal)
      | .ok profile =>
        match applyProfile state.env session profile with
        | (env, .ok ()) => ({ state with env }, .done)
        | (env, .error failure) => ({ state with env }, .failed failure)
  | .dispose index =>
    state.withSession index fun session =>
      let (env, disposed) := state.env.disposeSession session
      ({ state with env }, .flag disposed)
  | .refuse refusals =>
    ({ state with env := { state.env with engine := { state.env.engine with refusals } } }, .done)
  | .refused refusal => (state, .refused refusal)

/-- One step, with what it brought about at the engine. -/
def step (state : State) (step : Step) : State × Answer × EngineNews :=
  let (state, answer) := state.apply step
  let (view, news) := state.view.advance state.env.engine
  ({ state with view }, answer, news)

/-- Which of the sessions handed out are disposed. -/
def disposed (state : State) : List Bool :=
  state.sessions.map state.env.engine.isDisposed

end State
end EngineSync.Scenario.Bootstrap
