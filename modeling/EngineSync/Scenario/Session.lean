import EngineSync.Session
import EngineSync.Scenario.EngineView
import EngineSync.Scenario.Refusal

/-!
# Sessions and their holders
-/
namespace EngineSync.Scenario.Session

/-- The scenario so far; several names may stand for one session. -/
structure State where
  engine : Engine
  names : List (String × SessionId)
  journal : Journal
  view : EngineView
deriving Repr, Inhabited

/-- A step.  What is asked of a session may be refused, but only if there is such a session. -/
inductive Step where
  | create (id : String)
  | clone (id source : String)
  | request (id : String) (request : Except Refusal Request)
  | applyProfile (id : String) (profile : Except Refusal Profile)
  | dispose (id : String)
  | isDisposed (id : String)
  | isSame (id other : String)
  | outline (id : String)
  | refused (refusal : Refusal)
deriving Repr, Inhabited

/-- The answer to a step. -/
inductive Answer where
  | done
  | flag (value : Bool)
  | text (text : String)
  | failed (failure : EngineFailure)
  | refused (refusal : Refusal)
deriving DecidableEq, Repr, Inhabited

namespace State

/-- No session yet. -/
def initial (engine : Engine) : State :=
  ⟨engine, [], [], .start⟩

/-- Gives a session a name, which no other session keeps. -/
def bind (state : State) (id : String) (session : SessionId) : State :=
  { state with names := (id, session) :: state.names.filter (·.1 ≠ id) }

/-- Answers about a session, if the name has one. -/
def withSession (state : State) (id : String) (answer : SessionId → State × Answer) :
    State × Answer :=
  match state.names.lookup id with
  | none => (state, .refused (.unusable "session"))
  | some session => answer session

/-- The engine's answer to a request; nothing is held back here. -/
def complete (engine : Engine) : Except EngineFailure TicketId →
    Engine × Except EngineFailure Unit
  | .error failure => (engine, .error failure)
  | .ok ticket => (engine.collect? ticket).getD (engine, .ok ())

/-- The answer for a result. -/
def answer : Except EngineFailure Unit → Answer
  | .ok () => .done
  | .error failure => .failed failure

/-- What one step does. -/
def apply (state : State) : Step → State × Answer
  | .create id =>
    match state.engine.create none with
    | .ok (engine, session) => ({ state with engine }.bind id session, .done)
    | .error failure => (state, .failed failure)
  | .clone id source =>
    state.withSession source fun session => (state.bind id session, .done)
  | .request id request =>
    state.withSession id fun session =>
      match request with
      | .error refusal => (state, .refused refusal)
      | .ok request =>
        let (engine, journal, issued) := Session.request state.engine session request
        let (engine, result) := complete engine issued
        ({ state with engine, journal := state.journal ++ journal }, answer result)
  | .applyProfile id profile =>
    state.withSession id fun session =>
      match profile with
      | .error refusal => (state, .refused refusal)
      | .ok profile =>
        let (engine, journal, issued) := Session.applyProfile state.engine session profile
        let (engine, result) := complete engine issued
        let journal := journal ++ Session.appliedEntries profile result
        ({ state with engine, journal := state.journal ++ journal }, answer result)
  | .dispose id =>
    state.withSession id fun session =>
      let (engine, journal, disposed) := Session.dispose state.engine session
      ({ state with engine, journal := state.journal ++ journal }, .flag disposed)
  | .isDisposed id =>
    state.withSession id fun session => (state, .flag (state.engine.isDisposed session))
  | .isSame id other =>
    state.withSession id fun session =>
      state.withSession other fun second => (state, .flag (session = second))
  | .outline id =>
    state.withSession id fun session => (state, .text (Session.outline state.engine session))
  | .refused refusal => (state, .refused refusal)

/-- One step, with what it brought about at the engine. -/
def step (state : State) (step : Step) : State × Answer × EngineNews :=
  let (state, answer) := state.apply step
  let (view, news) := state.view.advance state.engine
  ({ state with view }, answer, news)

end State
end EngineSync.Scenario.Session
