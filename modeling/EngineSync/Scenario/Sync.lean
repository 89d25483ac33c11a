import EngineSync.Sync
import EngineSync.Scenario.EngineView
import EngineSync.Scenario.Refusal

/-!
# Documents on their way to one session
-/
namespace EngineSync.Scenario.Sync

/-- The scenario so far. -/
structure State where
  sync : EngineSync.Sync
  pending : List (Pending SyncCall)
  view : EngineView
deriving Repr, Inhabited

/-- A step. -/
inductive Step where
  | start (id : String) (call : SyncCall)
  | release (key : String)
  | cancel (id : String)
  | refuse (refusals : Refusals)
  | dispose
  | tracks (doc : Document)
  | refused (refusal : Refusal)
deriving Repr, Inhabited

/-- The answer to a step. -/
inductive Answer where
  | started
  | done
  | flag (value : Bool)
  | tracks (tracks : Bool) (language : String)
  | refused (refusal : Refusal)
deriving DecidableEq, Repr, Inhabited

/-- What a step brought about. -/
structure Outcome where
  answer : Answer
  finished : List (String × SyncResult)
  news : EngineNews
deriving Repr, Inhabited

namespace State

/-- A way to a new session. -/
def initial (filter : DocumentFilter) (engine : Engine) : Except EngineFailure State :=
  (engine.create none).map fun (engine, session) =>
    ⟨⟨session, filter, .empty, engine, []⟩, [], .start⟩

/-- What one step does at once. -/
def apply (state : State) : Step → State × Answer
  | .start id call => ({ state with pending := state.pending ++ [⟨id, call⟩] }, .started)
  | .release key =>
    ({ state with sync := { state.sync with engine := state.sync.engine.release key } }, .done)
  | .cancel id =>
    let (sync, pending) := Pending.cancel Sync.cancelCall state.sync id state.pending
    ({ state with sync, pending }, .flag (state.pending.any (·.id = id)))
  | .refuse refusals =>
    ({ state with sync := { state.sync with engine := { state.sync.engine with refusals } } },
      .done)
  | .dispose =>
    let (engine, journal, disposed) := Session.dispose state.sync.engine state.sync.session
    ({ state with sync := { state.sync with engine }.log journal }, .flag disposed)
  | .tracks doc => (state, .tracks (state.sync.filter.tracks doc) state.sync.filter.language)
  | .refused refusal => (state, .refused refusal)

/-- One step, after which the calls go on until none of them can. -/
def step (state : State) (step : Step) : State × Outcome :=
  let (state, answer) := state.apply step
  let course := Pending.settle Sync.pollCall SyncCall.weight state.sync state.pending
  let (view, news) := state.view.advance course.state.engine
  (⟨course.state, course.pending, view⟩, ⟨answer, course.finished, news⟩)

end State
end EngineSync.Scenario.Sync
