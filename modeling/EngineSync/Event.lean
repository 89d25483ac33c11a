import EngineSync.Document
import EngineSync.Settings.Change

/-!
# Events

What the editor tells its listeners: a document was opened, changed or closed, or the configuration
changed.
-/
namespace EngineSync

/-- The kinds of events; a listener subscribes to one. -/
inductive EventKind where
  | documentOpened
  | documentChanged
  | documentClosed
  | configurationChanged
deriving DecidableEq, Repr, Inhabited

namespace EventKind

/-- The name of a kind. -/
def name : EventKind → String
  | .documentOpened => "document_opened"
  | .documentChanged => "document_changed"
  | .documentClosed => "document_closed"
  | .configurationChanged => "configuration_changed"

/-- Every kind. -/
def all : List EventKind :=
  [.documentOpened, .documentChanged, .documentClosed, .configurationChanged]

end EventKind

/-- An event. -/
inductive Event where
  | opened (doc : Document)
  | changed (doc : Document)
  | closed (doc : Document)
  | configuration (change : ConfigChange)
deriving DecidableEq, Repr, Inhabited

/-- The kind of an event. -/
def Event.kind : Event → EventKind
  | .opened _ => .documentOpened
  | .changed _ => .documentChanged
  | .closed _ => .documentClosed
  | .configuration _ => .configurationChanged

end EngineSync
