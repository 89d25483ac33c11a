import EngineSync.Decimal.Integer
import EngineSync.Document
import EngineSync.Failure
import EngineSync.Profile
import EngineSync.Text.Quoted

/-!
# The journal

What the coordinator notes while it works, one entry per step worth a line in a log.  An entry has
a level, a name and fields; numbers and flags keep their type, everything else is text.
-/
namespace EngineSync

/-- The level of an entry. -/
inductive Level where
  | trace
  | debug
  | info
  | warn
deriving DecidableEq, Repr, Inhabited

/-- The name of a level. -/
def Level.name : Level → String
  | .trace => "TRACE"
  | .debug => "DEBUG"
  | .info => "INFO"
  | .warn => "WARN"

/-- The value of a field. -/
inductive FieldValue where
  | text (value : String)
  | number (value : Int)
  | flag (value : Bool)
deriving DecidableEq, Repr, Inhabited

/-- What happened. -/
inductive Entry where
  | updateDocument (uri : Uri) (version : Int) (size : Nat)
  | closeDocument (uri : Uri)
  | updateConfiguration (profile : Profile)
  | disposeSession
  | manifestLoaded (path : String)
  | engineLoaded (path : String) (size : Nat)
  | profileUnrecognized (profile : Profile)
  | profileApplied (profile : Profile)
  | settingsOpened (path : String) (profile : Profile)
  | settingsFailed (failure : SettingsFailure)
  | routeProfile (key : String) (profile : Profile)
  | routeFormatting (key : String) (enabled : Bool)
  | routeIgnored (changed : List String)
  | staleDiagnostics (uri : Uri) (version current : Int)
  | publishedDiagnostics (uri : Uri) (version : Option Int) (count : Nat)
  | clearedDiagnostics (documents : Nat)
  | disposeHandle (label : String)
  | teardown (total released : Nat)
  | publishEvent (kind : String) (listeners : Nat)
  | gateEnabled (feature : String) (handles : Nat)
  | gateDisabled (feature : String)
  | providersRegistered (language : String) (count : Nat)
  | replayed (forwarded : Nat)
  | skipped (uri : Uri) (language : String)
  | laneUpdate (uri : Uri) (version : Int)
  | laneClose (uri : Uri)
  | ready (documents : Nat) (formatting : Bool) (handles : Nat)
  | deactivated (released : Nat)
deriving DecidableEq, Repr, Inhabited

namespace Entry

/-- The level of an entry. -/
def level : Entry → Level
  | .updateDocument .. | .closeDocument .. | .updateConfiguration .. => .trace
  | .routeIgnored .. | .publishedDiagnostics .. | .disposeHandle .. => .trace
  | .publishEvent .. | .skipped .. => .trace
  | .engineLoaded .. | .replayed .. | .ready .. | .deactivated .. => .info
  | .profileUnrecognized .. | .settingsFailed .. => .warn
  | _ => .debug

/-- The name of an entry. -/
def name : Entry → String
  | .updateDocument .. => "session.update_document"
  | .closeDocument .. => "session.close_document"
  | .updateConfiguration .. => "session.update_configuration"
  | .disposeSession => "session.dispose"
  | .manifestLoaded .. => "project.manifest.loaded"
  | .engineLoaded .. => "session.bootstrap.loaded"
  | .profileUnrecognized .. => "session.profile.unrecognized"
  | .profileApplied .. => "session.profile.applied"
  | .settingsOpened .. => "config.opened"
  | .settingsFailed .. => "config.load_failed"
  | .routeProfile .. | .routeFormatting .. => "config.route"
  | .routeIgnored .. => "config.route.ignored"
  | .staleDiagnostics .. => "diagnostics.stale"
  | .publishedDiagnostics .. => "diagnostics.published"
  | .clearedDiagnostics .. => "diagnostics.cleared"
  | .disposeHandle .. => "disposable.dispose"
  | .teardown .. => "disposables.teardown"
  | .publishEvent .. => "event.publish"
  | .gateEnabled .. => "feature.gate.enabled"
  | .gateDisabled .. => "feature.gate.disabled"
  | .providersRegistered .. => "provider.registered"
  | .replayed .. => "sync.replay"
  | .skipped .. => "sync.skip"
  | .laneUpdate .. => "sync.update"
  | .laneClose .. => "sync.close"
  | .ready .. => "activation.ready"
  | .deactivated .. => "activation.deactivated"

/-- A version that may be missing, as a field shows it. -/
def optionalVersion : Option Int → String
  | none => "None"
  | some version => "Some(" ++ Decimal.integer version ++ ")"

/-- The fields of an entry. -/
def fields : Entry → List (String × FieldValue)
  | .updateDocument uri version size =>
    [("uri", .text uri.text), ("version", .number version), ("len", .number size)]
  | .closeDocument uri => [("uri", .text uri.text)]
  | .updateConfiguration profile => [("profile", .text profile.name)]
  | .disposeSession => []
  | .manifestLoaded path => [("path", .text path)]
  | .engineLoaded path size => [("path", .text path), ("size", .number size)]
  | .profileUnrecognized profile => [("profile", .text profile.name)]
  | .profileApplied profile => [("profile", .text profile.name)]
  | .settingsOpened path profile => [("path", .text path), ("profile", .text profile.name)]
  | .settingsFailed failure => [("error", .text failure.message)]
  | .routeProfile key profile => [("key", .text key), ("profile", .text profile.name)]
  | .routeFormatting key enabled => [("key", .text key), ("enabled", .flag enabled)]
  | .routeIgnored changed => [("changed", .text (Text.quotedList changed))]
  | .staleDiagnostics uri version current =>
    [("uri", .text uri.text), ("version", .number version), ("current", .number current)]
  | .publishedDiagnostics uri version count =>
    [("uri", .text uri.text), ("version", .text (optionalVersion version)),
      ("count", .number count)]
  | .clearedDiagnostics documents => [("documents", .number documents)]
  | .disposeHandle label => [("label", .text label)]
  | .teardown total released => [("total", .number total), ("released", .number released)]
  | .publishEvent kind listeners => [("kind", .text kind), ("listeners", .number listeners)]
  | .gateEnabled feature handles => [("feature", .text feature), ("handles", .number handles)]
  | .gateDisabled feature => [("feature", .text feature)]
  | .providersRegistered language count => [("language", .text language), ("count", .number count)]
  | .replayed forwarded => [("forwarded", .number forwarded)]
  | .skipped uri language => [("uri", .text uri.text), ("language", .text language)]
  | .laneUpdate uri version => [("uri", .text uri.text), ("version", .number version)]
  | .laneClose uri => [("uri", .text uri.text)]
  | .ready documents formatting handles =>
    [("replayed", .number documents), ("formatting", .flag formatting),
      ("handles", .number handles)]
  | .deactivated released => [("released", .number released)]

end Entry

/-- Entries in the order they were noted. -/
abbrev Journal := List Entry

end EngineSync
