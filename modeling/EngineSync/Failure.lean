/-!
# Failures

Why an operation failed, by cause.  Each layer wraps the failures of the layer below it; `kind`
names the cause and `message` words it.
-/
namespace EngineSync

/-- The cause of a failed file operation, where everybody may do everything: no operation is denied,
and none is interrupted. -/
inductive IoKind where
  | notFound
  | alreadyExists
  | notADirectory
  | isADirectory
  | directoryNotEmpty
  | filesystemLoop
  | invalidFilename
  | invalidInput
  | invalidData
deriving DecidableEq, Repr, Inhabited

/-- A failed file operation. -/
structure IoFailure where
  kind : IoKind
  text : String
deriving DecidableEq, Repr, Inhabited

namespace IoKind

/-- The name of a cause. -/
def name : IoKind → String
  | .notFound => "NotFound"
  | .alreadyExists => "AlreadyExists"
  | .notADirectory => "NotADirectory"
  | .isADirectory => "IsADirectory"
  | .directoryNotEmpty => "DirectoryNotEmpty"
  | .filesystemLoop => "FilesystemLoop"
  | .invalidFilename => "InvalidFilename"
  | .invalidInput => "InvalidInput"
  | .invalidData => "InvalidData"

/-- The usual wording of a cause. -/
def text : IoKind → String
  | .notFound => "No such file or directory (os error 2)"
  | .alreadyExists => "File exists (os error 17)"
  | .notADirectory => "Not a directory (os error 20)"
  | .isADirectory => "Is a directory (os error 21)"
  | .directoryNotEmpty => "Directory not empty (os error 39)"
  | .filesystemLoop => "Too many levels of symbolic links (os error 40)"
  | .invalidFilename => "File name too long (os error 36)"
  | .invalidInput => "file name contained an unexpected NUL byte"
  | .invalidData => "stream did not contain valid UTF-8"

/-- A failure in its usual wording. -/
def failure (kind : IoKind) : IoFailure :=
  ⟨kind, kind.text⟩

end IoKind

/-- The place in a message of a decoder's own words. -/
def unspecifiedCause : String := "<cause>"

/-- A failure at the boundary of the engine. -/
inductive EngineFailure where
  | instantiate (reason : String)
  | rejected (operation reason : String)
  | disposed
  | io (failure : IoFailure)
  | manifest (path : String)
deriving DecidableEq, Repr, Inhabited

namespace EngineFailure

/-- The name of the cause. -/
def kind : EngineFailure → String
  | .instantiate _ => "Engine.Instantiate"
  | .rejected _ _ => "Engine.Rejected"
  | .disposed => "Engine.Disposed"
  | .io failure => "Engine.Io." ++ failure.kind.name
  | .manifest _ => "Engine.Manifest"

/-- The wording. -/
def message : EngineFailure → String
  | .instantiate reason => "engine module failed to instantiate: " ++ reason
  | .rejected operation reason => "engine rejected " ++ operation ++ ": " ++ reason
  | .disposed => "session disposed"
  | .io failure => failure.text
  | .manifest path => "invalid manifest " ++ path ++ ": " ++ unspecifiedCause

end EngineFailure

/-- A failure to bring the engine up. -/
inductive StartFailure where
  | read (path : String) (failure : IoFailure)
  | instantiate (cause : EngineFailure)
  | session (cause : EngineFailure)
  | configure (cause : EngineFailure)
deriving DecidableEq, Repr, Inhabited

namespace StartFailure

/-- The name of the cause. -/
def kind : StartFailure → String
  | .read _ failure => "Initialization.Read." ++ failure.kind.name
  | .instantiate cause => "Initialization.Instantiate/" ++ cause.kind
  | .session cause => "Initialization.Session/" ++ cause.kind
  | .configure cause => "Initialization.Configure/" ++ cause.kind

/-- The wording. -/
def message : StartFailure → String
  | .read path failure => "failed to read engine module " ++ path ++ ": " ++ failure.text
  | .instantiate cause => "failed to instantiate engine: " ++ cause.message
  | .session cause => "failed to create engine session: " ++ cause.message
  | .configure cause => "failed to apply initial configuration: " ++ cause.message

end StartFailure

/-- A failure to read a settings file. -/
inductive SettingsFailure where
  | read (path : String) (failure : IoFailure)
  | parse (path : String)
deriving DecidableEq, Repr, Inhabited

namespace SettingsFailure

/-- The name of the cause. -/
def kind : SettingsFailure → String
  | .read _ failure => "Config.Read." ++ failure.kind.name
  | .parse _ => "Config.Parse"

/-- The wording. -/
def message : SettingsFailure → String
  | .read path failure => "failed to read " ++ path ++ ": " ++ failure.text
  | .parse path => "failed to parse " ++ path ++ ": " ++ unspecifiedCause

end SettingsFailure

/-- A failure of the coordinator. -/
inductive Failure where
  | start (cause : StartFailure)
  | engine (cause : EngineFailure)
  | settings (cause : SettingsFailure)
deriving DecidableEq, Repr, Inhabited

namespace Failure

/-- The name of the cause. -/
def kind : Failure → String
  | .start cause => cause.kind
  | .engine cause => cause.kind
  | .settings cause => cause.kind

/-- The wording. -/
def message : Failure → String
  | .start cause => cause.message
  | .engine cause => "engine call failed: " ++ cause.message
  | .settings cause => cause.message

end Failure
end EngineSync
