import EngineSync.Text.Split

/-!
# Changes of configuration

A notification names the keys that changed.  Keys are paths of sections with dots between them, and
a change touches a key when it names the key itself, something inside it, or a section around it.
-/
namespace EngineSync

/-- A notification that configuration changed. -/
structure ConfigChange where
  keys : List String
deriving DecidableEq, Repr, Inhabited

/-- What is left of a text after a leading part. -/
def stripLeading? : List Char → List Char → Option (List Char)
  | [], text => some text
  | _ :: _, [] => none
  | a :: leading, b :: text => if a = b then stripLeading? leading text else none

/-- Whether one key is another or lies inside it. -/
def isSameOrInside (inner outer : List Char) : Bool :=
  match stripLeading? outer inner with
  | none => false
  | some [] => true
  | some (c :: _) => c = '.'

namespace ConfigChange

/-- The section that owns the recognized keys. -/
def ownSection : String := "qside"

/-- The key of the target profile. -/
def profileKey : String := "qside.targetProfile"

/-- The key of the formatting toggle. -/
def formattingKey : String := "qside.enableFormatting"

/-- Whether a change touches a key. -/
def affects (change : ConfigChange) (key : String) : Bool :=
  change.keys.any fun changed =>
    isSameOrInside changed.toList key.toList || isSameOrInside key.toList changed.toList

/-- The sections a key leads through, the key's own name last. -/
def segments (key : String) : List (List Char) :=
  Text.splitAt '.' key.toList

end ConfigChange
end EngineSync
