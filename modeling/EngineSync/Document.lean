import EngineSync.Uri

/-!
# Documents

A document as the editor reports it with an event: the full current text, never a difference.  The
engine tracks the documents of one language that are not cells of a notebook.
-/
namespace EngineSync

/-- A document at the time of an event. -/
structure Document where
  uri : Uri
  language : String
  version : Int
  text : String
  notebookCell : Bool
deriving DecidableEq, Repr, Inhabited

/-- Decides by language which documents reach the engine. -/
structure DocumentFilter where
  language : String
deriving DecidableEq, Repr

namespace DocumentFilter

/-- The language tracked where no other is asked for. -/
def defaultLanguage : String := "qsharp"

instance : Inhabited DocumentFilter := ⟨⟨defaultLanguage⟩⟩

/-- Whether a document is written in the tracked language. -/
def matchesLanguage (filter : DocumentFilter) (doc : Document) : Bool :=
  doc.language = filter.language

/-- Whether a document reaches the engine. -/
def tracks (filter : DocumentFilter) (doc : Document) : Bool :=
  filter.matchesLanguage doc && !doc.notebookCell

end DocumentFilter

namespace Document

/-- Versions are signed numbers of 32 bits. -/
def isVersion (n : Int) : Bool :=
  -0x80000000 ≤ n && n < 0x80000000

end Document
end EngineSync
