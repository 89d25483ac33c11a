/-!
# Providers

The capabilities offered to the editor, and the ledger in which the editor notes every registration
and its end.  The providers that are live are read off the ledger: each end takes away the oldest
live registration of its kind.
-/
namespace EngineSync

/-- The kinds of capabilities. -/
inductive ProviderKind where
  | completion
  | hover
  | definition
  | references
  | signatureHelp
  | rename
  | codeLens
  | documentFormatting
  | rangeFormatting
deriving DecidableEq, Repr, Inhabited

namespace ProviderKind

/-- The kinds that are registered as long as an activation lasts, in order. -/
def alwaysOn : List ProviderKind :=
  [.completion, .hover, .definition, .references, .signatureHelp, .rename, .codeLens]

/-- The kinds behind the formatting gate, in order. -/
def formatting : List ProviderKind :=
  [.documentFormatting, .rangeFormatting]

/-- The name of a kind. -/
def name : ProviderKind → String
  | .completion => "completion"
  | .hover => "hover"
  | .definition => "definition"
  | .references => "references"
  | .signatureHelp => "signature_help"
  | .rename => "rename"
  | .codeLens => "code_lens"
  | .documentFormatting => "document_formatting"
  | .rangeFormatting => "range_formatting"

/-- The characters that call a provider of a kind. -/
def triggers : ProviderKind → List String
  | .completion => ["@"]
  | .signatureHelp => ["(", ","]
  | _ => []

/-- The label of a handle that ends a registration. -/
def label (kind : ProviderKind) : String :=
  "provider:" ++ kind.name

end ProviderKind

/-- What a registration binds: a kind for a language. -/
structure ProviderBinding where
  kind : ProviderKind
  language : String
deriving DecidableEq, Repr, Inhabited

/-- A change of the providers. -/
inductive ProviderChange where
  | registered (kind : ProviderKind)
  | unregistered (kind : ProviderKind)
deriving DecidableEq, Repr, Inhabited

/-- Every change of the providers, and every binding, in order. -/
structure Ledger where
  changes : List ProviderChange
  bindings : List ProviderBinding
deriving DecidableEq, Repr, Inhabited

namespace Ledger

/-- Nothing registered. -/
def empty : Ledger :=
  ⟨[], []⟩

/-- Notes a registration. -/
def register (ledger : Ledger) (binding : ProviderBinding) : Ledger :=
  ⟨ledger.changes ++ [.registered binding.kind], ledger.bindings ++ [binding]⟩

/-- Notes the end of a registration. -/
def unregister (ledger : Ledger) (kind : ProviderKind) : Ledger :=
  { ledger with changes := ledger.changes ++ [.unregistered kind] }

/-- The live providers after one more change. -/
def applyChange (live : List ProviderKind) : ProviderChange → List ProviderKind
  | .registered kind => live ++ [kind]
  | .unregistered kind => live.erase kind

/-- The live providers, the oldest first. -/
def live (ledger : Ledger) : List ProviderKind :=
  ledger.changes.foldl applyChange []

end Ledger
end EngineSync
