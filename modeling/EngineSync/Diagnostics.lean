import EngineSync.Journal
import EngineSync.Text.Order
import EngineSync.Text.Outline

/-!
# Diagnostics

What the engine last reported on each document.  The version of a report is kept when its
diagnostics are cleared, so that a report on an older version is still refused.  A collection with
events sums up every change as it happens; `emitted` is the whole history of these summaries.
-/
namespace EngineSync

/-- One finding of the engine: what is counted and shown of it, and not where in its line it is or
what else belongs to it. -/
structure Diagnostic where
  severity : Option Int
  message : String
  line : Nat
deriving DecidableEq, Repr, Inhabited

namespace Diagnostic

/-- Whether a finding is an error. -/
def isError (diagnostic : Diagnostic) : Bool :=
  diagnostic.severity = some 1

/-- Whether a finding is a warning. -/
def isWarning (diagnostic : Diagnostic) : Bool :=
  diagnostic.severity = some 2

/-- Severities are signed numbers of 32 bits. -/
def isSeverity (n : Int) : Bool :=
  -0x80000000 ≤ n && n < 0x80000000

end Diagnostic

/-- The sum of a document's diagnostics after a change. -/
structure DiagnosticsEvent where
  uri : Uri
  errors : Nat
  warnings : Nat
deriving DecidableEq, Repr, Inhabited

/-- Sums up diagnostics. -/
def DiagnosticsEvent.summary (uri : Uri) (diagnostics : List Diagnostic) : DiagnosticsEvent :=
  ⟨uri, diagnostics.countP Diagnostic.isError, diagnostics.countP Diagnostic.isWarning⟩

/-- The last report on a document. -/
structure Report where
  uri : Uri
  version : Option Int
  diagnostics : List Diagnostic
deriving DecidableEq, Repr, Inhabited

namespace Report

/-- Whether there are findings. -/
def isNonempty (report : Report) : Bool :=
  !report.diagnostics.isEmpty

/-- The same report without its findings. -/
def cleared (report : Report) : Report :=
  { report with diagnostics := [] }

end Report

/-- The last reports, at most one for each document. -/
structure DiagnosticsCollection where
  reports : List Report
  hasEvents : Bool
  emitted : List DiagnosticsEvent
deriving DecidableEq, Repr, Inhabited

namespace DiagnosticsCollection

/-- No reports, without events. -/
def silent : DiagnosticsCollection :=
  ⟨[], false, []⟩

/-- No reports, with events. -/
def withEvents : DiagnosticsCollection :=
  ⟨[], true, []⟩

/-- The last report on a document. -/
def find? (collection : DiagnosticsCollection) (uri : Uri) : Option Report :=
  collection.reports.find? (·.uri = uri)

/-- The diagnostics of a document. -/
def get (collection : DiagnosticsCollection) (uri : Uri) : List Diagnostic :=
  ((collection.find? uri).map (·.diagnostics)).getD []

/-- The version last reported on. -/
def version? (collection : DiagnosticsCollection) (uri : Uri) : Option Int :=
  (collection.find? uri).bind (·.version)

/-- How many documents have diagnostics. -/
def size (collection : DiagnosticsCollection) : Nat :=
  collection.reports.countP Report.isNonempty

/-- Whether no document has diagnostics. -/
def isEmpty (collection : DiagnosticsCollection) : Bool :=
  collection.reports.all (!·.isNonempty)

/-- How many errors there are in all documents. -/
def errorCount (collection : DiagnosticsCollection) : Nat :=
  collection.reports.foldr (fun report count => report.diagnostics.countP Diagnostic.isError + count) 0

/-- Emits the sum of a document's diagnostics. -/
def emit (collection : DiagnosticsCollection) (uri : Uri) (diagnostics : List Diagnostic) :
    DiagnosticsCollection :=
  if collection.hasEvents then
    { collection with emitted := collection.emitted ++ [.summary uri diagnostics] }
  else collection

/-- Puts a report in the place of the last one on its document. -/
def store (collection : DiagnosticsCollection) (report : Report) : DiagnosticsCollection :=
  { collection with
    reports := collection.reports.filter (·.uri ≠ report.uri) ++ [report] }

/-- Whether a version is older than the one last reported on. -/
def isStale : (version current : Option Int) → Bool
  | some version, some current => version < current
  | _, _ => false

/-- Takes a report of the engine, unless it is stale. -/
def publish (collection : DiagnosticsCollection) (uri : Uri) (version : Option Int)
    (diagnostics : List Diagnostic) : DiagnosticsCollection × Journal :=
  let current := collection.version? uri
  if isStale version current then
    (collection, [.staleDiagnostics uri (version.getD 0) (current.getD 0)])
  else
    (((collection.store ⟨uri, version.or current, diagnostics⟩).emit uri diagnostics),
      [.publishedDiagnostics uri version diagnostics.length])

/-- Drops the diagnostics of a document and keeps its version. -/
def clear (collection : DiagnosticsCollection) (uri : Uri) : DiagnosticsCollection :=
  match collection.find? uri with
  | none => collection
  | some report =>
    let cleared := collection.store report.cleared
    if report.isNonempty then cleared.emit uri [] else cleared

/-- Forgets every document; those with diagnostics are announced in the order of their URIs. -/
def clearAll (collection : DiagnosticsCollection) : DiagnosticsCollection × Journal :=
  let cleared := (collection.reports.filter Report.isNonempty).mergeSort fun a b =>
    Text.bytewiseLE a.uri.text b.uri.text
  (cleared.foldl (fun collection report => collection.emit report.uri [])
      { collection with reports := [] },
    [.clearedDiagnostics cleared.length])

/-- The outline of a collection. -/
def outline (collection : DiagnosticsCollection) : String :=
  Text.outline "DiagnosticsCollection"
    [("documents", Decimal.natural collection.size), ("has_events", Text.flag collection.hasEvents)]
    false

end DiagnosticsCollection
end EngineSync
