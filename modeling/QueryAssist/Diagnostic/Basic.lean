import QueryAssist.Document.Position

/-!
# Diagnostics

## Main definitions

* `Diagnostic` — a remark on a stretch of a document
* `Diagnostic.Severity` — how much it matters
* `DiagnosticSet` — the diagnostics of one version of a document
-/

namespace QueryAssist

/-- How much a diagnostic matters. -/
inductive Diagnostic.Severity where
  /-- A likely mistake. -/
  | warning
  /-- A matter of style. -/
  | information
deriving DecidableEq, Repr

/-- The form in which a severity is shown. -/
def Diagnostic.Severity.name : Diagnostic.Severity → String
  | warning => "Warning"
  | information => "Information"

instance : ToString Diagnostic.Severity := ⟨Diagnostic.Severity.name⟩

/-- A remark on a stretch of a document. -/
structure Diagnostic where
  /-- What it is about. -/
  range : Range
  /-- What it says. -/
  message : String
  /-- How much it matters. -/
  severity : Diagnostic.Severity
  /-- The kind of remark. -/
  code : Option String := none
  /-- Names that may be meant, the best one first. -/
  suggestions : List String := []
deriving DecidableEq, Repr

/-- Whether a diagnostic points out a likely mistake. -/
def Diagnostic.isWarning (d : Diagnostic) : Bool := d.severity = .warning

/-- The diagnostics of one version of a document. -/
structure DiagnosticSet where
  /-- The version. -/
  version : Int
  /-- The diagnostics, in the order of the document. -/
  diagnostics : List Diagnostic
deriving DecidableEq, Repr

namespace DiagnosticSet

/-- Whether there is nothing to remark. -/
def isEmpty (s : DiagnosticSet) : Bool := s.diagnostics.isEmpty

/-- The likely mistakes. -/
def warnings (s : DiagnosticSet) : List Diagnostic := s.diagnostics.filter (·.isWarning)

end DiagnosticSet

end QueryAssist
