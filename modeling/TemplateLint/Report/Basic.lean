import TemplateLint.Diagnostic

set_option autoImplicit false

/-!
Reports on files, and the numbers that are counted in them.
-/

namespace TemplateLint

structure Report where
  filePath : String
  uri : String
  /-- True when the file is not a template and was not checked. -/
  skipped : Bool
  diagnostics : List Diagnostic
deriving DecidableEq, Repr

namespace Report

def count (report : Report) (severity : Severity) : Nat :=
  report.diagnostics.countP fun diagnostic => diagnostic.severity == severity

def hasErrors (report : Report) : Bool :=
  0 < report.count .error

end Report

inductive ReportFormat where
  | stylish
  | json
  | compact
deriving DecidableEq, Repr

def ReportFormat.default : ReportFormat := .stylish

/-- The line of a diagnostic, counted from one.  Behind the last number of 32 bits comes zero. -/
def Diagnostic.shownLine (diagnostic : Diagnostic) : UInt32 :=
  diagnostic.range.start.line + 1

/-- The column of a diagnostic, counted from one.  The last number of 32 bits is not counted up. -/
def Diagnostic.shownColumn (diagnostic : Diagnostic) : UInt32 :=
  let character := diagnostic.range.start.character
  if character = 4294967295 then character else character + 1

end TemplateLint
