import TemplateLint.Report.Stylish

set_option autoImplicit false

/-!
Reports in all formats: for people, one line a diagnostic, and as JSON.
-/

namespace TemplateLint.Report

def compactLine (filePath : String) (diagnostic : Diagnostic) : String :=
  filePath ++ ":" ++ toString diagnostic.shownLine ++ ":" ++ toString diagnostic.shownColumn ++ ": " ++
    diagnostic.severity.label ++ " " ++ diagnostic.message ++ "\n"

def compactPart (report : Report) : String :=
  String.join (report.diagnostics.map (compactLine report.filePath))

def compact (reports : List Report) : String :=
  String.join (reports.map compactPart)

def toJson (report : Report) : Json :=
  Json.ofMembers [
    ("diagnostics", .array (report.diagnostics.map Diagnostic.toJson)),
    ("errorCount", Json.ofNat (report.count .error)),
    ("filePath", Json.ofString report.filePath),
    ("infoCount", Json.ofNat (report.count .information)),
    ("skipped", .bool report.skipped),
    ("uri", Json.ofString report.uri),
    ("warningCount", Json.ofNat (report.count .warning))]

/-- Reports as JSON.  Positions count from zero, as they are published. -/
def json (reports : List Report) : String :=
  (Json.array (reports.map toJson)).renderIndented

def format (isColored : Bool) (reports : List Report) : ReportFormat → String
  | .stylish => stylish isColored reports
  | .json => json reports
  | .compact => compact reports

end TemplateLint.Report
