import TemplateLint.Report.Basic
import TemplateLint.Report.Style
import TemplateLint.Text.Blank

set_option autoImplicit false

/-!
Reports for people: a heading for every file with diagnostics, a line for every diagnostic, and a summary.
-/

namespace TemplateLint.Report

open TemplateLint.Style (paint)

def color : Severity → Style.Attribute
  | .error => .red
  | .warning => .yellow
  | .information => .blue

def stylishLine (isColored : Bool) (diagnostic : Diagnostic) : String :=
  "  " ++ paint isColored [.dimmed] (toString diagnostic.shownLine ++ ":" ++ toString diagnostic.shownColumn) ++
    "  " ++ paint isColored [color diagnostic.severity] diagnostic.severity.label ++
    "  " ++ diagnostic.message ++ "\n"

def stylishPart (isColored : Bool) (report : Report) : String :=
  if report.skipped then
    "\n" ++ paint isColored [.bold] report.filePath ++ " " ++
      paint isColored [.dimmed] "(skipped: not a CloudFormation template)" ++ "\n"
  else if report.diagnostics.isEmpty then ""
  else
    "\n" ++ paint isColored [.bold, .underline] report.filePath ++ "\n" ++
      String.join (report.diagnostics.map (stylishLine isColored))

def plural (count : Nat) (word : String) : String :=
  toString count ++ " " ++ word ++ (if count = 1 then "" else "s")

/-- The number of diagnostics of a severity in the files that were not skipped. -/
def total (reports : List Report) (severity : Severity) : Nat :=
  ((reports.filter fun report => !report.skipped).map fun report => report.count severity).foldr (· + ·) 0

def summaryParts (errors warnings infos : Nat) : List String :=
  (if 0 < errors then [plural errors "error"] else []) ++
    (if 0 < warnings then [plural warnings "warning"] else []) ++
    (if 0 < infos then [toString infos ++ " info"] else [])

def summary (isColored : Bool) (errors warnings infos : Nat) : String :=
  let all := errors + warnings + infos
  if all = 0 then ""
  else
    paint isColored [.bold, if 0 < errors then .red else .yellow]
      ("\n" ++ plural all "problem" ++ " (" ++ Text.join ", " (summaryParts errors warnings infos) ++ ")\n")

def stylish (isColored : Bool) (reports : List Report) : String :=
  String.join (reports.map (stylishPart isColored)) ++
    summary isColored (total reports .error) (total reports .warning) (total reports .information)

end TemplateLint.Report
