import TemplateLint.Diagnostic
import TemplateLint.Failure
import TemplateLint.Text.Blank

set_option autoImplicit false

/-!
Findings as the linter prints them, and the diagnostics they become.

The linter prints a JSON array of records.  Lines and columns count from one.  Members with a default may be
left out, and members that are not known are skipped.
-/

namespace TemplateLint

inductive Level where
  | error
  | warning
  | informational
deriving DecidableEq, Repr

namespace Level

def name : Level → String
  | .error => "Error"
  | .warning => "Warning"
  | .informational => "Informational"

def ofName? (name : String) : Option Level :=
  if name = "Error" then some .error
  else if name = "Warning" then some .warning
  else if name = "Informational" then some .informational
  else none

def parse (name : String) : Except Failure Level :=
  match ofName? name with
  | some level => .ok level
  | none => .error (.unsupportedSeverity name)

def severity : Level → Severity
  | .error => .error
  | .warning => .warning
  | .informational => .information

end Level

/-- A place as the linter prints it; lines and columns count from one. -/
structure LinePosition where
  line : UInt32
  column : UInt32
deriving DecidableEq, Repr

/-- Where a finding is.  The path leads through the template to the node in question. -/
structure Location where
  start : LinePosition
  stop : LinePosition
  path : List Json

structure Rule where
  id : String
  description : String
  shortDescription : String
  source : String
deriving DecidableEq, Repr

/-- One finding of the linter.  `level` is the word that was printed. -/
structure Finding where
  filename : String
  level : String
  location : Location
  message : String
  rule : Rule

def LinePosition.position (place : LinePosition) : Position :=
  Position.ofOneBased place.line place.column

def Finding.diagnostic (finding : Finding) : Except Failure Diagnostic :=
  match Level.parse finding.level with
  | .error failure => .error failure
  | .ok level =>
      .ok {
        range := ⟨finding.location.start.position, finding.location.stop.position⟩
        severity := level.severity
        message := sourced (finding.rule.id ++ ": " ++ finding.message)
        source := diagnosticSource }

/-! ### JSON -/

/-- The most levels of arrays and objects that an element of a path may have.  A document may have 127, and
the path stands inside four. -/
def pathDepthLimit : Nat := 123

def withDefault {α : Type} (default : α) (read : Json → Option α) (field : Option Json) : Option α :=
  match field with
  | none => some default
  | some document => read document

def LinePosition.ofJson? (document : Json) : Option LinePosition := do
  let [some line, some column] ← document.fields? ["LineNumber", "ColumnNumber"] | none
  pure ⟨← word? line, ← word? column⟩

def pathElement? (document : Json) : Option Json :=
  if document.depth ≤ pathDepthLimit then document.plain? else none

def path? (document : Json) : Option (List Json) :=
  document.items?.bind fun items => items.mapM pathElement?

def Location.ofJson? (document : Json) : Option Location := do
  let [some start, some stop, path] ← document.fields? ["Start", "End", "Path"] | none
  pure ⟨← LinePosition.ofJson? start, ← LinePosition.ofJson? stop, ← withDefault [] path? path⟩

def Rule.ofJson? (document : Json) : Option Rule := do
  let [some id, description, shortDescription, source] ←
    document.fields? ["Id", "Description", "ShortDescription", "Source"] | none
  pure ⟨← id.string?, ← withDefault "" Json.string? description,
    ← withDefault "" Json.string? shortDescription, ← withDefault "" Json.string? source⟩

def Finding.ofJson? (document : Json) : Option Finding := do
  let [filename, some level, some location, some message, some rule] ←
    document.fields? ["Filename", "Level", "Location", "Message", "Rule"] | none
  pure ⟨← withDefault "" Json.string? filename, ← level.string?, ← Location.ofJson? location,
    ← message.string?, ← Rule.ofJson? rule⟩

def findings? (document : Json) : Option (List Finding) :=
  document.items?.bind fun items => items.mapM Finding.ofJson?

/-- The findings that the linter printed.  Blank output is no findings. -/
def parseFindings (output : String) : Except Failure (List Finding) :=
  if Text.allBlank output.toList then .ok []
  else
    match (Json.parse? output).bind findings? with
    | some findings => .ok findings
    | none => .error .invalidOutput

def LinePosition.toJson (place : LinePosition) : Json :=
  Json.ofMembers [("LineNumber", Json.ofNat place.line.toNat), ("ColumnNumber", Json.ofNat place.column.toNat)]

def Location.toJson (location : Location) : Json :=
  Json.ofMembers [
    ("Start", location.start.toJson), ("End", location.stop.toJson), ("Path", .array location.path)]

def Rule.toJson (rule : Rule) : Json :=
  Json.ofMembers [
    ("Id", Json.ofString rule.id), ("Description", Json.ofString rule.description),
    ("ShortDescription", Json.ofString rule.shortDescription), ("Source", Json.ofString rule.source)]

def Finding.toJson (finding : Finding) : Json :=
  Json.ofMembers [
    ("Filename", Json.ofString finding.filename), ("Level", Json.ofString finding.level),
    ("Location", finding.location.toJson), ("Message", Json.ofString finding.message),
    ("Rule", finding.rule.toJson)]

end TemplateLint
