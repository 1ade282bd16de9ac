import TemplateLint.Json.Printer
import TemplateLint.Json.Reader

set_option autoImplicit false

/-!
Diagnostics as an editor shows them: a range with positions that count from zero, a severity and a message.
-/

namespace TemplateLint

def diagnosticSource : String := "cfn-lint"

def wordBound : Nat := 4294967296

/-- A place in a document; lines and characters count from zero. -/
structure Position where
  line : UInt32
  character : UInt32
deriving DecidableEq, Repr

namespace Position

def zeroBased (n : UInt32) : UInt32 :=
  if n = 0 then 0 else n - 1

def ofOneBased (line column : UInt32) : Position :=
  ⟨zeroBased line, zeroBased column⟩

def order (left right : Position) : Ordering :=
  (compare left.line right.line).then (compare left.character right.character)

end Position

/-- A part of a document; the end does not belong to it. -/
structure Range where
  start : Position
  stop : Position
deriving DecidableEq, Repr

def Range.firstLine : Range :=
  ⟨⟨0, 0⟩, ⟨0, 4294967295⟩⟩

inductive Severity where
  | error
  | warning
  | information
deriving DecidableEq, Repr

namespace Severity

def label : Severity → String
  | .error => "error"
  | .warning => "warning"
  | .information => "info"

def name : Severity → String
  | .error => "error"
  | .warning => "warning"
  | .information => "information"

def number : Severity → Nat
  | .error => 1
  | .warning => 2
  | .information => 3

def ofName? (name : String) : Option Severity :=
  if name = "error" then some .error
  else if name = "warning" then some .warning
  else if name = "information" then some .information
  else none

end Severity

structure Diagnostic where
  range : Range
  severity : Severity
  message : String
  source : String
deriving DecidableEq, Repr

def sourced (text : String) : String :=
  "[" ++ diagnosticSource ++ "] " ++ text

/-- An error on the first line that speaks of the linter and not of the document. -/
def Diagnostic.synthetic (text : String) : Diagnostic where
  range := Range.firstLine
  severity := .error
  message := sourced text
  source := diagnosticSource

/-! ### JSON

Members are written in the order of their names.
-/

def word? (document : Json) : Option UInt32 :=
  (document.natBelow? wordBound).map UInt32.ofNat

def Position.toJson (position : Position) : Json :=
  Json.ofMembers [("character", Json.ofNat position.character.toNat), ("line", Json.ofNat position.line.toNat)]

def Range.toJson (range : Range) : Json :=
  Json.ofMembers [("end", range.stop.toJson), ("start", range.start.toJson)]

def Severity.toJson (severity : Severity) : Json :=
  Json.ofString severity.name

def Diagnostic.toJson (diagnostic : Diagnostic) : Json :=
  Json.ofMembers [
    ("message", Json.ofString diagnostic.message),
    ("range", diagnostic.range.toJson),
    ("severity", diagnostic.severity.toJson),
    ("source", Json.ofString diagnostic.source)]

def Position.ofJson? (document : Json) : Option Position := do
  let [some line, some character] ← document.fields? ["line", "character"] | none
  pure ⟨← word? line, ← word? character⟩

def Range.ofJson? (document : Json) : Option Range := do
  let [some start, some stop] ← document.fields? ["start", "end"] | none
  pure ⟨← Position.ofJson? start, ← Position.ofJson? stop⟩

/-- The severity that JSON holds: its name, or an object with the name as its one member, which is null. -/
def Severity.ofJson? (document : Json) : Option Severity :=
  match document with
  | .string (some name) => Severity.ofName? name
  | .object [(some name, .null)] => Severity.ofName? name
  | _ => none

def Diagnostic.ofJson? (document : Json) : Option Diagnostic := do
  let [some range, some severity, some message, some source] ←
    document.fields? ["range", "severity", "message", "source"] | none
  pure ⟨← Range.ofJson? range, ← Severity.ofJson? severity, ← message.string?, ← source.string?⟩

end TemplateLint
