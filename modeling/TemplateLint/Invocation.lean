import TemplateLint.Path
import TemplateLint.Settings.Basic

set_option autoImplicit false

/-!
The command line of the linter.

A table says which settings are passed on, in which order, with which shape and as which flag.  The arguments
ask for JSON first and end with the path of the document.
-/

namespace TemplateLint

inductive FlagShape where
  /-- The flag and the items, unless there is no item or an empty one. -/
  | items
  | switch
  /-- The flag and the text, unless it is empty. -/
  | text
deriving DecidableEq, Repr

def FlagShape.shape : FlagShape → Shape
  | .items => .stringList
  | .switch => .boolean
  | .text => .string

structure FlagRow where
  key : String
  shape : FlagShape
  flag : String
deriving DecidableEq, Repr

def flagTable : List FlagRow := [
  ⟨"regions", .items, "--regions"⟩,
  ⟨"ignoreBadTemplate", .switch, "--ignore-bad-template"⟩,
  ⟨"includeRules", .items, "--include-checks"⟩,
  ⟨"ignoreRules", .items, "--ignore-checks"⟩,
  ⟨"customRules", .items, "--append-rules"⟩,
  ⟨"includeExperimentalRules", .switch, "--include-experimental"⟩,
  ⟨"ruleConfigurations", .items, "--configure-rule"⟩,
  ⟨"overrideSpecPath", .text, "--override-spec"⟩]

namespace FlagRow

def argumentsFor (row : FlagRow) (value : SettingValue) : Except Failure (List String) :=
  match row.shape, value with
  | .items, .stringList items =>
      .ok (if items.isEmpty || items.any (·.isEmpty) then [] else row.flag :: items)
  | .switch, .boolean isOn => .ok (if isOn then [row.flag] else [])
  | .text, .string text => .ok (if text.isEmpty then [] else [row.flag, text])
  | expected, other => .error (.unsupportedShape row.key expected.shape other.shape)

def arguments (row : FlagRow) (settings : Settings) : Except Failure (List String) :=
  match settings.get? row.key with
  | none => .ok []
  | some value => row.argumentsFor value

end FlagRow

def flagArguments (settings : Settings) : List FlagRow → Except Failure (List String)
  | [] => .ok []
  | row :: rest =>
      match row.arguments settings with
      | .error failure => .error failure
      | .ok arguments =>
          match flagArguments settings rest with
          | .error failure => .error failure
          | .ok others => .ok (arguments ++ others)

def linterArguments (settings : Settings) (path : Path) : Except Failure (List String) :=
  match flagArguments settings flagTable with
  | .error failure => .error failure
  | .ok flags => .ok (["--format", "json"] ++ flags ++ ["--", path.display])

/-- The program and the first arguments in the text that names the linter; `none` when it is blank. -/
def splitLinter? (linter : String) : Option (String × List String) :=
  match Text.words linter.toList with
  | [] => none
  | program :: rest => some (String.ofList program, rest.map String.ofList)

/-- An argument as it is shown: in double quotes when it is empty or has a blank. -/
def displayArgument (argument : String) : String :=
  if argument.isEmpty || argument.toList.any Text.isBlank then "\"" ++ argument ++ "\"" else argument

def displayCommand (program : String) (arguments : List String) : String :=
  Text.join " " (program :: arguments.map displayArgument)

structure Invocation where
  program : String
  arguments : List String
  directory : Path
deriving DecidableEq, Repr

namespace Invocation

def make (settings : Settings) (path directory : Path) : Except Failure Invocation :=
  let (program, first) := (splitLinter? settings.linterPath).getD (Settings.defaultLinter, [])
  match linterArguments settings path with
  | .error failure => .error failure
  | .ok arguments => .ok ⟨program, first ++ arguments, directory⟩

def display (invocation : Invocation) : String :=
  displayCommand invocation.program invocation.arguments

end Invocation

end TemplateLint
