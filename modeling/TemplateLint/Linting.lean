import TemplateLint.Finding
import TemplateLint.Host
import TemplateLint.Invocation
import TemplateLint.Template

set_option autoImplicit false

/-!
One run of the linter: the command is started, and what the process leaves behind becomes diagnostics.

Trouble with the linter itself, which did not start or wrote to its error output, is a single diagnostic on
the first line.
-/

namespace TemplateLint

open TemplateLint.Regex (Pattern)

def startFailureText : String :=
  "Error: unable to start cfn-lint. Is cfn-lint installed correctly?"

def errorOutputText : String := "Error occurred. See the log for details"

inductive RunOutput where
  | startFailed
  /-- The process wrote to its error output, so its output is not trusted. -/
  | errorOutput (text : String) (code : Option Nat)
  | completed (output : String) (code : Option Nat)
deriving DecidableEq, Repr

def displayCode : Option Nat → String
  | some code => "Some(" ++ toString code ++ ")"
  | none => "None"

def RunOutput.ofProcess (output : ProcessOutput) : RunOutput :=
  if output.stderr.isEmpty then .completed (Text.Utf8.stringLossy output.stdout) output.code
  else .errorOutput (Text.Utf8.stringLossy output.stderr) output.code

def endNotes (output : ProcessOutput) : List LogRecord :=
  ⟨.info, "cfn-lint exited with code " ++ displayCode output.code⟩ ::
    (if output.stderr.isEmpty then []
    else [⟨.error, String.ofList (Text.trimEnd (Text.Utf8.decodeLossy output.stderr))⟩])

def Invocation.command (invocation : Invocation) : Command where
  program := invocation.program
  arguments := invocation.arguments
  directory := some invocation.directory

def execute {σ : Type} (host : Host σ) (invocation : Invocation) (world : World σ) :
    Except Failure RunOutput × World σ :=
  let world := world.note .info ("Executing '" ++ invocation.display ++ "'")
  let (launch, state) := host.start invocation.command world.state
  let world : World σ := { world with state := state }
  match launch with
  | .notStarted reason => (.ok .startFailed, world.note .error (startFailureText ++ ": " ++ reason))
  | .lost => (.error .io, world)
  | .finished output => (.ok (RunOutput.ofProcess output), world.noteAll (endNotes output))

def keptFindings (findings : List Finding) (ignored : List Pattern) : List Finding :=
  findings.filter fun finding => !ignored.any fun pattern => pattern.isMatch finding.message

/-- The diagnostics of findings; the first unknown level is the failure. -/
def diagnosticsOf : List Finding → Except Failure (List Diagnostic)
  | [] => .ok []
  | finding :: rest =>
      match finding.diagnostic with
      | .error failure => .error failure
      | .ok diagnostic =>
          match diagnosticsOf rest with
          | .error failure => .error failure
          | .ok others => .ok (diagnostic :: others)

def countNotes (total kept : Nat) : List LogRecord :=
  ⟨.info, "cfn-lint returned " ++ toString total ++ " results"⟩ ::
    (if kept = total then []
    else [⟨.info, "Filtered to " ++ toString kept ++
      " results after applying \"cfnlint.ignoreRulesRegExps\""⟩])

def interpret (output : RunOutput) (ignored : List Pattern) :
    Except Failure (List Diagnostic) × List LogRecord :=
  match output with
  | .startFailed => (.ok [Diagnostic.synthetic startFailureText], [])
  | .errorOutput _ _ => (.ok [Diagnostic.synthetic errorOutputText], [])
  | .completed text _ =>
      match parseFindings text with
      | .error failure => (.error failure, [])
      | .ok findings =>
          let kept := keptFindings findings ignored
          (diagnosticsOf kept, countNotes findings.length kept.length)

/-- Checks a file from a directory.  Nothing is started unless the settings are in order. -/
def lintFile {σ : Type} (host : Host σ) (settings : Settings) (path directory : Path) (world : World σ) :
    Except Failure (List Diagnostic) × World σ :=
  match Template.compile settings.ignorePatterns with
  | .error failure => (.error failure, world)
  | .ok ignored =>
      match Invocation.make settings path directory with
      | .error failure => (.error failure, world)
      | .ok invocation =>
          match execute host invocation world with
          | (.error failure, world) => (.error failure, world)
          | (.ok output, world) =>
              let (result, notes) := interpret output ignored
              let world := world.noteAll notes
              match result with
              | .error failure => (.error failure, world)
              | .ok diagnostics =>
                  (.ok diagnostics,
                    world.note .debug (toString diagnostics.length ++ " diagnostics for " ++ path.display))

end TemplateLint
