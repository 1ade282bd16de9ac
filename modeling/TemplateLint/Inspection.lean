import TemplateLint.Document
import TemplateLint.Linting

set_option autoImplicit false

/-!
What the program tells about its own work: whether it would check a file, with which command, and whether the
linter can be started at all.
-/

namespace TemplateLint.Inspection

variable {σ : Type}

/-- Says whether a file is a template, with the reason.  The patterns are looked at only if it is not a
standard template. -/
def detect (host : Host σ) (settings : Settings) (path : Path) (state : σ) : Except Failure (String × Bool) :=
  match (host.entry state path).text? with
  | none => .error .io
  | some text =>
      if Template.isStandard text then .ok (Template.Verdict.standard.explanation path.display, true)
      else
        let patterns := settings.detectPatterns
        match Template.compile patterns with
        | .error failure => .error failure
        | .ok compiled =>
            match Template.firstMatch? text compiled with
            | some index =>
                let verdict := Template.Verdict.custom (patterns.getD index "")
                .ok (verdict.explanation path.display, true)
            | none => .ok (Template.Verdict.notTemplate.explanation path.display, false)

def commandLine (currentDirectory : Path) (settings : Settings) (path projectRoot : Path) :
    Except Failure String :=
  let document := Document.ofFile currentDirectory path ""
  (Invocation.make settings document.path projectRoot).map Invocation.display

/-! ### Whether the linter works -/

def versionCommand (program : String) (first : List String) : Command :=
  ⟨program, first ++ ["--version"], none⟩

/-- The first line of a process that is not blank: those of its output come before those of its error output. -/
def firstLine? (output : ProcessOutput) : Option String :=
  let lines := Text.lines (Text.Utf8.decodeLossy output.stdout) ++
    Text.lines (Text.Utf8.decodeLossy output.stderr)
  ((lines.map Text.trim).find? fun line => !line.isEmpty).map String.ofList

def isAvailable (host : Host σ) (program : String) (first : List String) (state : σ) : Bool × σ :=
  match host.start (versionCommand program first) state with
  | (.finished _, state) => (true, state)
  | (_, state) => (false, state)

def version? (host : Host σ) (program : String) (first : List String) (state : σ) : Option String × σ :=
  match host.start (versionCommand program first) state with
  | (.finished output, state) => (if output.isSuccess then firstLine? output else none, state)
  | (_, state) => (none, state)

inductive Health where
  | unnamed
  | unstartable (linter : String)
  | unsuccessful (linter : String)
  | working (linter version : String)
deriving DecidableEq, Repr

namespace Health

def isWorking : Health → Bool
  | .working _ _ => true
  | _ => false

def message : Health → String
  | .unnamed => "cfn-lint path is empty"
  | .unstartable linter =>
      "✗ unable to start '" ++ linter ++ "'. Is cfn-lint installed correctly? (pip install cfn-lint)"
  | .unsuccessful linter => "✗ '" ++ linter ++ " --version' did not exit successfully"
  | .working linter version => "✓ " ++ version ++ " (" ++ linter ++ ")"

end Health

/-- Examines the linter of the settings: it is started once to see whether it starts, and again for its
version. -/
def examine (host : Host σ) (settings : Settings) (state : σ) : Health × σ :=
  let linter := settings.linterPath
  match splitLinter? linter with
  | none => (.unnamed, state)
  | some (program, first) =>
      match isAvailable host program first state with
      | (false, state) => (.unstartable linter, state)
      | (true, state) =>
          match version? host program first state with
          | (none, state) => (.unsuccessful linter, state)
          | (some version, state) => (.working linter version, state)

end TemplateLint.Inspection
