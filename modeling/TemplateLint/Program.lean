import TemplateLint.Check
import TemplateLint.CommandLine.Reader
import TemplateLint.Configuration
import TemplateLint.Inspection

set_option autoImplicit false

/-!
The program as a whole: a request is carried out on a machine, and a command line ends with an exit code.

The code is 0 when nothing is wrong, 1 when the command found something, and 2 when it could not be carried
out.
-/

namespace TemplateLint.Program

variable {σ : Type}

def versionText : String := "cfn-lint-bridge 0.3.0\n"

def usageText : String :=
  "Usage: cfn-lint-bridge [-c FILE] [-v] [-q] COMMAND\n\n" ++
    "Commands:\n" ++
    "  lint [--project-root DIR] [--format stylish|json|compact] [--force] FILE...\n" ++
    "  detect FILE\n" ++
    "  args [--project-root DIR] FILE\n" ++
    "  doctor [--project-root DIR]\n" ++
    "  help\n"

/-! ### Carrying out a request -/

structure Reply where
  text : String
  isGood : Bool
deriving DecidableEq, Repr

def Reply.line (text : String) (isGood : Bool) : Reply := ⟨text ++ "\n", isGood⟩

def projectRoot (currentDirectory : Path) : CommandLine.Task → Path
  | .lint _ root _ _ => root.getD currentDirectory
  | .detect _ => currentDirectory
  | .arguments _ root => root.getD currentDirectory
  | .doctor root => root.getD currentDirectory

def perform (host : Host σ) (isColored : Bool) (settings : Settings) (root : Path) (task : CommandLine.Task)
    (world : World σ) : Except Failure Reply × World σ :=
  match task with
  | .lint files _ format isForced =>
      let (result, world) := Check.run host settings root isForced files world
      (result.map fun check => ⟨check.output isColored format, !check.hasErrors⟩, world)
  | .detect file =>
      ((Inspection.detect host settings file world.state).map fun (text, isTemplate) =>
        Reply.line text isTemplate, world)
  | .arguments file _ =>
      ((Inspection.commandLine host.currentDirectory settings file root).map fun text =>
        Reply.line text true, world)
  | .doctor _ =>
      let (health, state) := Inspection.examine host settings world.state
      (.ok (Reply.line health.message health.isWorking), { world with state := state })

def carryOut (host : Host σ) (isColored : Bool) (request : CommandLine.Request) (world : World σ) :
    Except Failure Reply × World σ :=
  let root := projectRoot host.currentDirectory request.task
  let (settings, notes) :=
    Configuration.resolve (host.entry world.state) host.home request.configuration (some root)
  let world := world.noteAll notes
  match settings with
  | .error failure => (.error failure, world)
  | .ok settings => perform host isColored settings root request.task world

/-! ### The end of the program -/

/-- The rank of the least important records that a request shows; a quiet one shows none. -/
def shownRank (request : CommandLine.Request) : Nat :=
  if request.isQuiet then 0
  else
    match request.verbosity with
    | 0 => LogLevel.warn.rank
    | 1 => LogLevel.info.rank
    | 2 => LogLevel.debug.rank
    | _ => LogLevel.trace.rank

def shownRecords (request : CommandLine.Request) (log : List LogRecord) : List LogRecord :=
  log.filter fun record => record.level.rank ≤ shownRank request

structure Ending where
  code : Nat
  output : String
  complaint : Option String
  log : List LogRecord
deriving DecidableEq, Repr

def endingOfRefusal : CommandLine.Refusal → Ending
  | .help => ⟨0, usageText, none, []⟩
  | .version => ⟨0, versionText, none, []⟩
  | _ => ⟨2, "", some usageText, []⟩

def endingOf (result : Except Failure Reply) (log : List LogRecord) : Ending :=
  match result with
  | .ok reply => ⟨if reply.isGood then 0 else 1, reply.text, none, log⟩
  | .error failure => ⟨2, "", some ("Error: " ++ failure.message ++ "\n"), log⟩

def run (host : Host σ) (isColored : Bool) (words : List String) (state : σ) : Ending × σ :=
  match CommandLine.read words with
  | .error refusal => (endingOfRefusal refusal, state)
  | .ok request =>
      let (result, world) := carryOut host isColored request ⟨state, []⟩
      (endingOf result (shownRecords request world.log), world.state)

end TemplateLint.Program
