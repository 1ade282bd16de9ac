import TemplateLint.Engine
import TemplateLint.Report.Format

set_option autoImplicit false

/-!
Checking files one after the other with one engine.

A file is read just before it is checked.  The first file that fails ends the check, and nothing is reported
then.
-/

namespace TemplateLint

structure Check where
  reports : List Report
deriving DecidableEq, Repr

namespace Check

variable {σ : Type}

def hasErrors (check : Check) : Bool :=
  check.reports.any Report.hasErrors

def output (check : Check) (isColored : Bool) (format : ReportFormat) : String :=
  Report.format isColored check.reports format

def skipNote (path : Path) : String :=
  path.display ++ " does not look like a CloudFormation template; pass --force to lint it anyway"

def reportOf (path : Path) (document : Document) (outcome : Outcome) : Report where
  filePath := path.display
  uri := document.uri
  skipped := outcome.isSkipped
  diagnostics := outcome.diagnostics

/-- Checks a file.  With `isForced` it is checked whether it is a template or not. -/
def file {τ : Type} [Sink τ] (host : Host σ) (isForced : Bool) (engine : Engine τ) (path : Path)
    (world : World σ) : Except Failure Report × Engine τ × World σ :=
  match (host.entry world.state path).text? with
  | none => (.error .io, engine, world)
  | some text =>
      let document := Document.ofFile host.currentDirectory path text
      let (result, engine, world) :=
        if isForced then engine.lintUnchecked host document world else engine.lint host document world
      match result with
      | .error failure => (.error failure, engine, world)
      | .ok outcome =>
          let world := if outcome.isSkipped then world.note .warn (skipNote path) else world
          (.ok (reportOf path document outcome), engine, world)

def files {τ : Type} [Sink τ] (host : Host σ) (isForced : Bool) :
    List Path → Engine τ → World σ → Except Failure (List Report) × Engine τ × World σ
  | [], engine, world => (.ok [], engine, world)
  | path :: rest, engine, world =>
      match file host isForced engine path world with
      | (.error failure, engine, world) => (.error failure, engine, world)
      | (.ok report, engine, world) =>
          let (others, engine, world) := files host isForced rest engine world
          (others.map (report :: ·), engine, world)

def run (host : Host σ) (settings : Settings) (projectRoot : Path) (isForced : Bool) (paths : List Path)
    (world : World σ) : Except Failure Check × World σ :=
  let (engine, world) := Engine.start settings projectRoot Collection.empty world
  let (reports, _, world) := files host isForced paths engine world
  (reports.map Check.mk, world)

end Check

end TemplateLint
