import TemplateLint.Machine.Shell.Builtin.Basic
import TemplateLint.Machine.Shell.Condition
import TemplateLint.Machine.Shell.Format

set_option autoImplicit false

/-!
The commands that print, and those that test a condition.
-/

namespace TemplateLint.Machine.Shell

def runEcho (operands : List Octets) (process : Process) : Flow × Process :=
  goOn (process.say (echoText operands)) 0

def runPrintf (operands : List Octets) (process : Process) : Flow × Process :=
  withOptions "" operands process fun _ operands =>
    match operands with
    | [] => process.fail "usage: printf format [arg ...]".toList
    | format :: operands =>
        let printing := printingOf format operands
        let process := printing.complaints.reverse.foldl Process.complain process
        let process := process.say printing.text
        match printing.failure with
        | some reason => process.fail reason
        | none => goOn process (statusOf printing.complaints.isEmpty)

def Process.surroundings (process : Process) : Surroundings where
  item? := process.item?
  number? := fun path => (process.locate path).toOption.bind process.files.number?
  isLink := fun path =>
    match (process.locateLink path).toOption.bind process.files.node? with
    | some (.link _) => true
    | _ => false

def runTest (operands : List Octets) (process : Process) : Flow × Process :=
  match testOutcome process.surroundings (operands.length + 1) operands with
  | .ok outcome => goOn process (statusOf outcome)
  | .error reason => process.fail reason

def runBracket (operands : List Octets) (process : Process) : Flow × Process :=
  if operands.getLast? = some [']'] then runTest operands.dropLast process
  else process.fail "missing ]".toList

end TemplateLint.Machine.Shell
