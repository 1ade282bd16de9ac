import TemplateLint.Machine.Shell.Builtin.Control
import TemplateLint.Machine.Shell.Builtin.Directory
import TemplateLint.Machine.Shell.Builtin.Naming
import TemplateLint.Machine.Shell.Builtin.Printing
import TemplateLint.Machine.Shell.Builtin.Signalling
import TemplateLint.Machine.Shell.Builtin.Variable

set_option autoImplicit false

/-!
The commands that the shell carries out itself, by their names; those that run other commands stand with the
run of commands.
-/

namespace TemplateLint.Machine.Shell

abbrev Builtin := List Octets → Process → Flow × Process

def builtin? (name : String) : Option Builtin :=
  match name with
  | ":" | "true" => some fun _ process => goOn process 0
  | "false" => some fun _ process => goOn process 1
  | "echo" => some runEcho
  | "printf" => some runPrintf
  | "test" => some runTest
  | "[" => some runBracket
  | "exit" => some runExit
  | "return" => some runReturn
  | "break" => some (runLeave .leaves)
  | "continue" => some (runLeave .repeats)
  | "cd" | "chdir" => some runCd
  | "pwd" => some runPwd
  | "umask" => some runUmask
  | "ulimit" => some runUlimit
  | "set" => some runSet
  | "shift" => some runShift
  | "export" => some (runDeclare name Bindings.markExported Binding.isExported)
  | "readonly" => some (runDeclare name Bindings.markReadOnly Binding.isReadOnly)
  | "local" => some runLocal
  | "unset" => some runUnset
  | "read" => some runRead
  | "getopts" => some runGetopts
  | "trap" => some runTrap
  | "kill" => some runKill
  | "wait" => some runWait
  | "jobs" => some runJobs
  | "times" => some runTimes
  | "bg" | "fg" => some runResume
  | "type" => some runType
  | "hash" => some runHash
  | "alias" => some runAlias
  | "unalias" => some runUnalias
  | _ => none

end TemplateLint.Machine.Shell
