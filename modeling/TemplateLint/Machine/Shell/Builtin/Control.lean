import TemplateLint.Machine.Shell.Builtin.Basic

set_option autoImplicit false

/-!
The commands that say where a script goes on, and those that only have a status.
-/

namespace TemplateLint.Machine.Shell

/-- The status that a command leaves when none is given; a trap starts with the status before it. -/
def leavingStatus (process : Process) : Nat := process.statusOutside.getD process.status

def runExit (operands : List Octets) (process : Process) : Flow × Process :=
  withCount (leavingStatus process) operands process fun status =>
    (.exits, process.withStatus (status % 256))

def runReturn (operands : List Octets) (process : Process) : Flow × Process :=
  withCount (leavingStatus process) operands process fun status => (.returns, process.withStatus status)

def runLeave (flow : Nat → Flow) (operands : List Octets) (process : Process) : Flow × Process :=
  withCount 1 operands process fun count =>
    if count = 0 then process.fail ("Illegal number: ".toList ++ operands.head?.getD [])
    else
      let count := min count process.loops
      (if count = 0 then .next else flow count, process.withStatus 0)

end TemplateLint.Machine.Shell
