import TemplateLint.Machine.Shell.Builtin.Basic

set_option autoImplicit false

/-!
The commands about signals and about the processes that a shell has started.
-/

namespace TemplateLint.Machine.Shell

/-- Sets what is done on the signals that are named; the first one that does not exist ends this. -/
def setTraps (action : Option Octets) : List Octets → Process → Flow × Process
  | [], process => goOn process 0
  | name :: rest, process =>
      match trapped? name with
      | none => goOn (process.report ("trap: ".toList ++ name ++ ": bad trap\n".toList)) 1
      | some signal =>
          let others := process.traps.filter fun entry => entry.1 != signal
          let traps := match action with
            | some text => (signal, text) :: others
            | none => others
          setTraps action rest { process with traps := traps }

def trapName (signal : Nat) : String := if signal = 0 then "EXIT" else signalName signal

def runTrap (operands : List Octets) (process : Process) : Flow × Process :=
  withOptions "" operands process fun _ operands =>
    match operands with
    | [] =>
        let sorted := process.traps.mergeSort fun left right => left.1 ≤ right.1
        goOn (process.say (asLines (sorted.map fun (signal, action) =>
          "trap -- ".toList ++ singleQuoted action ++ ' ' :: (trapName signal).toList))) 0
    | first :: rest =>
        let isNumber := ((decimal? first).filter (· < signalCount)).isSome
        if rest.isEmpty || isNumber then setTraps none operands process
        else setTraps (if first = ['-'] then none else some first) rest process

/-! ### Sending signals -/

def killUsage : Octets :=
  "Usage: kill [-s sigspec | -signum | -sigspec] [pid | job]... or\nkill -l [exitstatus]".toList

def listSignals (operands : List Octets) (process : Process) : Flow × Process :=
  match operands with
  | [] =>
      let names := (List.range (signalCount - 1)).map fun index => (signalName (index + 1)).toList
      goOn (process.say (asLines (['0'] :: names))) 0
  | operand :: _ =>
      withCount 0 operands process fun number =>
        let signal := if 128 < number then number - 128 else number
        if 0 < signal && signal < signalCount then
          goOn (process.say ((signalName signal).toList ++ ['\n'])) 0
        else process.fail ("invalid signal number or exit status: ".toList ++ operand)

/-- The job that an operand names: by its place, as the latest one or as the one before it. -/
def jobOf? (process : Process) (operand : Octets) : Except Octets Job :=
  let jobs := process.jobs
  let (job?, absence) := match operand with
    | ['%'] | ['%', '%'] | ['%', '+'] => (jobs[0]?, "No current job".toList)
    | ['%', '-'] => (jobs[1]?, "No previous job".toList)
    | _ :: text =>
        (jobs.find? fun job => decimal? text == some job.index, "No such job: ".toList ++ operand)
    | [] => (none, [])
  match job? with
  | some job => .ok job
  | none => .error absence

def namesJob (operand : Octets) : Bool := operand.head? == some '%'

/-- The number of the process that an operand names; a job is no group of processes of its own, so it is none
that a signal reaches. -/
def target? (process : Process) (operand : Octets) : Except Octets (Option Nat) :=
  if namesJob operand then (jobOf? process operand).map fun _ => none
  else
    match countOf? operand with
    | some number => .ok (some number)
    | none => .error ("Illegal number: ".toList ++ operand)

def isAlive (process : Process) (number : Nat) : Bool :=
  number == process.number || number == process.shellNumber || number == process.parentNumber ||
    process.jobs.any fun job => job.number == number

def sendTo (signal number : Nat) (process : Process) : Process :=
  match process.jobs.find? fun job => job.number == number with
  | none => { process with shared := process.shared.send number signal }
  | some job =>
      if !job.isSleeping || isHarmless signal then process
      else
        let ended : Job := { job with status := signalStatus signal, isSleeping := false }
        { process with jobs := process.jobs.map fun other => if other.number = number then ended else other }

def sendAll (signal : Nat) : List Octets → Bool → Process → Flow × Process
  | [], isGood, process => goOn process (statusOf isGood)
  | operand :: rest, isGood, process =>
      match target? process operand with
      | .error reason => process.fail reason
      | .ok number? =>
          match number?.filter (isAlive process) with
          | some number => sendAll signal rest isGood (if signal = 0 then process else sendTo signal number process)
          | none => sendAll signal rest false (process.complain "No such process\n".toList)

def runKill (operands : List Octets) (process : Process) : Flow × Process :=
  let sendOrList := fun (isList : Bool) (signal : Option Nat) (targets : List Octets) =>
    if isList && signal.isNone then listSignals targets process
    else if isList || targets.isEmpty then process.fail killUsage
    else sendAll (signal.getD endSignal) targets true process
  match operands with
  | [] => process.fail killUsage
  | ('-' :: text) :: rest =>
      match signal? text with
      | some signal => sendOrList false (some signal) rest
      | none =>
          withOptions "ls:" operands process fun options targets =>
            match optionText? options 's' with
            | none => sendOrList (hasOption options 'l') none targets
            | some name =>
                match signal? name with
                | some signal => sendOrList (hasOption options 'l') (some signal) targets
                | none => process.fail ("invalid signal number or name: ".toList ++ name)
  | targets => sendOrList false none targets

/-! ### Waiting -/

def Job.settle (job : Job) : Job := { job with isSleeping := false, isUnseen := false, isWaitedFor := true }

/-- Waits for a job; when the shell sees its end only now, it says which signal has ended it. -/
def waitFor (job : Job) (process : Process) : Process :=
  let jobs := process.jobs.map fun other => if other.number = job.number then job.settle else other
  let text? := if job.isUnseen && 128 < job.status then signalText? (job.status - 128) else none
  let told := match text? with
    | some text => process.report (text.toList ++ ['\n'])
    | none => process
  { told with jobs := jobs }

def waitAll : List Octets → Nat → Process → Flow × Process
  | [], status, process => goOn process status
  | operand :: rest, _, process =>
      let job? : Except Octets (Option Job) :=
        if namesJob operand then (jobOf? process operand).map some
        else (target? process operand).map fun number? =>
          process.jobs.find? fun job => some job.number == number?
      match job? with
      | .error reason => process.fail reason
      | .ok none => waitAll rest 127 process
      | .ok (some job) => waitAll rest job.status (waitFor job process)

def runWait (operands : List Octets) (process : Process) : Flow × Process :=
  withOptions "" operands process fun _ operands =>
    if operands.isEmpty then goOn { process with jobs := process.jobs.map Job.settle } 0
    else waitAll operands 0 process

/-! ### Showing jobs -/

/-- How much room there is for what is said about a job in front of its command. -/
def jobWidth : Nat := 33

def Job.state (job : Job) : Octets :=
  if job.isSleeping then "Running".toList
  else if job.status = 0 then "Done".toList
  else if job.status = signalStatus pipeSignal then "Broken pipe".toList
  else
    match if 128 < job.status then signalText? (job.status - 128) else none with
    | some text => text.toList
    | none => "Done(".toList ++ natText job.status ++ [')']

/-- Shows jobs, the latest first, and forgets those that have ended.  A sign stands at the first two of those
that are left. -/
def showJobs (isBrief withNumber : Bool) : List Job → Process → Process
  | [], process => process
  | job :: rest, process =>
      let place := process.jobs.findIdx? fun other => other.index == job.index
      let sign := match place with
        | some 0 => '+'
        | some 1 => '-'
        | _ => ' '
      let number := if withNumber then natText job.number ++ [' '] else []
      let text := '[' :: natText job.index ++ ']' :: ' ' :: sign :: ' ' :: number ++ job.state
      let padding := List.replicate (max 1 (jobWidth - text.length)) ' '
      let process := process.say (if isBrief then natText job.number ++ ['\n'] else text ++ padding ++ ['\n'])
      let left := process.jobs.filter fun other => other.index != job.index || other.isSleeping
      showJobs isBrief withNumber rest { process with jobs := left }

def runJobs (operands : List Octets) (process : Process) : Flow × Process :=
  withOptions "lp" operands process fun options operands =>
    let seen := { process with jobs := process.jobs.map fun job => { job with isUnseen := job.isSleeping } }
    let shows := showJobs (hasOption options 'p') (hasOption options 'l')
    if operands.isEmpty then goOn (shows seen.jobs seen) 0
    else
      match operands.mapM (jobOf? seen) with
      | .ok jobs => goOn (shows jobs seen) 0
      | .error reason => seen.fail reason

def runTimes (_ : List Octets) (process : Process) : Flow × Process :=
  let line := "0m0.000000s 0m0.000000s".toList
  goOn (process.say (asLines [line, line])) 0

def runResume (_ : List Octets) (process : Process) : Flow × Process :=
  process.fail "No current job".toList

end TemplateLint.Machine.Shell
