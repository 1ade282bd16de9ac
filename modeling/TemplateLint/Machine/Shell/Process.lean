import TemplateLint.Machine.Shell.Arithmetic
import TemplateLint.Machine.Shell.Glob
import TemplateLint.Machine.Shell.Signal
import TemplateLint.Machine.Stream

set_option autoImplicit false

/-!
The state of a process: a shell that runs a script, or a program.

A subshell starts with the state of its shell and gives back only what all processes of the machine share.
-/

namespace TemplateLint.Machine.Shell

inductive Flow where
  | next
  | exits
  /-- An error ends the shell, unless a command of the shell that is none of the special ones was running. -/
  | fails
  | returns
  | leaves (count : Nat)
  | repeats (count : Nat)
  | killed (signal : Nat)
  | endless
deriving DecidableEq, Repr

structure Manner where
  isTested : Bool
  isLast : Bool

structure Function where
  name : Octets
  line : Nat
  body : Command

structure Job where
  index : Nat
  number : Nat
  status : Nat
  isSleeping : Bool
  isUnseen : Bool
  isWaitedFor : Bool
deriving DecidableEq, Repr

/-- How far the options among the parameters have been read: the number of the next parameter, and how many
characters of the one before it. -/
structure OptionPlace where
  index : Nat
  offset : Nat
deriving DecidableEq, Repr

structure Process where
  shared : Shared
  number : Nat
  shellNumber : Nat
  parentNumber : Nat
  directory : Place
  directoryText : Octets
  bindings : Bindings
  aliases : List (Octets × Octets)
  parameters : List Octets
  optionPlace : OptionPlace
  scriptName : Octets
  functions : List Function
  known : List Octets
  channels : List (Nat × Nat)
  status : Nat
  /-- The status of the last command whose output was put into the current command. -/
  innerStatus : Nat
  statusOutside : Option Nat
  options : List Char
  loops : Nat
  calls : Nat
  /-- The bindings that names of the current function have outside it, the latest first; none when no function
  is being run. -/
  hidden : Option (List (Octets × Option Binding))
  hiddenOptions : Option (List Char)
  line : Nat
  commandName : Option Octets
  traps : List (Nat × Octets)
  pending : List Nat
  jobs : List Job
  lastJob : Option Nat
  mask : Nat
  writeError : Option String
  isUnread : Bool

namespace Process

def withStatus (process : Process) (status : Nat) : Process := { process with status := status }

def withFiles (process : Process) (files : FileTree) : Process :=
  { process with shared := { process.shared with files := files } }

def files (process : Process) : FileTree := process.shared.files

def restore (process inner : Process) : Process := { process with shared := inner.shared }

def has (process : Process) (option : Char) : Bool := process.options.contains option

/-! ### Channels -/

def channel? (process : Process) (descriptor : Nat) : Option Nat :=
  (process.channels.find? fun entry => entry.1 == descriptor).map Prod.snd

def close (process : Process) (descriptor : Nat) : Process :=
  { process with channels := process.channels.filter fun entry => entry.1 != descriptor }

def connect (process : Process) (descriptor stream : Nat) : Process :=
  { process with channels := (descriptor, stream) :: (process.close descriptor).channels }

def connectNew (process : Process) (descriptor : Nat) (stream : Stream) : Process :=
  let (index, shared) := process.shared.openStream stream
  { process with shared := shared }.connect descriptor index

def write (process : Process) (descriptor : Nat) (text : Octets) : Process :=
  match process.channel? descriptor with
  | none => { process with writeError := some "Bad file descriptor" }
  | some index =>
      match process.shared.write index text with
      | .done shared => { process with shared := shared }
      | .closed => { process with writeError := some "Bad file descriptor" }
      | .noRoom => { process with writeError := some "No space left on device" }
      | .unread shared => { process with shared := shared, isUnread := true }

def say (process : Process) (text : Octets) : Process := process.write 1 text

def report (process : Process) (text : Octets) : Process :=
  { process.write 2 text with writeError := process.writeError }

def complain (process : Process) (text : Octets) : Process :=
  let command := match process.commandName with
    | some name => name ++ ": ".toList
    | none => []
  process.report
    (process.scriptName ++ ": ".toList ++ natText process.line ++ ": ".toList ++ command ++ text ++ ['\n'])

def fail (process : Process) (text : Octets) : Flow × Process :=
  (.fails, (process.complain text).withStatus 2)

def readable (process : Process) (descriptor : Nat) : Octets :=
  ((process.channel? descriptor).bind process.shared.rest?).getD []

def advance (process : Process) (descriptor count : Nat) : Process :=
  match process.channel? descriptor with
  | some index => { process with shared := process.shared.advance index count }
  | none => process

def takeInput (process : Process) : Octets × Process :=
  let text := process.readable 0
  (text, process.advance 0 text.length)

/-! ### Names -/

def pathOf (text : Octets) : Path := ⟨bytesOf text⟩

def locate (process : Process) (text : Octets) : Except PathError Place :=
  process.files.locate process.directory (pathOf text)

def locateLink (process : Process) (text : Octets) : Except PathError Place :=
  process.files.locateWith false process.directory (pathOf text)

def locateNew (process : Process) (text : Octets) : Except PathError Place :=
  process.files.locateNew process.directory (pathOf text)

def item? (process : Process) (text : Octets) : Option Item :=
  (process.locate text).toOption.bind process.files.item?

def modeOf (process : Process) (mode : Nat) : Nat := mode - (mode &&& process.mask)

def optionOrder : List Char := "pubaCEVvxsnmiIfe".toList

/-- The value of a parameter, besides the two that stand for all positional ones. -/
def value? (process : Process) (name : Octets) : Option Octets :=
  match name with
  | ['#'] => some (natText process.parameters.length)
  | ['?'] => some (natText process.status)
  | ['$'] => some (natText process.shellNumber)
  | ['-'] => some (optionOrder.filter process.has)
  | ['!'] => process.lastJob.map natText
  | _ =>
      if (name.head?.map Char.isDigit).getD false then
        if decimal name = 0 then some process.scriptName else process.parameters[decimal name - 1]?
      else process.bindings.get? name

/-- The state with a value for a name, or the reason why there is none.  The number of the next parameter with
options has to be a number. -/
def assign? (process : Process) (name value : Octets) : Except Octets Process :=
  if process.bindings.isReadOnly name then .error (name ++ ": is read only".toList)
  else
    let assigned := { process with bindings := process.bindings.set name value }
    if name == "OPTIND".toList then
      match decimalInteger? value with
      | some (.ofNat index) => .ok { assigned with optionPlace := ⟨max 1 index, 0⟩ }
      | _ => .error ("Illegal number: ".toList ++ value)
    else .ok assigned

def assign (process : Process) (name value : Octets) : Process :=
  { process with bindings := process.bindings.set name value }

def separators (process : Process) : Octets :=
  (process.bindings.get? "IFS".toList).getD [' ', '\t', '\n']

def searchPath (process : Process) : Octets := (process.bindings.get? "PATH".toList).getD []

/-- The state with a name that gets back its binding when the current function ends. -/
def hide (process : Process) (name : Octets) : Process :=
  match process.hidden with
  | none => process
  | some entries => { process with hidden := some ((name, process.bindings.find? name) :: entries) }

def reveal (process : Process) (entries : List (Octets × Option Binding)) : Process :=
  { process with
    bindings := entries.foldl (fun bindings (name, earlier) => bindings.reset name earlier) process.bindings }

/-! ### Processes -/

/-- The state of a new process of the same shell: it has no jobs, and of the traps it keeps only the signals
that are to do nothing. -/
def fork (process : Process) : Process :=
  { process with
    shared := { process.shared with next := process.shared.next + 1 }
    number := process.shared.next
    traps := process.traps.filter fun entry => entry.2.isEmpty
    pending := []
    jobs := [] }

/-- The state with the signals that have come: those with a trap wait, and the first one that ends the process
is returned. -/
def deliver (process : Process) : Option Nat × Process :=
  let (signals, shared) := process.shared.receive process.number
  let process := { process with shared := shared }
  signals.foldl (fun (ending, process) signal =>
    match ending with
    | some other => (some other, process)
    | none =>
        if signal == killSignal then (some signal, process)
        else
          match process.traps.find? fun entry => entry.1 == signal with
          | some (_, action) =>
              if action.isEmpty then (none, process)
              else (none, { process with pending := process.pending ++ [signal] })
          | none => (if isHarmless signal then none else some signal, process)) (none, process)

end Process

end TemplateLint.Machine.Shell
