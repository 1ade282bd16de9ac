import TemplateLint.Machine.Shell.Arithmetic

set_option autoImplicit false

/-!
Signals, which are numbers with names.
-/

namespace TemplateLint.Machine.Shell

/-- The names of the signals, in order of their numbers; some numbers have no name. -/
def signalNames : List (Option String) :=
  [none, some "HUP", some "INT", some "QUIT", some "ILL", some "TRAP", some "ABRT", some "BUS", some "FPE",
    some "KILL", some "USR1", some "SEGV", some "USR2", some "PIPE", some "ALRM", some "TERM", none,
    some "CHLD", some "CONT", some "STOP", some "TSTP", some "TTIN", some "TTOU", some "URG", some "XCPU",
    some "XFSZ", some "VTALRM", some "PROF", some "WINCH", some "IO", some "PWR", some "SYS", none, none] ++
    (List.range 16).map (fun index => some (if index = 0 then "RTMIN" else "RTMIN+" ++ toString index)) ++
    (List.range 15).map (fun index => some (if index = 14 then "RTMAX" else "RTMAX-" ++ toString (14 - index)))

def signalCount : Nat := 65

def signalName (number : Nat) : String :=
  match signalNames[number]? with
  | some (some name) => name
  | _ => toString number

def signal? (text : Octets) : Option Nat :=
  match decimal? text with
  | some number => if number < signalCount then some number else none
  | none => signalNames.findIdx? fun name => (name.map fun name => (String.ofList text).toUpper == name) == some true

/-- The signal for which a trap can be set: zero and `EXIT` stand for the end of the shell. -/
def trapped? (text : Octets) : Option Nat :=
  if text == "EXIT".toList then some 0 else signal? text

def pipeSignal : Nat := 13

def killSignal : Nat := 9

def endSignal : Nat := 15

def isHarmless (signal : Nat) : Bool := [0, 17, 18, 19, 20, 21, 22, 23, 28].contains signal

def signalStatus (signal : Nat) : Nat := 128 + signal

def signalText? : Nat → Option String
  | 1 => some "Hangup"
  | 2 => none
  | 3 => some "Quit"
  | 4 => some "Illegal instruction"
  | 5 => some "Trace/breakpoint trap"
  | 6 => some "Aborted"
  | 7 => some "Bus error"
  | 8 => some "Floating point exception"
  | 9 => some "Killed"
  | 10 => some "User defined signal 1"
  | 11 => some "Segmentation fault"
  | 12 => some "User defined signal 2"
  | 13 => none
  | 14 => some "Alarm clock"
  | 15 => some "Terminated"
  | 16 => some "Stack fault"
  | 24 => some "CPU time limit exceeded"
  | 25 => some "File size limit exceeded"
  | 26 => some "Virtual timer expired"
  | 27 => some "Profiling timer expired"
  | 29 => some "I/O possible"
  | 30 => some "Power failure"
  | 31 => some "Bad system call"
  | signal => some ("Real-time signal " ++ toString (signal - 34))

end TemplateLint.Machine.Shell
