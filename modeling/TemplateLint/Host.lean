import TemplateLint.Path

set_option autoImplicit false

/-!
What the program needs from the machine it runs on, and what it writes to the log.

A host is given by its behaviour alone: what a path names, and what happens when a command is started.  Both
may depend on a state, which a command may change.  Nothing is assumed about either, so statements about the
program hold for every linter.
-/

namespace TemplateLint

inductive FileEntry where
  | absent
  /-- Something that cannot be read as a file. -/
  | unreadable
  | file (content : List UInt8)
deriving DecidableEq, Repr

namespace FileEntry

def isPresent : FileEntry → Bool
  | .absent => false
  | _ => true

/-- The text of a file; `none` when there is no file or it is not UTF-8. -/
def text? : FileEntry → Option String
  | .file content => (Text.Utf8.decode? content).map String.ofList
  | _ => none

end FileEntry

/-- A command to be started.  Without a directory it runs in the current one. -/
structure Command where
  program : String
  arguments : List String
  directory : Option Path
deriving DecidableEq, Repr

/-- What a process leaves behind.  There is no exit code when a signal ended it. -/
structure ProcessOutput where
  stdout : List UInt8
  stderr : List UInt8
  code : Option Nat
deriving DecidableEq, Repr

def ProcessOutput.isSuccess (output : ProcessOutput) : Bool :=
  output.code == some 0

inductive Launch where
  | notStarted (reason : String)
  /-- The process was started but its end could not be waited for. -/
  | lost
  | finished (output : ProcessOutput)
deriving DecidableEq, Repr

/-- A machine with states of type `σ`. -/
structure Host (σ : Type) where
  entry : σ → Path → FileEntry
  start : Command → σ → Launch × σ
  currentDirectory : Path
  home : Option Path

/-! ### The log -/

inductive LogLevel where
  | error
  | warn
  | info
  | debug
  | trace
deriving DecidableEq, Repr

def LogLevel.name : LogLevel → String
  | .error => "ERROR"
  | .warn => "WARN"
  | .info => "INFO"
  | .debug => "DEBUG"
  | .trace => "TRACE"

def LogLevel.rank : LogLevel → Nat
  | .error => 1
  | .warn => 2
  | .info => 3
  | .debug => 4
  | .trace => 5

structure LogRecord where
  level : LogLevel
  message : String
deriving DecidableEq, Repr

structure World (σ : Type) where
  state : σ
  log : List LogRecord

namespace World

variable {σ : Type}

def note (world : World σ) (level : LogLevel) (message : String) : World σ :=
  { world with log := world.log ++ [⟨level, message⟩] }

def noteAll (world : World σ) (records : List LogRecord) : World σ :=
  { world with log := world.log ++ records }

@[simp] theorem state_note (world : World σ) (level : LogLevel) (message : String) :
    (world.note level message).state = world.state := rfl

theorem noteAll_nil (world : World σ) : world.noteAll [] = world := by
  simp only [noteAll, List.append_nil]

end World

end TemplateLint
