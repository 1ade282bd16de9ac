import TemplateLint.Path
import TemplateLint.Report.Basic

set_option autoImplicit false

/-!
The command line of the program: what can be asked for, and the words with which it is asked.

There is a top level, where the command is named, and a scope for each command.  A scope knows its options and
how many files it takes.
-/

namespace TemplateLint.CommandLine

inductive Task where
  | lint (files : List Path) (projectRoot : Option Path) (format : ReportFormat) (isForced : Bool)
  | detect (file : Path)
  | arguments (file : Path) (projectRoot : Option Path)
  | doctor (projectRoot : Option Path)
deriving DecidableEq, Repr

structure Request where
  task : Task
  configuration : Option Path
  verbosity : Nat
  isQuiet : Bool
deriving DecidableEq, Repr

inductive Refusal where
  | help
  | version
  | nothingAsked
  | noCommand
  | unknownCommand
  | unknownArgument
  | missingFile
  /-- An option has no value, or one that it cannot take; or the name of a file is empty. -/
  | invalidValue
  | repeatedOption
  | unexpectedValue
deriving DecidableEq, Repr

inductive Scope where
  | top
  | lint
  | detect
  | arguments
  | doctor
deriving DecidableEq, Repr

def Scope.ofWord? : String → Option Scope
  | "lint" => some .lint
  | "detect" => some .detect
  | "args" => some .arguments
  | "doctor" => some .doctor
  | _ => none

def helpWord : String := "help"

inductive Parameter where
  | configuration
  | verbosity
  | quiet
  | projectRoot
  | format
  | force
  | help
  | version
  | file
deriving DecidableEq, Repr

namespace Parameter

def takesValue : Parameter → Bool
  | .configuration | .projectRoot | .format => true
  | _ => false

def spellings : Parameter → Option String × Option Char
  | .configuration => (some "config", some 'c')
  | .verbosity => (some "verbose", some 'v')
  | .quiet => (some "quiet", some 'q')
  | .projectRoot => (some "project-root", none)
  | .format => (some "format", none)
  | .force => (some "force", none)
  | .help => (some "help", some 'h')
  | .version => (some "version", some 'V')
  | .file => (none, none)

end Parameter

namespace Scope

/-- The options of a scope.  Those of the first line are known everywhere. -/
def options (scope : Scope) : List Parameter :=
  [.configuration, .verbosity, .quiet, .help] ++
    match scope with
    | .top => [.version]
    | .lint => [.projectRoot, .format, .force]
    | .detect => []
    | .arguments => [.projectRoot]
    | .doctor => [.projectRoot]

def long? (scope : Scope) (name : String) : Option Parameter :=
  scope.options.find? fun parameter => parameter.spellings.1 == some name

def short? (scope : Scope) (letter : Char) : Option Parameter :=
  scope.options.find? fun parameter => parameter.spellings.2 == some letter

def hasRoom (scope : Scope) (taken : Nat) : Bool :=
  match scope with
  | .lint => true
  | .detect | .arguments => taken == 0
  | .top | .doctor => false

def needsFile : Scope → Bool
  | .lint | .detect | .arguments => true
  | .top | .doctor => false

end Scope

def formatOfWord? : String → Option ReportFormat
  | "stylish" => some .stylish
  | "json" => some .json
  | "compact" => some .compact
  | _ => none

def greatestVerbosity : Nat := 255

structure Given where
  configuration : Option Path := none
  verbosity : Nat := 0
  isQuiet : Bool := false
  projectRoot : Option Path := none
  format : Option ReportFormat := none
  isForced : Bool := false
  files : List Path := []
deriving DecidableEq, Repr

namespace Given

def isNothing (given : Given) : Bool := given == {}

/-- A path on the command line is not empty. -/
def pathOfWord (word : String) : Except Refusal Path :=
  if word.isEmpty then .error .invalidValue else .ok (Path.ofString word)

def pathsOfWords : List String → Except Refusal (List Path)
  | [] => .ok []
  | word :: rest =>
      match pathOfWord word with
      | .error refusal => .error refusal
      | .ok path => (pathsOfWords rest).map (path :: ·)

def single {α : Type} (old : Option α) (read : String → Except Refusal α) : List String → Except Refusal α
  | [] => .error .invalidValue
  | word :: _ => if old.isSome then .error .repeatedOption else read word

def add (given : Given) (parameter : Parameter) (words : List String) : Except Refusal Given :=
  match parameter with
  | .configuration =>
      (single given.configuration pathOfWord words).map fun path => { given with configuration := some path }
  | .projectRoot =>
      (single given.projectRoot pathOfWord words).map fun path => { given with projectRoot := some path }
  | .format =>
      let read := fun word => match formatOfWord? word with
        | some format => .ok format
        | none => .error .invalidValue
      (single given.format read words).map fun format => { given with format := some format }
  | .verbosity => .ok { given with verbosity := min (given.verbosity + 1) greatestVerbosity }
  | .quiet => if given.isQuiet then .error .repeatedOption else .ok { given with isQuiet := true }
  | .force => if given.isForced then .error .repeatedOption else .ok { given with isForced := true }
  | .file => (pathsOfWords words).map fun paths => { given with files := given.files ++ paths }
  | .help => .error .help
  | .version => .error .version

/-- What is given for a command, with what was given before the command for all commands.  The nearer one
counts. -/
def within (inner outer : Given) : Given :=
  { inner with
    configuration := inner.configuration.orElse fun _ => outer.configuration
    verbosity := if inner.verbosity = 0 then outer.verbosity else inner.verbosity
    isQuiet := inner.isQuiet || outer.isQuiet }

def task (given : Given) : Scope → Except Refusal Task
  | .top => .error .noCommand
  | .lint =>
      if given.files.isEmpty then .error .missingFile
      else
        .ok (.lint given.files given.projectRoot (given.format.getD ReportFormat.default) given.isForced)
  | .detect =>
      match given.files.head? with
      | none => .error .missingFile
      | some path => .ok (.detect path)
  | .arguments =>
      match given.files.head? with
      | none => .error .missingFile
      | some path => .ok (.arguments path given.projectRoot)
  | .doctor => .ok (.doctor given.projectRoot)

end Given

end TemplateLint.CommandLine
