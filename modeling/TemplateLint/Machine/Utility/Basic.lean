import TemplateLint.Machine.Shell.Builtin.Basic
import TemplateLint.Machine.Shell.Redirection

set_option autoImplicit false

/-!
What the programs of the machine have in common.

A program gets its operands and the state of its process, in which the name of the command is the name under
which it was started.  Its status stands in the state that it leaves.
-/

namespace TemplateLint.Machine.Utility

open Shell (Process)

abbrev Tool := List Octets → Process → Process

def ownName (process : Process) : Octets := process.commandName.getD []

def warn (process : Process) (text : Octets) : Process :=
  process.report (ownName process ++ ": ".toList ++ text ++ ['\n'])

def refuse (process : Process) (status : Nat) (text : Octets) : Process :=
  (warn process text).withStatus status

def quoted (text : Octets) : Octets := '\'' :: text ++ ['\'']

def hint (process : Process) : Octets :=
  "Try '".toList ++ ownName process ++ " --help' for more information.\n".toList

def misuse (process : Process) (status : Nat) (text : Octets) : Process :=
  ((warn process text).report (hint process)).withStatus status

def withOutcome (process : Process) (isGood : Bool) : Process := process.withStatus (if isGood then 0 else 1)

def reasonOf (error : PathError) : Octets := error.message.toList

/-- Carries out something for every operand; the program fails when one of them does. -/
def forEach (operands : List Octets) (process : Process) (act : Octets → Process → Bool × Process) : Process :=
  let (isGood, process) := operands.foldl (fun (isGood, process) operand =>
    let (isDone, process) := act operand process
    (isGood && isDone, process)) (true, process)
  withOutcome process isGood

/-! ### Options -/

structure Given where
  name : String
  text : Octets
deriving DecidableEq, Repr

inductive TextRule where
  | none
  | needed
  | allowed
deriving DecidableEq, Repr

structure Options where
  letters : List (Char × TextRule)
  /-- The long names, each with the rule for its text and the name under which it is known. -/
  names : List (String × TextRule × String)
  mixes : Bool

/-- The options with letters, of which one that is followed by a colon needs a text. -/
def lettersOf : List Char → List (Char × TextRule)
  | c :: ':' :: ':' :: rest => (c, .allowed) :: lettersOf rest
  | c :: ':' :: rest => (c, .needed) :: lettersOf rest
  | c :: rest => (c, .none) :: lettersOf rest
  | [] => []

/-- Options with letters and long names; the long names that end with an equals sign need a text. -/
def optionsOf (letters : String) (names : List (String × String)) : Options where
  letters := lettersOf letters.toList
  names := names.map fun (name, known) =>
    let text := name.toList
    if text.getLast? = some '=' then (String.ofList text.dropLast, .needed, known)
    else if text.getLast? = some '?' then (String.ofList text.dropLast, .allowed, known)
    else (name, .none, known)
  mixes := true

abbrev Reading := Except Octets (List Given × List Octets)

/-- The letters of one word, the first of which are read; the last one may take the next word. -/
def readLetters (options : Options) : Octets → List Octets → Except Octets (List Given × List Octets)
  | [], words => .ok ([], words)
  | letter :: rest, words =>
      match (options.letters.find? fun entry => entry.1 == letter).map Prod.snd with
      | Option.none => .error ("invalid option -- ".toList ++ quoted [letter])
      | some .none => do
          let (given, words) ← readLetters options rest words
          return (⟨String.singleton letter, []⟩ :: given, words)
      | some .allowed => .ok ([⟨String.singleton letter, rest⟩], words)
      | some .needed =>
          if !rest.isEmpty then .ok ([⟨String.singleton letter, rest⟩], words)
          else
            match words with
            | [] => .error ("option requires an argument -- ".toList ++ quoted [letter])
            | text :: words => .ok ([⟨String.singleton letter, text⟩], words)

/-- The option with a long name, which may be cut short, and its text in the same word or the next one. -/
def readName (options : Options) (word : Octets) (words : List Octets) : Except Octets (Given × List Octets) :=
  let name := word.takeWhile (· != '=')
  let text? : Option Octets := match word.drop name.length with
    | [] => Option.none
    | _ :: text => some text
  let whole := options.names.filter fun entry => entry.1.toList == name
  let found := if whole.isEmpty then options.names.filter fun entry => name.isPrefixOf entry.1.toList else whole
  match found with
  | [] => .error ("unrecognized option ".toList ++ quoted ('-' :: '-' :: name))
  | (full, rule, known) :: others =>
      if others.any fun entry => entry.2.2 != known then
        let possible := found.flatMap fun entry => ' ' :: quoted ('-' :: '-' :: entry.1.toList)
        .error ("option ".toList ++ quoted ('-' :: '-' :: name) ++ " is ambiguous; possibilities:".toList ++ possible)
      else
        let shown := quoted ('-' :: '-' :: full.toList)
        match rule, text? with
        | .none, some _ => .error ("option ".toList ++ shown ++ " doesn't allow an argument".toList)
        | .needed, Option.none =>
            match words with
            | [] => .error ("option ".toList ++ shown ++ " requires an argument".toList)
            | text :: words => .ok (⟨known, text⟩, words)
        | _, _ => .ok (⟨known, text?.getD []⟩, words)

def readWords (options : Options) : Nat → List Octets → Reading
  | 0, words => .ok ([], words)
  | fuel + 1, words =>
      match words with
      | [] => .ok ([], [])
      | word :: rest =>
          match word with
          | ['-', '-'] => .ok ([], rest)
          | '-' :: '-' :: name => do
              let (given, rest) ← readName options name rest
              let (others, operands) ← readWords options fuel rest
              return (given :: others, operands)
          | '-' :: letter :: letters => do
              let (given, rest) ← readLetters options (letter :: letters) rest
              let (others, operands) ← readWords options fuel rest
              return (given ++ others, operands)
          | operand =>
              if !options.mixes then .ok ([], words)
              else do
                let (others, operands) ← readWords options fuel rest
                return (others, operand :: operands)

def has (given : List Given) (name : String) : Bool := given.any fun option => option.name == name

def textOf? (given : List Given) (name : String) : Option Octets :=
  (given.reverse.find? fun option => option.name == name).map Given.text

def lastOf? (given : List Given) (names : List String) : Option String :=
  (given.reverse.find? fun option => names.contains option.name).map Given.name

def withOptions (options : Options) (status : Nat) (run : List Given → List Octets → Process → Process) : Tool :=
  fun words process =>
    match readWords options (words.length + 1) words with
    | .ok (given, operands) => run given operands process
    | .error complaint => misuse process status complaint

/-! ### Sources -/

/-- A text to be worked on, with the name of the file that holds it; what can be read has the name `-`. -/
structure Source where
  name : Octets
  text : Octets

def readPath (process : Process) (path : Octets) : Except Octets (Octets × Process) :=
  match Shell.descriptorOf? path with
  | some descriptor =>
      match process.channel? descriptor with
      | Option.none => .error (reasonOf .missing)
      | some _ =>
          let text := process.readable descriptor
          .ok (text, process.advance descriptor text.length)
  | Option.none =>
      match process.locate path with
      | .error error => .error (reasonOf error)
      | .ok place =>
          match process.files.node? place with
          | some (.file content) => .ok (octetsOf content, process)
          | some (.device .empty) => .ok ([], process)
          | some (.device _) => .ok (List.replicate zeroCount nul, process)
          | some .directory => .error (reasonOf .isDirectory)
          | some _ => .ok ([], process)
          | Option.none => .error (reasonOf .missing)

/-- The sources of a program: its files, or else what it can read.  `wording` makes the complaint about a file
from its name and the reason; the truth value says that all could be read. -/
def sourcesOf (wording : Octets → Octets → Octets) (files : List Octets) (process : Process) :
    List Source × Bool × Process :=
  let files := if files.isEmpty then [['-']] else files
  let (sources, isGood, process) := files.foldl (fun (sources, isGood, process) file =>
    if file = ['-'] then
      let (text, process) := process.takeInput
      (Source.mk file text :: sources, isGood, process)
    else
      match readPath process file with
      | .ok (text, process) => (Source.mk file text :: sources, isGood, process)
      | .error reason => (sources, false, warn process (wording file reason))) ([], true, process)
  (sources.reverse, isGood, process)

def plainWording (file reason : Octets) : Octets := file ++ ": ".toList ++ reason

def openWording (file reason : Octets) : Octets :=
  "cannot open ".toList ++ quoted file ++ " for reading: ".toList ++ reason

end TemplateLint.Machine.Utility
