import TemplateLint.CommandLine.Basic

set_option autoImplicit false

/-!
Reading a command line word by word.

A word is an option, the value of the option before it, the name of a command, or a file.  After `--` all
words are files.  A parameter is pending while it may still get words; it is settled, which is when its words
are looked at, as soon as another parameter begins.
-/

namespace TemplateLint.CommandLine

structure Pending where
  parameter : Parameter
  words : List String
  wantsValue : Bool
deriving DecidableEq, Repr

structure Progress where
  given : Given := {}
  pending : Option Pending := none
  taken : Nat := 0
  isTrailing : Bool := false
deriving DecidableEq, Repr

namespace Progress

def settle (progress : Progress) : Except Refusal Progress :=
  match progress.pending with
  | none => .ok progress
  | some pending =>
      (progress.given.add pending.parameter pending.words).map fun given =>
        { progress with given := given, pending := none }

def take (progress : Progress) (parameter : Parameter) (words : List String) : Except Refusal Progress :=
  match progress.settle with
  | .error refusal => .error refusal
  | .ok progress =>
      (progress.given.add parameter words).map fun given => { progress with given := given }

def takeOption (progress : Progress) (parameter : Parameter) (attached : Option String) :
    Except Refusal Progress :=
  match parameter.takesValue, attached with
  | true, some value => progress.take parameter [value]
  | true, none =>
      progress.settle.map fun progress => { progress with pending := some ⟨parameter, [], true⟩ }
  | false, some _ => .error .unexpectedValue
  | false, none => progress.take parameter []

def takeValue (progress : Progress) (pending : Pending) (word : String) : Progress :=
  { progress with pending := some { pending with words := pending.words ++ [word], wantsValue := false } }

def takeFile (progress : Progress) (word : String) : Except Refusal Progress :=
  match progress.pending with
  | some ⟨.file, words, _⟩ =>
      .ok { progress with pending := some ⟨.file, words ++ [word], false⟩, taken := progress.taken + 1 }
  | _ =>
      progress.settle.map fun progress =>
        { progress with pending := some ⟨.file, [word], false⟩, taken := progress.taken + 1 }

def wanting? (progress : Progress) : Option Pending :=
  progress.pending.filter fun pending => pending.wantsValue

end Progress

/-! ### The kinds of words -/

inductive WordShape where
  /-- The word after which all others are files. -/
  | mark
  | long (name : String) (attached : Option String)
  | letters (letters : List Char)
  | plain
deriving DecidableEq, Repr

def cutAtEquals (text : List Char) : String × Option String :=
  let name := String.ofList (text.takeWhile (· != '='))
  match text.dropWhile (· != '=') with
  | [] => (name, none)
  | _ :: value => (name, some (String.ofList value))

def WordShape.ofWord (word : String) : WordShape :=
  match word.toList with
  | ['-', '-'] => .mark
  | '-' :: '-' :: rest =>
      let (name, attached) := cutAtEquals rest
      .long name attached
  | ['-'] => .plain
  | '-' :: rest => .letters rest
  | _ => .plain

/-- The value that is attached to a letter; an equals sign before it does not belong to it. -/
def attachedToLetter : List Char → Option String
  | [] => none
  | '=' :: rest => some (String.ofList rest)
  | rest => some (String.ofList rest)

/-- Takes the letters of a word.  A letter with a value ends the word. -/
def Progress.takeLetters (scope : Scope) : List Char → Progress → Except Refusal Progress
  | [], progress => .ok progress
  | letter :: rest, progress =>
      match scope.short? letter with
      | none => .error .unknownArgument
      | some parameter =>
          if parameter.takesValue then progress.takeOption parameter (attachedToLetter rest)
          else
            match progress.takeOption parameter none with
            | .error refusal => .error refusal
            | .ok progress => Progress.takeLetters scope rest progress

def Progress.takeShaped (scope : Scope) (progress : Progress) : WordShape → Except Refusal Progress
  | .mark => .ok { progress with isTrailing := true }
  | .long name attached =>
      match scope.long? name with
      | none => .error .unknownArgument
      | some parameter => progress.takeOption parameter attached
  | .letters letters => Progress.takeLetters scope letters progress
  | .plain => .ok progress

/-! ### Commands -/

def Progress.takeWord (scope : Scope) (progress : Progress) (word : String) : Except Refusal Progress :=
  let asFile :=
    if scope.hasRoom progress.taken then progress.takeFile word else .error .unknownArgument
  if progress.isTrailing then asFile
  else
    match WordShape.ofWord word, progress.wanting? with
    | .plain, some pending => .ok (progress.takeValue pending word)
    | .plain, none => asFile
    | shape, _ => progress.takeShaped scope shape

def Progress.takeWords (scope : Scope) : List String → Progress → Except Refusal Progress
  | [], progress => progress.settle
  | word :: rest, progress =>
      match progress.takeWord scope word with
      | .error refusal => .error refusal
      | .ok progress => Progress.takeWords scope rest progress

/-- What the words after the name of a command give.  A command that needs a file has one then. -/
def readCommand (scope : Scope) (words : List String) : Except Refusal Given :=
  match Progress.takeWords scope words {} with
  | .error refusal => .error refusal
  | .ok progress =>
      if scope.needsFile && progress.given.files.isEmpty then .error .missingFile else .ok progress.given

/-- Why the words after `help` are refused: help on a command is help, and a command has no commands below
it. -/
def readHelp : List String → Refusal
  | [] => .help
  | word :: rest =>
      if word == helpWord || (Scope.ofWord? word).isSome then
        if rest.isEmpty then .help else .unknownCommand
      else .unknownCommand

inductive TopWord where
  | command (scope : Scope)
  | help
  | unknown
deriving DecidableEq, Repr

def TopWord.ofWord (word : String) : TopWord :=
  if word = helpWord then .help
  else
    match Scope.ofWord? word with
    | some scope => .command scope
    | none => .unknown

def requestFor (outer : Progress) (scope : Scope) (words : List String) : Except Refusal Request :=
  match readCommand scope words with
  | .error refusal => .error refusal
  | .ok inner =>
      match outer.settle with
      | .error refusal => .error refusal
      | .ok outer =>
          let given := inner.within outer.given
          (given.task scope).map fun task => ⟨task, given.configuration, given.verbosity, given.isQuiet⟩

def readTop : List String → Progress → Except Refusal Request
  | [], progress =>
      match progress.settle with
      | .error refusal => .error refusal
      | .ok progress => .error (if progress.given.isNothing then .nothingAsked else .noCommand)
  | word :: rest, progress =>
      if progress.isTrailing then
        .error (if TopWord.ofWord word = .unknown then .unknownCommand else .unknownArgument)
      else
        match WordShape.ofWord word, progress.wanting? with
        | .plain, some pending => readTop rest (progress.takeValue pending word)
        | .plain, none =>
            match TopWord.ofWord word with
            | .command scope => requestFor progress scope rest
            | .help => .error (readHelp rest)
            | .unknown => .error .unknownCommand
        | shape, _ =>
            match progress.takeShaped .top shape with
            | .error refusal => .error refusal
            | .ok progress => readTop rest progress

def read (words : List String) : Except Refusal Request :=
  readTop words {}

end TemplateLint.CommandLine
