import TemplateLint.Machine.Shell.Process

set_option autoImplicit false

/-!
What the commands that the shell carries out itself have in common.
-/

namespace TemplateLint.Machine.Shell

def goOn (process : Process) (status : Nat) : Flow × Process := (.next, process.withStatus status)

def statusOf (isGood : Bool) : Nat := if isGood then 0 else 1

def countLimit : Nat := 2147483647

def countOf? (operand : Octets) : Option Nat :=
  match decimalInteger? operand with
  | some value => if 0 ≤ value && value ≤ Int.ofNat countLimit then some value.toNat else none
  | none => none

/-- Carries out a command with the number in its first operand, or with a default. -/
def withCount (default : Nat) (operands : List Octets) (process : Process)
    (act : Nat → Flow × Process) : Flow × Process :=
  match operands with
  | [] => act default
  | operand :: _ =>
      match countOf? operand with
      | some count => act count
      | none => process.fail ("Illegal number: ".toList ++ operand)

inductive LetterKind where
  | unknown
  | plain
  | takesText
deriving DecidableEq, Repr

def letterKind (letters : Octets) (letter : Char) : LetterKind :=
  match letters with
  | [] => .unknown
  | [c] => if c = letter then .plain else .unknown
  | c :: d :: rest =>
      if c = letter then if d = ':' then .takesText else .plain
      else letterKind (if d = ':' then rest else d :: rest) letter
termination_by letters.length
decreasing_by
  split <;> simp only [List.length_cons] <;> omega

/-- The options of one operand with the operands behind it: letters, of which the last may take the rest of the
operand or the next operand as its text. -/
def readLetters (letters : Octets) : Octets → List Octets →
    Except Octets (List (Char × Octets) × List Octets)
  | [], operands => .ok ([], operands)
  | letter :: rest, operands =>
      match letterKind letters letter with
      | .unknown => .error ("Illegal option -".toList ++ [letter])
      | .plain => do
          let (options, operands) ← readLetters letters rest operands
          return ((letter, []) :: options, operands)
      | .takesText =>
          if !rest.isEmpty then .ok ([(letter, rest)], operands)
          else
            match operands with
            | [] => .error ("No arg for -".toList ++ letter :: " option".toList)
            | text :: operands => .ok ([(letter, text)], operands)

/-- The options in front of the operands of a command; at most `fuel` operands have options. -/
def optionsWithin (letters : Octets) : Nat → List Octets → Except Octets (List (Char × Octets) × List Octets)
  | 0, operands => .ok ([], operands)
  | fuel + 1, operands =>
      match operands with
      | ['-', '-'] :: rest => .ok ([], rest)
      | ('-' :: letter :: more) :: rest => do
          let (first, rest) ← readLetters letters (letter :: more) rest
          let (others, rest) ← optionsWithin letters fuel rest
          return (first ++ others, rest)
      | _ => .ok ([], operands)

/-- Carries out a command with options of some letters in front of its operands. -/
def withOptions (letters : String) (operands : List Octets) (process : Process)
    (act : List (Char × Octets) → List Octets → Flow × Process) : Flow × Process :=
  match optionsWithin letters.toList operands.length operands with
  | .ok (options, operands) => act options operands
  | .error complaint => process.fail complaint

def hasOption (options : List (Char × Octets)) (letter : Char) : Bool :=
  options.any fun option => option.1 == letter

def optionText? (options : List (Char × Octets)) (letter : Char) : Option Octets :=
  (options.reverse.find? fun option => option.1 == letter).map Prod.snd

end TemplateLint.Machine.Shell
