import TemplateLint.Machine.Octets

set_option autoImplicit false

/-!
Scripts of the shell: words with the expansions in them, and commands.
-/

namespace TemplateLint.Machine.Shell

inductive Use where
  | plain
  | length
  | default
  | assign
  | require
  | alternative
  | dropStart (isLongest : Bool)
  | dropEnd (isLongest : Bool)
  | unknown
deriving DecidableEq, Repr

inductive RedirectionKind where
  | read
  | write
  | replace
  | append
  | both
  | duplicate
  | hereText
deriving DecidableEq, Repr

mutual

/-- A piece of a word.  What is quoted is neither split into fields nor taken as a pattern. -/
inductive Piece where
  | text (isQuoted : Bool) (text : Octets)
  | parameter (isQuoted : Bool) (name : Octets) (use : Use) (countsEmpty : Bool) (word : List Piece)
  | substitution (isQuoted : Bool) (body : Command)
  | arithmetic (isQuoted : Bool) (word : List Piece)

inductive Redirection where
  | mk (descriptor : Nat) (kind : RedirectionKind) (word : List Piece)

inductive Command where
  | simple (line : Nat) (assignments : List (Octets × List Piece)) (words : List (List Piece))
      (redirections : List Redirection)
  | redirected (line : Nat) (body : Command) (redirections : List Redirection)
  | pipeline (commands : List Command)
  | negation (body : Command)
  | both (first second : Command)
  | either (first second : Command)
  | sequence (commands : List Command)
  | background (body : Command)
  | subshell (line : Nat) (body : Command)
  | conditional (condition accepted : Command) (rejected : Option Command)
  | loop (isUntil : Bool) (condition body : Command)
  | each (line : Nat) (name : Octets) (words : List (List Piece)) (body : Command)
  | choice (line : Nat) (subject : List Piece) (branches : List (List (List Piece) × Command))
  | definition (name : Octets) (line : Nat) (body : Command)

end

abbrev Word := List Piece

def Piece.isQuoted : Piece → Bool
  | .text isQuoted _ => isQuoted
  | .parameter isQuoted _ _ _ _ => isQuoted
  | .substitution isQuoted _ => isQuoted
  | .arithmetic isQuoted _ => isQuoted

def plainText (word : Word) : Octets :=
  word.flatMap fun piece => match piece with
    | .text _ text => text
    | _ => []

def hasQuotes (word : Word) : Bool := word.any Piece.isQuoted

def hasSubstitution (word : Word) : Bool :=
  word.any fun piece => match piece with
    | .substitution _ _ => true
    | _ => false

end TemplateLint.Machine.Shell
