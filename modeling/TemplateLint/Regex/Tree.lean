import TemplateLint.Regex.Pattern

set_option autoImplicit false

/-!
The written form of a pattern: what its text says before flags are applied.  A tree keeps what the text
distinguishes, such as a character from its spelling as a byte, and what limits its nesting.
-/

namespace TemplateLint.Regex

open TemplateLint.Unicode (CodeSet)

/-- A character of a pattern.  `isByte` says that it is spelled by two hexadecimal digits; where Unicode is
turned off such a spelling names a byte. -/
structure Literal where
  char : Char
  isByte : Bool
deriving DecidableEq, Repr

inductive LetterClass where
  | digit
  | blank
  | word
deriving DecidableEq, Repr

inductive PropertyQuery where
  | named (name : String)
  | valued (property value : String) (differs : Bool)
deriving DecidableEq, Repr

inductive SetOperator where
  | intersection
  | difference
  | symmetricDifference
deriving DecidableEq, Repr

inductive SetTree where
  | empty
  | literal (item : Literal)
  | range (first last : Literal)
  | posix (set : CodeSet) (negated : Bool)
  | letterClass (name : LetterClass) (negated : Bool)
  | property (query : PropertyQuery) (negated : Bool)
  | bracket (negated : Bool) (inner : SetTree)
  | union (items : List SetTree)
  | combined (operator : SetOperator) (left right : SetTree)

inductive Anchor where
  | lineStart
  | lineEnd
  | textStart
  | textEnd
  | wordBoundary
  | notWordBoundary
  | wordStart
  | wordEnd
  | wordStartHalf
  | wordEndHalf
deriving DecidableEq, Repr

/-- What a group of flags turns on or off; a flag that is absent keeps its value. -/
structure FlagChange where
  ignoreCase : Option Bool := none
  multiLine : Option Bool := none
  dotAll : Option Bool := none
  crLf : Option Bool := none
  unicode : Option Bool := none
  extended : Option Bool := none
  swapLazy : Option Bool := none
deriving DecidableEq, Repr

/-- The written form of a pattern.  A repetition that a question mark follows is lazy. -/
inductive Tree where
  | empty
  | flags (change : FlagChange)
  | literal (item : Literal)
  | dot
  | anchor (kind : Anchor)
  | letterClass (name : LetterClass) (negated : Bool)
  | property (query : PropertyQuery) (negated : Bool)
  | bracket (negated : Bool) (inner : SetTree)
  | repeated (body : Tree) (least : Nat) (most : Option Nat) (isLazy : Bool)
  | capture (body : Tree)
  | group (change : FlagChange) (body : Tree)
  | sequence (items : List Tree)
  | choice (branches : List Tree)

def SetTree.depth : SetTree → Nat
  | .bracket _ inner => inner.depth + 1
  | .union items => depths items + 1
  | .combined _ left right => max left.depth right.depth + 1
  | _ => 0
where
  depths : List SetTree → Nat
    | [] => 0
    | item :: rest => max item.depth (depths rest)

def Tree.depth : Tree → Nat
  | .bracket _ inner => inner.depth + 1
  | .repeated body _ _ _ => body.depth + 1
  | .capture body => body.depth + 1
  | .group _ body => body.depth + 1
  | .sequence items => depths items + 1
  | .choice branches => depths branches + 1
  | _ => 0
where
  depths : List Tree → Nat
    | [] => 0
    | item :: rest => max item.depth (depths rest)

def depthLimit : Nat := 250

end TemplateLint.Regex
