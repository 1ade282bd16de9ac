import TemplateLint.Regex.Pattern

set_option autoImplicit false

/-!
The shape of a pattern: what is left of its text once flags are applied and neighbours are put together.
Neighbouring characters are one text, a sequence holds no sequence and a choice no choice, a choice of single
characters is a set, and what all branches of a choice begin with stands in front of it.  The size of the
automaton is that of the shape, and `Shape.pattern` gives the pattern that the shape denotes.
-/

namespace TemplateLint.Regex

open TemplateLint.Unicode (CodeSet)

/-- A shape.  A set `ofBytes` was written where Unicode is off. -/
inductive Shape where
  | empty
  | text (chars : List Char)
  | set (chars : CodeSet) (ofBytes : Bool)
  | look (condition : Look)
  | repeated (body : Shape) (least : Nat) (most : Option Nat) (isLazy : Bool)
  | capture (body : Shape)
  | sequence (parts : List Shape)
  | choice (branches : List Shape)

namespace Shape

def nothing : Shape := .set CodeSet.empty true

def ofSet (chars : CodeSet) (ofBytes : Bool) : Shape :=
  let chars := chars.normalize
  match chars.intervals with
  | [] => nothing
  | [(first, last)] => if first = last then .text [Char.ofNat first] else .set chars ofBytes
  | _ => .set chars ofBytes

def isEmptyOnly : Shape → Bool
  | .empty => true
  | .text _ => false
  | .set _ _ => false
  | .look _ => true
  | .repeated body _ most _ => most.isSome && body.isEmptyOnly
  | .capture body => body.isEmptyOnly
  | .sequence parts => allEmptyOnly parts
  | .choice branches => allEmptyOnly branches
where
  allEmptyOnly : List Shape → Bool
    | [] => true
    | part :: rest => part.isEmptyOnly && allEmptyOnly rest

/-- The shape of a repetition.  A body that can match nothing besides the empty part is repeated once at
most, and a body that is repeated exactly once stands alone. -/
def ofRepetition (body : Shape) (least : Nat) (most : Option Nat) (isLazy : Bool) : Shape :=
  let (least, most) := if body.isEmptyOnly then (min least 1, some (min (most.getD 1) 1)) else (least, most)
  if least = 0 ∧ most = some 0 then .empty
  else if least = 1 ∧ most = some 1 then body
  else .repeated body least most isLazy

/-! ### Sequences -/

def openSequences : List Shape → List Shape
  | [] => []
  | .empty :: rest => openSequences rest
  | .sequence parts :: rest => parts ++ openSequences rest
  | part :: rest => part :: openSequences rest

def joinTexts : List Shape → List Shape
  | [] => []
  | .text chars :: rest =>
      match joinTexts rest with
      | .text others :: rest => .text (chars ++ others) :: rest
      | rest => .text chars :: rest
  | part :: rest => part :: joinTexts rest

def ofSequence (parts : List Shape) : Shape :=
  match joinTexts (openSequences parts) with
  | [] => .empty
  | [only] => only
  | parts => .sequence parts

/-! ### Choices -/

/-- True of equal shapes.  Every group has a number of its own, so no group is equal to another. -/
def same : Shape → Shape → Bool
  | .empty, .empty => true
  | .text left, .text right => left == right
  | .set left leftBytes, .set right rightBytes => left == right && leftBytes == rightBytes
  | .look left, .look right => left == right
  | .repeated left least most isLazy, .repeated right least' most' isLazy' =>
      least == least' && most == most' && isLazy == isLazy' && left.same right
  | .sequence left, .sequence right => sameAll left right
  | .choice left, .choice right => sameAll left right
  | _, _ => false
where
  sameAll : List Shape → List Shape → Bool
    | [], [] => true
    | left :: lefts, right :: rights => left.same right && sameAll lefts rights
    | _, _ => false

def openChoices : List Shape → List Shape
  | [] => []
  | .choice branches :: rest => branches ++ openChoices rest
  | branch :: rest => branch :: openChoices rest

def singleChars? : List Shape → Option (List Char)
  | [] => some []
  | .text [c] :: rest => (singleChars? rest).map (c :: ·)
  | _ => none

def unionOfSets? : List Shape → Option CodeSet
  | [] => some CodeSet.empty
  | .set chars _ :: rest => (unionOfSets? rest).map chars.union
  | _ => none

def partsOfAll? : List Shape → Option (List (List Shape))
  | [] => some []
  | .sequence parts :: rest => (partsOfAll? rest).map (parts :: ·)
  | _ => none

def sharedLength : List Shape → List Shape → Nat
  | left :: lefts, right :: rights => if left.same right then sharedLength lefts rights + 1 else 0
  | _, _ => 0

def sharedStart? (branches : List Shape) : Option (List Shape × List (List Shape)) :=
  match partsOfAll? branches with
  | some (first :: others) =>
      let shared := others.foldl (fun shared parts => min shared (sharedLength first parts)) first.length
      if shared = 0 then none
      else some (first.take shared, (first :: others).map (·.drop shared))
  | _ => none

def count : Shape → Nat
  | .repeated body _ _ _ => body.count + 1
  | .capture body => body.count + 1
  | .sequence parts => countAll parts + 1
  | .choice branches => countAll branches + 1
  | _ => 1
where
  countAll : List Shape → Nat
    | [] => 0
    | part :: rest => part.count + countAll rest

def ofChoiceWithin (depth : Nat) (branches : List Shape) : Shape :=
  match openChoices branches with
  | [] => nothing
  | [only] => only
  | branches =>
      match singleChars? branches, unionOfSets? branches with
      | some chars, _ => ofSet (CodeSet.ofCodes (chars.map Char.toNat)) false
      | none, some chars => ofSet chars false
      | none, none =>
          match depth, sharedStart? branches with
          | depth + 1, some (start, rests) =>
              ofSequence (start ++ [ofChoiceWithin depth (rests.map ofSequence)])
          | _, _ => .choice branches

/-- The shape of a choice.  Every shared start takes parts away, so their number is depth enough. -/
def ofChoice (branches : List Shape) : Shape :=
  ofChoiceWithin (count.countAll branches) branches

/-! ### Meaning -/

def textPattern : List Char → Pattern
  | [] => .empty
  | [c] => .one (CodeSet.single c)
  | c :: rest => .seq (.one (CodeSet.single c)) (textPattern rest)

def pattern : Shape → Pattern
  | .empty => .empty
  | .text chars => textPattern chars
  | .set chars _ => .one chars
  | .look condition => .look condition
  | .repeated body least most _ => .repeated body.pattern least most
  | .capture body => body.pattern
  | .sequence parts => inOrder parts
  | .choice branches => anyOf branches
where
  inOrder : List Shape → Pattern
    | [] => .empty
    | [only] => only.pattern
    | part :: rest => .seq part.pattern (inOrder rest)
  anyOf : List Shape → Pattern
    | [] => .never
    | [only] => only.pattern
    | branch :: rest => .either branch.pattern (anyOf rest)

/-! ### Conditions at the ends -/

def isAtStart : Shape → Bool
  | .look condition => condition == .textStart
  | .repeated body least _ _ => least != 0 && body.isAtStart
  | .capture body => body.isAtStart
  | .sequence parts => firstAtStart parts
  | .choice branches => allAtStart branches
  | _ => false
where
  firstAtStart : List Shape → Bool
    | [] => false
    | part :: rest => part.isAtStart || (part.isEmptyOnly && firstAtStart rest)
  allAtStart : List Shape → Bool
    | [] => true
    | branch :: rest => branch.isAtStart && allAtStart rest

def isAtEnd : Shape → Bool
  | .look condition => condition == .textEnd
  | .repeated body least _ _ => least != 0 && body.isAtEnd
  | .capture body => body.isAtEnd
  | .sequence parts => lastAtEnd parts
  | .choice branches => allAtEnd branches
  | _ => false
where
  lastAtEnd : List Shape → Bool
    | [] => false
    | part :: rest => lastAtEnd rest || (part.isAtEnd && isEmptyOnly.allEmptyOnly rest)
  allAtEnd : List Shape → Bool
    | [] => true
    | branch :: rest => branch.isAtEnd && allAtEnd rest

def leastLength : Shape → Option Nat
  | .empty => some 0
  | .text chars => some chars.length
  | .set chars _ => if chars.intervals.isEmpty then none else some 1
  | .look _ => some 0
  | .repeated body least _ _ => body.leastLength.map (· * least)
  | .capture body => body.leastLength
  | .sequence parts => total parts
  | .choice [] => none
  | .choice (branch :: rest) => shortest branch.leastLength rest
where
  total : List Shape → Option Nat
    | [] => some 0
    | part :: rest =>
        match part.leastLength, total rest with
        | some first, some others => some (first + others)
        | _, _ => none
  shortest : Option Nat → List Shape → Option Nat
    | least, [] => least
    | least, branch :: rest =>
        match least, branch.leastLength with
        | some least, some length => shortest (some (min least length)) rest
        | _, _ => none

end Shape

end TemplateLint.Regex
