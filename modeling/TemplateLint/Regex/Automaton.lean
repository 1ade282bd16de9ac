import Std.Data.HashMap
import TemplateLint.Regex.ByteRange
import TemplateLint.Regex.Shape

set_option autoImplicit false

/-!
The size of the byte automaton that recognises a shape.  A pattern whose automaton would be larger than
`sizeLimit` is refused, so that a short text such as a nest of repetitions cannot ask for unbounded memory.

A state takes 32 bytes, a branch to a state 4, and a branch with a byte interval 8.  Only a state with at most
one branch has room for it.  The automaton is made twice, for reading forwards and for reading backwards.
States are numbered as they are made.  A set with characters outside ASCII shares equal states where it finds
them again in a table of limited size, whose slots depend on the numbers; so its size is found by numbering
the states.
-/

namespace TemplateLint.Regex

open TemplateLint.Unicode (CodeSet)

def sizeLimit : Nat := 10 * 1048576

structure Tally where
  states : Nat
  branchBytes : Nat
deriving DecidableEq, Repr

namespace Tally

def size (tally : Tally) : Nat := 32 * tally.states + tally.branchBytes

def grow (tally : Tally) (states branchBytes : Nat) : Option Tally :=
  let grown : Tally := ⟨tally.states + states, tally.branchBytes + branchBytes⟩
  if grown.size ≤ sizeLimit then some grown else none

end Tally

inductive Direction where
  | forward
  | backward
deriving DecidableEq, Repr

/-! ### Sets with characters outside ASCII -/

structure Filing (Key : Type) where
  tally : Tally
  slots : Std.HashMap Nat (Key × Nat)

def digest (numbers : List Nat) : UInt64 :=
  numbers.foldl (fun digest number => (digest ^^^ number.toUInt64) * 1099511628211) 14695981039346656037

/-- The state with a key: the one in the slot if its key is the same, else a new one, which takes the slot. -/
def Filing.state {Key : Type} [BEq Key] (filing : Filing Key) (slot : Nat) (key : Key) (branchBytes : Nat) :
    Option (Nat × Filing Key) :=
  let make := (filing.tally.grow 1 branchBytes).map fun tally =>
    (filing.tally.states, ⟨tally, filing.slots.insert slot (key, filing.tally.states)⟩)
  match filing.slots[slot]? with
  | some (known, state) => if known == key then some (state, filing) else make
  | none => make

abbrev Branch := Nat × Nat × Nat

/-- The state that accepts the given sequences and goes on to `target`.  States behind a branch come before
it.  `depth` bounds the length of the sequences. -/
def forwardState (target : Nat) : Nat → List ByteRanges → Filing (List Branch) →
    Option (Nat × Filing (List Branch))
  | 0, _, filing => some (target, filing)
  | depth + 1, accepted, filing =>
      if accepted.all List.isEmpty then some (target, filing)
      else
        match branches (forwardState target depth) (continuations accepted) filing with
        | none => none
        | some (found, filing) =>
            let numbers := found.flatMap fun branch => [branch.1, branch.2.1, branch.2.2]
            filing.state ((digest numbers).toNat % 10000) found (8 * found.length)
where
  branches (below : List ByteRanges → Filing (List Branch) → Option (Nat × Filing (List Branch))) :
      List ((Nat × Nat) × List ByteRanges) → Filing (List Branch) → Option (List Branch × Filing (List Branch))
    | [], filing => some ([], filing)
    | (range, tails) :: rest, filing =>
        match below tails filing with
        | none => none
        | some (state, filing) =>
            (branches below rest filing).map fun (found, filing) => ((range.1, range.2, state) :: found, filing)

def forwardSet (accepted : List ByteRanges) (tally : Tally) : Option Tally :=
  match tally.grow 1 0 with
  | none => none
  | some grown =>
      (forwardState tally.states 4 accepted ⟨grown, ∅⟩).map fun (_, filing) => filing.tally

def backwardChain : ByteRanges → Nat → Filing (Nat × Nat × Nat) → Option (Filing (Nat × Nat × Nat))
  | [], _, filing => some filing
  | range :: rest, next, filing =>
      match filing.state ((digest [next, range.1, range.2]).toNat % 1000) (next, range.1, range.2) 0 with
      | some (state, filing) => backwardChain rest state filing
      | none => none

def backwardChains (target : Nat) :
    List ByteRanges → Filing (Nat × Nat × Nat) → Option (Filing (Nat × Nat × Nat))
  | [], filing => some filing
  | sequence :: rest, filing =>
      match backwardChain sequence target filing with
      | none => none
      | some filing =>
          match filing.tally.grow 0 4 with
          | some tally => backwardChains target rest { filing with tally := tally }
          | none => none

def backwardSet (accepted : List ByteRanges) (tally : Tally) : Option Tally :=
  match tally.grow 2 0 with
  | none => none
  | some grown =>
      (backwardChains (tally.states + 1) accepted ⟨grown, ∅⟩).map fun filing => filing.tally

/-! ### Choices between texts -/

/-- Cuts a list of tails at the empty ones, of which each ends a part.  Empty tails before all others end one
part together. -/
def cutAtEmpty (tails : List (List Nat)) : List (List (List Nat)) :=
  match tails.dropWhile List.isEmpty with
  | [] => [[]]
  | rest => if (tails.head?.map List.isEmpty).getD false then [] :: parts rest else parts rest
where
  parts : List (List Nat) → List (List (List Nat))
    | [] => [[]]
    | [] :: rest => [] :: parts rest
    | tail :: rest =>
        match parts rest with
        | part :: others => (tail :: part) :: others
        | [] => [[tail]]

def tailsByByte (tails : List (List Nat)) : List (List (List Nat)) :=
  let bytes := (tails.filterMap List.head?).eraseDups
  bytes.map fun byte => (tails.filter fun tail => tail.head? == some byte).map List.tail

/-- The size of the tree of texts below a byte: a state for each part that is not empty, with the states below
it, and one that chooses between the parts and the end.  Where nothing follows there is no state.  `depth`
bounds the length of the texts. -/
def treeSize : Nat → List (List Nat) → Tally
  | 0, _ => ⟨0, 0⟩
  | depth + 1, tails =>
      if tails.all List.isEmpty then ⟨0, 0⟩
      else
        let parts := cutAtEmpty tails
        let groups := parts.map tailsByByte
        let below := groups.flatten.map (treeSize depth)
        let own : Tally := groups.foldl
          (fun tally group =>
            match group.length with
            | 0 => tally
            | 1 => ⟨tally.states + 1, tally.branchBytes + 4⟩
            | count => ⟨tally.states + 1, tally.branchBytes + 4 + 8 * count⟩)
          ⟨1, 4 * (parts.length - 1)⟩
        below.foldl (fun sum tally => ⟨sum.states + tally.states, sum.branchBytes + tally.branchBytes⟩) own

/-! ### Plans -/

inductive Plan where
  | fixed (states branchBytes : Nat)
  | forwardSet (accepted : List ByteRanges)
  | backwardSet (accepted : List ByteRanges)
  /-- A repetition; `consumes` says that its body matches no empty part. -/
  | repeated (body : Plan) (consumes : Bool) (least : Nat) (most : Option Nat)
  | sequence (parts : List Plan)
  | choice (branches : List Plan)

def times : Nat → (Tally → Option Tally) → Tally → Option Tally
  | 0, _, tally => some tally
  | count + 1, step, tally =>
      match step tally with
      | some tally => times count step tally
      | none => none

def copies (count : Nat) (step : Tally → Option Tally) (tally : Tally) : Option Tally :=
  if count = 0 then tally.grow 1 0 else times count step tally

def repetition (consumes : Bool) (least : Nat) (most : Option Nat) (step : Tally → Option Tally)
    (tally : Tally) : Option Tally :=
  match most with
  | none =>
      if least = 0 then
        if consumes then (tally.grow 1 8).bind step else (step tally).bind fun tally => tally.grow 3 16
      else (times least step tally).bind fun tally => tally.grow 1 8
  | some most =>
      if least = 0 ∧ most = 1 then ((tally.grow 1 8).bind step).bind fun tally => tally.grow 1 0
      else if least = most then copies least step tally
      else
        ((copies least step tally).bind fun tally => tally.grow 1 0).bind
          (times (most - least) fun tally => (tally.grow 1 8).bind step)

def Plan.make : Plan → Tally → Option Tally
  | .fixed states branchBytes, tally => tally.grow states branchBytes
  | .forwardSet accepted, tally => TemplateLint.Regex.forwardSet accepted tally
  | .backwardSet accepted, tally => TemplateLint.Regex.backwardSet accepted tally
  | .repeated body consumes least most, tally => repetition consumes least most body.make tally
  | .sequence parts, tally => inOrder parts tally
  | .choice branches, tally => ofBranches 0 branches tally
where
  inOrder : List Plan → Tally → Option Tally
    | [], tally => some tally
    | part :: rest, tally =>
        match part.make tally with
        | some tally => inOrder rest tally
        | none => none
  /-- The state that chooses and the one at the end are made after the second branch. -/
  ofBranches : Nat → List Plan → Tally → Option Tally
    | _, [], tally => some tally
    | made, branch :: rest, tally =>
        match branch.make tally with
        | none => none
        | some tally =>
            match tally.grow (if made = 1 then 2 else 0) 4 with
            | some tally => ofBranches (made + 1) rest tally
            | none => none

def setPlan (direction : Direction) (chars : CodeSet) : Plan :=
  if chars.isBelow 0x80 then .fixed 2 (8 * chars.intervals.length)
  else
    match direction with
    | .forward => .forwardSet (sequences chars)
    | .backward => .backwardSet (sequences chars)

/-- A plan that no set exceeds, found without looking at bytes: an interval makes at most sixteen sequences
of four places, each with a state and a branch. -/
def roughSetPlan (chars : CodeSet) : Plan :=
  if chars.isBelow 0x80 then .fixed 2 (8 * chars.intervals.length)
  else .fixed (2 + 64 * chars.intervals.length) (12 * 64 * chars.intervals.length)

def textsOfAll? : List Shape → Option (List (List Nat))
  | [] => some []
  | .text chars :: rest => (textsOfAll? rest).map (textBytes chars :: ·)
  | _ => none

def Direction.order {α : Type} (direction : Direction) (steps : List α) : List α :=
  match direction with
  | .forward => steps
  | .backward => steps.reverse

def Shape.plan (direction : Direction) (ofSet : CodeSet → Plan) : Shape → Plan
  | .empty => .fixed 1 0
  | .text chars => .fixed (textBytes chars).length 0
  | .set chars _ => ofSet chars
  | .look _ => .fixed 1 0
  | .repeated body least most _ =>
      .repeated (body.plan direction ofSet) (body.leastLength.any (0 < ·)) least most
  | .capture body =>
      match direction with
      | .forward => .sequence [.fixed 1 0, body.plan direction ofSet, .fixed 1 0]
      | .backward => body.plan direction ofSet
  | .sequence parts => .sequence (direction.order (plans parts))
  | .choice branches =>
      match textsOfAll? branches with
      | some texts =>
          let texts := texts.map direction.order
          let size := treeSize ((texts.map List.length).foldl max 0 + 1) texts
          .fixed (size.states + 1) size.branchBytes
      | none => .choice (plans branches)
where
  plans : List Shape → List Plan
    | [] => []
    | part :: rest => part.plan direction ofSet :: plans rest

/-- The plan of the whole automaton.  A match that may begin anywhere is preceded by a loop over all bytes; the
whole match is a group. -/
def Shape.wholePlan (direction : Direction) (ofSet : CodeSet → Plan) (shape : Shape) : Plan :=
  let isAnchored := match direction with
    | .forward => shape.isAtStart
    | .backward => shape.isAtEnd
  let start := if isAnchored then .fixed 1 0 else .fixed 3 16
  .sequence [start, (Shape.capture shape).plan direction ofSet, .fixed 1 0]

def Shape.isWithin (shape : Shape) (ofSet : Direction → CodeSet → Plan) : Bool :=
  [Direction.forward, Direction.backward].all fun direction =>
    ((shape.wholePlan direction (ofSet direction)).make ⟨0, 0⟩).isSome

def Shape.isAllowed (shape : Shape) : Bool :=
  shape.isWithin (fun _ => roughSetPlan) || shape.isWithin setPlan

end TemplateLint.Regex
