import TemplateLint.Regex.Shape
import TemplateLint.Regex.Tree

set_option autoImplicit false

/-!
The meaning of a written pattern: flags are applied, classes become sets, and the parts are put together to a
shape.  With Unicode turned off a pattern speaks of bytes; since texts are UTF-8, a part that could match a
byte outside ASCII is refused.
-/

namespace TemplateLint.Regex

open TemplateLint.Unicode (CodeSet)

structure Flags where
  ignoreCase : Bool
  multiLine : Bool
  dotAll : Bool
  crLf : Bool
  unicode : Bool
  swapLazy : Bool
deriving DecidableEq, Repr

def Flags.change (flags : Flags) (change : FlagChange) : Flags where
  ignoreCase := change.ignoreCase.getD flags.ignoreCase
  multiLine := change.multiLine.getD flags.multiLine
  dotAll := change.dotAll.getD flags.dotAll
  crLf := change.crLf.getD flags.crLf
  unicode := change.unicode.getD flags.unicode
  swapLazy := change.swapLazy.getD flags.swapLazy

def foldAsciiCase (set : CodeSet) : CodeSet :=
  let letters := (List.range 26).flatMap fun n =>
    if set.containsCode (65 + n) || set.containsCode (97 + n) then [65 + n, 97 + n] else []
  set.union (CodeSet.ofCodes letters)

def byteComplement (set : CodeSet) : CodeSet :=
  set.complement.inter (CodeSet.interval 0 0xFF)

/-- Applies case folding and negation, in this order.  A set of bytes has to stay within ASCII. -/
def finishSet (flags : Flags) (negated : Bool) (set : CodeSet) : Option CodeSet :=
  if flags.unicode then
    let set := if flags.ignoreCase then set.foldCase else set
    some (if negated then set.complement else set)
  else
    let set := if flags.ignoreCase then foldAsciiCase set else set
    let set := if negated then byteComplement set else set
    if set.isBelow 0x80 then some set else none

def letterSet (flags : Flags) (name : LetterClass) (negated : Bool) : Option CodeSet :=
  if flags.unicode then
    let set := match name with
      | .digit => Unicode.digitSet
      | .blank => Unicode.blankSet
      | .word => Unicode.wordSet
    some (if negated then set.complement else set)
  else if negated then none
  else
    some (match name with
      | .digit => CodeSet.interval 0x30 0x39
      | .blank => ⟨[(0x09, 0x0D), (0x20, 0x20)]⟩
      | .word => asciiWordSet)

def propertySet (flags : Flags) (query : PropertyQuery) (negated : Bool) : Option CodeSet :=
  if flags.unicode then
    match query with
    | .named name => (Unicode.named? name).bind (finishSet flags negated)
    | .valued property value differs =>
        (Unicode.valued? property value).bind (finishSet flags (negated != differs))
  else none

/-- The code point of a character in a set.  Where Unicode is off, only ASCII may stand there. -/
def setCode? (flags : Flags) (item : Literal) : Option Nat :=
  if flags.unicode || item.char.toNat < 0x80 then some item.char.toNat else none

def foldOperand (flags : Flags) (set : CodeSet) : CodeSet :=
  if !flags.ignoreCase then set else if flags.unicode then set.foldCase else foldAsciiCase set

def SetOperator.apply : SetOperator → CodeSet → CodeSet → CodeSet
  | .intersection, left, right => left.inter right
  | .difference, left, right => left.diff right
  | .symmetricDifference, left, right => left.symmDiff right

def SetTree.set? (flags : Flags) : SetTree → Option CodeSet
  | .empty => some CodeSet.empty
  | .literal item => (setCode? flags item).map fun code => CodeSet.interval code code
  | .range first last =>
      match setCode? flags first, setCode? flags last with
      | some first, some last => some (CodeSet.interval first last)
      | _, _ => none
  | .posix set negated => finishSet flags negated set
  | .letterClass name negated => letterSet flags name negated
  | .property query negated => propertySet flags query negated
  | .bracket negated inner => (inner.set? flags).bind (finishSet flags negated)
  | .union items => unionSets items
  | .combined operator left right =>
      match left.set? flags, right.set? flags with
      | some left, some right => some (operator.apply (foldOperand flags left) (foldOperand flags right))
      | _, _ => none
where
  unionSets : List SetTree → Option CodeSet
    | [] => some CodeSet.empty
    | item :: rest =>
        match item.set? flags, unionSets rest with
        | some set, some others => some (set.union others)
        | _, _ => none

def Anchor.look (flags : Flags) : Anchor → Look
  | .lineStart => if flags.multiLine then (if flags.crLf then .lineStartCrLf else .lineStart) else .textStart
  | .lineEnd => if flags.multiLine then (if flags.crLf then .lineEndCrLf else .lineEnd) else .textEnd
  | .textStart => .textStart
  | .textEnd => .textEnd
  | .wordBoundary => .wordBoundary (kind flags)
  | .notWordBoundary => .notWordBoundary (kind flags)
  | .wordStart => .wordStart (kind flags)
  | .wordEnd => .wordEnd (kind flags)
  | .wordStartHalf => .wordStartHalf (kind flags)
  | .wordEndHalf => .wordEndHalf (kind flags)
where
  kind (flags : Flags) : WordKind := if flags.unicode then .unicode else .ascii

def dotSet (flags : Flags) : CodeSet :=
  if flags.dotAll then CodeSet.all
  else if flags.crLf then (CodeSet.ofCodes [0x0A, 0x0D]).complement
  else (CodeSet.ofCodes [0x0A]).complement

/-- The characters that a literal matches.  Where Unicode is off, a byte outside ASCII is refused and only
ASCII letters have two cases. -/
def literalSet (flags : Flags) (item : Literal) : Option CodeSet :=
  let own := CodeSet.single item.char
  if flags.unicode then
    match if flags.ignoreCase then Unicode.orbitOf? item.char else none with
    | some orbit => some (CodeSet.ofCodes orbit)
    | none => some own
  else if item.isByte && 0x80 ≤ item.char.toNat then none
  else some (if flags.ignoreCase then foldAsciiCase own else own)

/-- The shape of a tree, and the flags in force behind it.  Flags that are set inside a group end with it. -/
def Tree.shape? : Flags → Tree → Option (Shape × Flags)
  | mode, .empty => some (.empty, mode)
  | mode, .flags change => some (.empty, mode.change change)
  | mode, .literal item => (literalSet mode item).map fun set => (Shape.ofSet set (!mode.unicode), mode)
  | mode, .dot => if mode.unicode then some (Shape.ofSet (dotSet mode) false, mode) else none
  | mode, .anchor kind => some (.look (kind.look mode), mode)
  | mode, .letterClass name negated =>
      (letterSet mode name negated).map fun set => (Shape.ofSet set (!mode.unicode), mode)
  | mode, .property query negated =>
      (propertySet mode query negated).map fun set => (Shape.ofSet set false, mode)
  | mode, .bracket negated inner =>
      ((inner.set? mode).bind (finishSet mode negated)).map fun set =>
        (Shape.ofSet set (!mode.unicode), mode)
  | mode, .repeated body least most isLazy =>
      (body.shape? mode).map fun (shape, after) =>
        (shape.ofRepetition least most (isLazy != after.swapLazy), after)
  | mode, .capture body => (body.shape? mode).map fun (shape, _) => (.capture shape, mode)
  | mode, .group change body => (body.shape? (mode.change change)).map fun (shape, _) => (shape, mode)
  | mode, .sequence items => (shapes mode items).map fun (parts, after) => (Shape.ofSequence parts, after)
  | mode, .choice branches => (shapes mode branches).map fun (parts, after) => (Shape.ofChoice parts, after)
where
  shapes : Flags → List Tree → Option (List Shape × Flags)
    | mode, [] => some ([], mode)
    | mode, item :: rest =>
        match item.shape? mode with
        | none => none
        | some (shape, after) => (shapes after rest).map fun (others, last) => (shape :: others, last)

end TemplateLint.Regex
