import TemplateLint.Machine.Shell.Format
import TemplateLint.Machine.Utility.Awk.Script

set_option autoImplicit false

/-!
The values of programs of patterns and actions, and the tables that keep them.

A value is a number or a text, and either of them stands for the other where it is asked for.
-/

namespace TemplateLint.Machine.Utility.Awk

inductive Value where
  | unset
  | number (value : Float)
  | text (text : Octets)
  | input (text : Octets)

/-! ### Numbers in texts -/

def doubleOf (value : Float) : Double := if value.isNaN then Double.nan true else ⟨value.toBits⟩

def wholeOf (value : Float) : Int :=
  let double := doubleOf value
  if !isFinite double then 0
  else
    let size := Int.ofNat (double.fraction.1 / double.fraction.2)
    if double.isNegative then -size else size

def leastWhole : Int := -Int.ofNat (Nat.pow 2 63)

def numberAt (text : Octets) : Float := ((realAt? text).map fun found => Float.ofBits found.1.bits).getD 0

def looksNumeric (text : Octets) : Bool :=
  match realAt? text with
  | some (_, rest) => rest.all isSpace
  | none => false

def convertNumber (flags : Octets) (width : Nat) (precision : Option Nat) (letter : Char) (value : Float) : Octets :=
  if "diouxX".toList.contains letter then
    let greatest := Int.ofNat (Nat.pow 2 64) - 1
    Shell.integerText flags width precision letter (max (leastWhole + 1) (min greatest (wholeOf value)))
  else Shell.realConversion flags width precision letter (doubleOf value)

def givenSize? : Shell.Size → Option Nat
  | .given size => some size
  | _ => none

def numberBy (format : Octets) (value : Float) : Octets :=
  let before := format.takeWhile (· != '%')
  match Shell.conversionAt (format.drop (before.length + 1)) with
  | (.conversion conversion, behind) =>
      before ++ convertNumber conversion.flags ((givenSize? conversion.width).getD 0)
        (givenSize? conversion.precision) conversion.letter value ++ behind
  | _ => format

/-- The text of a number: its digits if it is an integer, and otherwise what a format makes of it. -/
def numberText (format : Octets) (value : Float) : Octets :=
  let whole := wholeOf value
  let greatest := Int.ofNat (Nat.pow 2 64)
  if value == value.floor && leastWhole ≤ whole && whole ≤ greatest && isFinite (doubleOf value) then
    intText (min whole (greatest - 1))
  else numberBy format value

namespace Value

def toNumber : Value → Float
  | .unset => 0
  | .number size => size
  | .text content | .input content => numberAt content

def toText (format : Octets) : Value → Octets
  | .unset => []
  | .number size => numberText format size
  | .text content | .input content => content

def isNumeric : Value → Bool
  | .unset | .number _ => true
  | .text _ => false
  | .input content => looksNumeric content

def holds : Value → Bool
  | .unset => false
  | .number size => size != 0
  | .text content => !content.isEmpty
  | .input content => if looksNumeric content then numberAt content != 0 else !content.isEmpty

def ofBool (truth : Bool) : Value := .number (if truth then 1 else 0)

def ofNat (number : Nat) : Value := .number (Float.ofNat number)

/-- True when a relation holds between two values: between their numbers if both count as numbers. -/
def compare (format : Octets) (relation : Relation) (left right : Value) : Bool :=
  if left.isNumeric && right.isNumeric then
    let (x, y) := (left.toNumber, right.toNumber)
    match relation with
    | .less => x < y
    | .lessEqual => x ≤ y
    | .equal => x == y
    | .notEqual => x != y
    | .greater => y < x
    | .greaterEqual => y ≤ x
  else
    let (x, y) := (left.toText format, right.toText format)
    match relation with
    | .less => !notAfter y x
    | .lessEqual => notAfter x y
    | .equal => x == y
    | .notEqual => x != y
    | .greater => !notAfter x y
    | .greaterEqual => notAfter y x

end Value

def Operator.apply (operator : Operator) (left right : Float) : Float :=
  match operator with
  | .add => left + right
  | .subtract => left - right
  | .multiply => left * right
  | .divide => left / right
  | .remainder =>
      let (x, y) := (doubleOf left, doubleOf right)
      if !isFinite x || right == 0 || isNan y then 0 / 0
      else if !isFinite y then left
      else
        -- The remainder of two fractions, over the product of their denominators.
        let (size, unit) := (x.fraction.1 * y.fraction.2, y.fraction.1 * x.fraction.2)
        Float.ofBits (Double.ofFraction x.isNegative (size % unit) (x.fraction.2 * y.fraction.2)).bits
  | .power => left ^ right

/-! ### Tables -/

/-- What an entry of a table is found by: a text, or a number that is an integer. -/
structure Index where
  key : Octets
  isNumber : Bool

def Value.toIndex (format : Octets) (value : Value) : Index :=
  match value with
  | .number size => ⟨value.toText format, size == size.floor && isFinite (doubleOf size)⟩
  | other => ⟨other.toText format, false⟩

structure Entry where
  key : Octets
  value : Value
  isNumbered : Bool

/-- A table of values.  Its entries are in groups, which a hash of their keys decides, and in a group the one
that was found last is the first. -/
structure Table where
  entries : List Entry
  hasTexts : Bool
  width : Nat

namespace Table

def empty : Table := ⟨[], false, 64⟩

def hash (key : Octets) : UInt32 :=
  key.foldl (fun hash c => (hash ^^^ UInt32.ofNat c.toNat) * 16777619) 2166136261

def grouped (group : Entry → Nat) (entries : List Entry) : List Entry :=
  entries.mergeSort fun left right => group left ≤ group right

def named (table : Table) : Table :=
  if table.hasTexts then table
  else
    let group := fun (entry : Entry) => decimal (entry.key.filter Char.isDigit) % table.width
    { table with entries := (grouped group table.entries).reverse, hasTexts := true }

/-- The keys of a table in the order in which loops go through them, and the table after that. -/
def keys (table : Table) : List Octets × Table :=
  let table := table.named
  ((grouped (fun entry => (hash entry.key).toNat % table.width) table.entries).map Entry.key, table)

def moveToFront (table : Table) (entry : Entry) : Table :=
  { table with entries := entry :: table.entries.filter fun other => other.key != entry.key }

/-- The value of an entry, if there is one, and the table after it was looked for. -/
def find? (table : Table) (index : Index) : Option Value × Table :=
  let table := if index.isNumber then table else table.named
  match table.entries.find? fun entry => entry.key == index.key with
  | none => (none, table)
  | some entry =>
      if index.isNumber && entry.isNumbered && table.hasTexts then (some entry.value, table)
      else (some entry.value, table.moveToFront { entry with isNumbered := entry.isNumbered || index.isNumber })

def insert (table : Table) (index : Index) (value : Value) : Table :=
  match table.find? index with
  | (some _, table) =>
      { table with entries := table.entries.map fun entry =>
          if entry.key == index.key then { entry with value := value } else entry }
  | (none, table) =>
      let table := table.moveToFront ⟨index.key, value, index.isNumber⟩
      if 12 * table.width < table.entries.length then { table with width := 2 * table.width } else table

def erase (table : Table) (index : Index) : Table :=
  let entries := (table.find? index).2.entries.filter fun entry => entry.key != index.key
  if entries.isEmpty then empty else { (table.find? index).2 with entries := entries }

def ofValues (values : List Value) : Table :=
  let entries := values.zipIdx.map fun (value, index) => Entry.mk (natText (index + 1)) value true
  { empty with entries := entries.reverse }

end Table

end TemplateLint.Machine.Utility.Awk
