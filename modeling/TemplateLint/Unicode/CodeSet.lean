set_option autoImplicit false

/-!
Sets of characters as lists of code point intervals, with the operations of a set algebra.

`normalize` sorts the intervals and joins those that touch; the operations that walk along the intervals
(`complement` and what is made from it) normalize first.  A set of the Unicode tables is written as the
distances between the places where membership changes, in hexadecimal (`ofDistances`).
-/

namespace TemplateLint.Unicode

def lastCode : Nat := 0x10FFFF

structure CodeSet where
  intervals : List (Nat × Nat)
deriving DecidableEq, Repr

namespace CodeSet

def containsCode (set : CodeSet) (code : Nat) : Bool :=
  set.intervals.any fun interval => interval.1 ≤ code && code ≤ interval.2

def contains (set : CodeSet) (c : Char) : Bool :=
  set.containsCode c.toNat

def empty : CodeSet := ⟨[]⟩

def all : CodeSet := ⟨[(0, lastCode)]⟩

def interval (first last : Nat) : CodeSet := ⟨[(first, last)]⟩

def single (c : Char) : CodeSet := ⟨[(c.toNat, c.toNat)]⟩

def ofCodes (codes : List Nat) : CodeSet := ⟨codes.map fun code => (code, code)⟩

def joinSorted : List (Nat × Nat) → List (Nat × Nat)
  | [] => []
  | [only] => [only]
  | a :: b :: rest =>
      if b.1 ≤ a.2 + 1 then joinSorted ((a.1, max a.2 b.2) :: rest)
      else a :: joinSorted (b :: rest)
termination_by intervals => intervals.length

def normalize (set : CodeSet) : CodeSet :=
  ⟨joinSorted (set.intervals.mergeSort fun a b => a.1 ≤ b.1)⟩

def gapsFrom (start : Nat) : List (Nat × Nat) → List (Nat × Nat)
  | [] => if start ≤ lastCode then [(start, lastCode)] else []
  | a :: rest =>
      if start < a.1 then (start, a.1 - 1) :: gapsFrom (a.2 + 1) rest else gapsFrom (a.2 + 1) rest

def complement (set : CodeSet) : CodeSet :=
  ⟨gapsFrom 0 set.normalize.intervals⟩

def union (left right : CodeSet) : CodeSet :=
  normalize ⟨left.intervals ++ right.intervals⟩

def inter (left right : CodeSet) : CodeSet :=
  (left.complement.union right.complement).complement

def diff (left right : CodeSet) : CodeSet :=
  (left.complement.union right).complement

def symmDiff (left right : CodeSet) : CodeSet :=
  (left.diff right).union (right.diff left)

def isBelow (set : CodeSet) (bound : Nat) : Bool :=
  set.intervals.all fun interval => interval.2 < bound

end CodeSet

def hexValue? (c : Char) : Option Nat :=
  if '0' ≤ c ∧ c ≤ '9' then some (c.toNat - 48)
  else if 'a' ≤ c ∧ c ≤ 'f' then some (c.toNat - 87)
  else none

/-- The hexadecimal numbers in a text, where anything that is no digit separates them.  `begun` is the
number whose digits are being read. -/
def hexNumbersFrom : Option Nat → List Char → List Nat
  | begun, [] => begun.toList
  | begun, c :: rest =>
      match hexValue? c with
      | some digit => hexNumbersFrom (some (begun.getD 0 * 16 + digit)) rest
      | none => begun.toList ++ hexNumbersFrom none rest

def hexNumbers (text : String) : List Nat :=
  hexNumbersFrom none text.toList

/-- Intervals from alternating distances: a gap, then the length of an interval, and so on. -/
def intervalsFrom (start : Nat) : List Nat → List (Nat × Nat)
  | gap :: size :: rest => (start + gap, start + gap + size - 1) :: intervalsFrom (start + gap + size) rest
  | _ => []

def CodeSet.ofDistances (text : String) : CodeSet :=
  ⟨intervalsFrom 0 (hexNumbers text)⟩

/-- An entry of a Unicode table: the names of a value, in the form in which names are compared, and its
characters as distances. -/
structure NamedSet where
  names : List String
  distances : String

def findSet? (table : List NamedSet) (name : String) : Option CodeSet :=
  (table.find? fun entry => entry.names.contains name).map fun entry => CodeSet.ofDistances entry.distances

end TemplateLint.Unicode
