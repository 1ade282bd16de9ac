import TemplateLint.Unicode.CodeSet

set_option autoImplicit false

/-!
Sets of characters as byte sequences.  The code points of an interval are those whose bytes in UTF-8 lie, place
by place, in the byte intervals of one of a few sequences (`sequencesFrom`).
-/

namespace TemplateLint.Regex

open TemplateLint.Unicode (CodeSet)

abbrev ByteRanges := List (Nat × Nat)

def codeBytes (code : Nat) : List Nat :=
  if code < 0x80 then [code]
  else if code < 0x800 then [0xC0 + code / 64, 0x80 + code % 64]
  else if code < 0x10000 then [0xE0 + code / 4096, 0x80 + code / 64 % 64, 0x80 + code % 64]
  else [0xF0 + code / 262144, 0x80 + code / 4096 % 64, 0x80 + code / 64 % 64, 0x80 + code % 64]

def textBytes (chars : List Char) : List Nat :=
  chars.flatMap fun c => codeBytes c.toNat

/-- The first place at which an interval of code points has to be cut so that its bytes form a product of
byte intervals: the end of a length of encoding, or of a block of 64, 4096 or 262144. -/
def cutOf? (first last : Nat) : Option Nat :=
  let lengths := [0x7F, 0x7FF, 0xFFFF].find? fun end_ => first ≤ end_ && end_ < last
  match lengths with
  | some end_ => some end_
  | none =>
      [64, 4096, 262144].findSome? fun block =>
        if first / block = last / block then none
        else if first % block ≠ 0 then some (first / block * block + block - 1)
        else if last % block ≠ block - 1 then some (last / block * block - 1)
        else none

/-- The byte sequences of the code points from `first` to `last`, without the surrogates.  Sixty-four cuts are
more than any interval needs. -/
def sequencesFrom : Nat → Nat → Nat → List ByteRanges
  | 0, _, _ => []
  | fuel + 1, first, last =>
      if last < first then []
      else if first < 0xE000 ∧ 0xD7FF < last then
        sequencesFrom fuel first 0xD7FF ++ sequencesFrom fuel 0xE000 last
      else if 0xD7FF < first ∧ first < 0xE000 then []
      else if last < 0x80 then [[(first, last)]]
      else
        match cutOf? first last with
        | some cut => sequencesFrom fuel first cut ++ sequencesFrom fuel (cut + 1) last
        | none => [(codeBytes first).zip (codeBytes last)]

def sequences (set : CodeSet) : List ByteRanges :=
  set.normalize.intervals.flatMap fun interval => sequencesFrom 64 interval.1 interval.2

def continuations : List ByteRanges → List ((Nat × Nat) × List ByteRanges)
  | [] => []
  | [] :: rest => continuations rest
  | (first :: others) :: rest =>
      match continuations rest with
      | (next, tails) :: more =>
          if next = first then (first, others :: tails) :: more else (first, [others]) :: (next, tails) :: more
      | [] => [(first, [others])]

end TemplateLint.Regex
