import TemplateLint.Unicode.Property

set_option autoImplicit false

/-!
Patterns and the texts in which they match.

A pattern denotes a set of places in a text: a part of the text together with what stands before and after
it, because anchors and word boundaries look at their neighbours.  `Matches` says so declaratively.
`occursIn` decides whether some part of a text matches by moving a set of remaining patterns along the
text, so the time is proportional to the length of the text.
-/

namespace TemplateLint.Regex

open TemplateLint.Unicode (CodeSet)

structure Place where
  before : Option Char
  after : Option Char
deriving DecidableEq, Repr

inductive WordKind where
  | unicode
  | ascii
deriving DecidableEq, Repr

inductive Look where
  | textStart
  | textEnd
  | lineStart
  | lineEnd
  | lineStartCrLf
  | lineEndCrLf
  | wordBoundary (kind : WordKind)
  | notWordBoundary (kind : WordKind)
  | wordStart (kind : WordKind)
  | wordEnd (kind : WordKind)
  | wordStartHalf (kind : WordKind)
  | wordEndHalf (kind : WordKind)
deriving DecidableEq, Repr

def asciiWordSet : CodeSet :=
  ⟨[(0x30, 0x39), (0x41, 0x5A), (0x5F, 0x5F), (0x61, 0x7A)]⟩

def WordKind.set : WordKind → CodeSet
  | .unicode => Unicode.wordSet
  | .ascii => asciiWordSet

def WordKind.holds (kind : WordKind) (neighbour : Option Char) : Bool :=
  neighbour.any kind.set.contains

/-- True of the places that meet a condition.  With carriage returns as line ends, a place between a
carriage return and a line feed is neither the start nor the end of a line. -/
def Look.holds (place : Place) : Look → Bool
  | .textStart => place.before.isNone
  | .textEnd => place.after.isNone
  | .lineStart => place.before.isNone || place.before == some '\n'
  | .lineEnd => place.after.isNone || place.after == some '\n'
  | .lineStartCrLf =>
      place.before.isNone || place.before == some '\n' ||
        (place.before == some '\r' && place.after != some '\n')
  | .lineEndCrLf =>
      place.after.isNone || place.after == some '\r' ||
        (place.after == some '\n' && place.before != some '\r')
  | .wordBoundary kind => kind.holds place.before != kind.holds place.after
  | .notWordBoundary kind => kind.holds place.before == kind.holds place.after
  | .wordStart kind => !kind.holds place.before && kind.holds place.after
  | .wordEnd kind => kind.holds place.before && !kind.holds place.after
  | .wordStartHalf kind => !kind.holds place.before
  | .wordEndHalf kind => !kind.holds place.after

inductive Pattern where
  | empty
  | look (condition : Look)
  | one (set : CodeSet)
  | seq (first second : Pattern)
  | either (left right : Pattern)
  /-- Matches `least` or more parts in a row that the body matches, and no more than `most`. -/
  | repeated (body : Pattern) (least : Nat) (most : Option Nat)
deriving DecidableEq, Repr

namespace Pattern

def never : Pattern := .one CodeSet.empty

def literal : List Char → Pattern
  | [] => .empty
  | c :: rest => .seq (.one (CodeSet.single c)) (literal rest)

def optional (body : Pattern) : Pattern := .repeated body 0 (some 1)

def many (body : Pattern) : Pattern := .repeated body 0 none

def lastOf (before : Option Char) : List Char → Option Char
  | [] => before
  | c :: rest => lastOf (some c) rest

/-- `pattern.Matches before part after`: the pattern matches `part` where `before` is the character in front
of it and `after` the text behind it. -/
inductive Matches : Pattern → Option Char → List Char → List Char → Prop where
  | empty (before : Option Char) (after : List Char) : Matches .empty before [] after
  | look (condition : Look) (before : Option Char) (after : List Char)
      (holds : condition.holds ⟨before, after.head?⟩ = true) : Matches (.look condition) before [] after
  | one (set : CodeSet) (before : Option Char) (c : Char) (after : List Char)
      (isMember : set.contains c = true) : Matches (.one set) before [c] after
  | seq (first second : Pattern) (before : Option Char) (left right after : List Char)
      (matchesFirst : Matches first before left (right ++ after))
      (matchesSecond : Matches second (lastOf before left) right after) :
      Matches (.seq first second) before (left ++ right) after
  | left (one other : Pattern) (before : Option Char) (part after : List Char)
      (matchesOne : Matches one before part after) : Matches (.either one other) before part after
  | right (one other : Pattern) (before : Option Char) (part after : List Char)
      (matchesOther : Matches other before part after) : Matches (.either one other) before part after
  | finished (body : Pattern) (most : Option Nat) (before : Option Char) (after : List Char) :
      Matches (.repeated body 0 most) before [] after
  | again (body : Pattern) (least : Nat) (most : Option Nat) (before : Option Char)
      (left right after : List Char) (isAllowed : most ≠ some 0)
      (matchesBody : Matches body before left (right ++ after))
      (matchesRest : Matches (.repeated body (least - 1) (most.map (· - 1))) (lastOf before left) right after) :
      Matches (.repeated body least most) before (left ++ right) after

def Occurs (pattern : Pattern) (text : List Char) : Prop :=
  ∃ left part right, text = left ++ part ++ right ∧ pattern.Matches (lastOf none left) part right

/-! ### Deciding whether a pattern occurs -/

def finishes (place : Place) : Pattern → Bool
  | .empty => true
  | .look condition => condition.holds place
  | .one _ => false
  | .seq first second => first.finishes place && second.finishes place
  | .either left right => left.finishes place || right.finishes place
  | .repeated body least most =>
      least == 0 || (body.finishes place && most.all (least ≤ ·))

def followedBy (first second : Pattern) : Pattern :=
  match first with
  | .empty => second
  | other => .seq other second

/-- What is left to match after the character that follows a place.  Of a repetition, repeats that match the
empty part may come before the one that takes the character; so when the body can match it here, no repeat
is owed any more. -/
def remaining (place : Place) (c : Char) : Pattern → List Pattern
  | .empty => []
  | .look _ => []
  | .one set => if set.contains c then [.empty] else []
  | .seq first second =>
      let inFirst := (first.remaining place c).map (·.followedBy second)
      if first.finishes place then inFirst ++ second.remaining place c else inFirst
  | .either left right => left.remaining place c ++ right.remaining place c
  | .repeated body least most =>
      if most == some 0 || most.any (· < least) then []
      else
        let owed := if body.finishes place then 0 else least - 1
        (body.remaining place c).map (·.followedBy (.repeated body owed (most.map (· - 1))))

def distinctFew : List Pattern → List Pattern
  | [] => []
  | pattern :: rest =>
      let others := distinctFew rest
      if others.contains pattern then others else pattern :: others

theorem mem_distinctFew (pattern : Pattern) (patterns : List Pattern) :
    pattern ∈ distinctFew patterns ↔ pattern ∈ patterns := by
  induction patterns with
  | nil => rfl
  | cons first rest ih =>
      rw [distinctFew]
      by_cases present : (distinctFew rest).contains first = true
      · rw [if_pos present, ih, List.mem_cons]
        constructor
        · exact Or.inr
        · rintro (same | inRest)
          · subst same
            exact ih.mp (List.contains_iff_mem.mp present)
          · exact inRest
      · rw [if_neg present, List.mem_cons, List.mem_cons, ih]

def label : Nat → Pattern → Nat
  | 0, _ => 0
  | _ + 1, .empty => 1
  | _ + 1, .look _ => 2
  | _ + 1, .one set => 3 + (set.intervals.head?.map Prod.fst).getD 0
  | depth + 1, .seq first second => (label depth first * 31 + label depth second * 17 + 4) % 65536
  | depth + 1, .either left right => (label depth left * 29 + label depth right * 19 + 5) % 65536
  | depth + 1, .repeated body least most =>
      (label depth body * 13 + least * 2 + (most.getD 0) * 3 + 6) % 65536

/-- The patterns of a list without repetitions.  A list that is not short is divided by the last binary digit of
the labels, as long as there are digits left; equal patterns have equal labels and stay together. -/
def distinctLabelled : Nat → List (Nat × Pattern) → List Pattern
  | 0, entries => distinctFew (entries.map Prod.snd)
  | digits + 1, entries =>
      if entries.length ≤ 8 then distinctFew (entries.map Prod.snd)
      else
        let withDigit := fun (digit : Nat) =>
          (entries.filter fun entry => entry.1 % 2 == digit).map fun entry => (entry.1 / 2, entry.2)
        distinctLabelled digits (withDigit 0) ++ distinctLabelled digits (withDigit 1)

theorem mem_distinctLabelled (pattern : Pattern) (digits : Nat) (entries : List (Nat × Pattern)) :
    pattern ∈ distinctLabelled digits entries ↔ ∃ number, (number, pattern) ∈ entries := by
  have ofFew (entries : List (Nat × Pattern)) :
      pattern ∈ distinctFew (entries.map Prod.snd) ↔ ∃ number, (number, pattern) ∈ entries := by
    simp only [mem_distinctFew, List.mem_map, Prod.exists, exists_eq_right]
  induction digits generalizing entries with
  | zero => exact ofFew entries
  | succ digits ih =>
      rw [distinctLabelled]
      by_cases isShort : entries.length ≤ 8
      · rw [if_pos isShort]
        exact ofFew entries
      · rw [if_neg isShort]
        simp only [List.mem_append, ih, List.mem_map, List.mem_filter, Prod.mk.injEq, Prod.exists, beq_iff_eq]
        constructor
        · rintro (⟨_, number, other, ⟨member, _⟩, _, same⟩ | ⟨_, number, other, ⟨member, _⟩, _, same⟩)
          · exact ⟨number, same ▸ member⟩
          · exact ⟨number, same ▸ member⟩
        · rintro ⟨number, member⟩
          rcases Nat.mod_two_eq_zero_or_one number with isEven | isOdd
          · exact Or.inl ⟨number / 2, number, pattern, ⟨member, isEven⟩, rfl, rfl⟩
          · exact Or.inr ⟨number / 2, number, pattern, ⟨member, isOdd⟩, rfl, rfl⟩

def distinct (patterns : List Pattern) : List Pattern :=
  if patterns.length ≤ 8 then distinctFew patterns
  else distinctLabelled 16 (patterns.map fun pattern => (label 6 pattern, pattern))

/-- Leaving out repetitions loses no pattern and adds none. -/
theorem mem_distinct (pattern : Pattern) (patterns : List Pattern) :
    pattern ∈ distinct patterns ↔ pattern ∈ patterns := by
  rw [distinct]
  split
  · exact mem_distinctFew pattern patterns
  · rw [mem_distinctLabelled]
    simp only [List.mem_map, Prod.mk.injEq]
    constructor
    · rintro ⟨_, other, member, _, same⟩
      exact same ▸ member
    · intro member
      exact ⟨label 6 pattern, pattern, member, rfl, rfl⟩

def search (start : Pattern) : List Pattern → Option Char → List Char → Bool
  | pending, before, [] =>
      (start :: pending).any (finishes ⟨before, none⟩)
  | pending, before, c :: rest =>
      let place : Place := ⟨before, some c⟩
      (start :: pending).any (finishes place) ||
        search start (distinct ((start :: pending).flatMap (remaining place c))) (some c) rest

def occursIn (pattern : Pattern) (text : List Char) : Bool :=
  search pattern [] none text

end Pattern

end TemplateLint.Regex
