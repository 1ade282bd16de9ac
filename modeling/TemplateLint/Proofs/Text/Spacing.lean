import TemplateLint.Proofs.Text.Blank
import TemplateLint.Unicode.Property

set_option autoImplicit false

/-!
Texts of words with blanks between them, and what is read from such a text: its words, and nothing else.

Which characters are blank is taken here from the table of the property and not from the test that the scans
use; the two are proved equal first.
-/

namespace TemplateLint.Text

/-! ### Blanks of the table -/

theorem blankSet_eq :
    Unicode.blankSet = ⟨[(9, 13), (0x20, 0x20), (0x85, 0x85), (0xA0, 0xA0), (0x1680, 0x1680), (0x2000, 0x200A),
      (0x2028, 0x2029), (0x202F, 0x202F), (0x205F, 0x205F), (0x3000, 0x3000)]⟩ := by
  decide +kernel

theorem isBlank_eq_contains (c : Char) : isBlank c = Unicode.blankSet.contains c := by
  rw [blankSet_eq, Bool.eq_iff_iff]
  simp only [isBlank, Unicode.CodeSet.contains, Unicode.CodeSet.containsCode, List.any_cons, List.any_nil,
    Bool.or_eq_true, Bool.and_eq_true, decide_eq_true_eq, beq_iff_eq, Bool.or_false]
  omega

/-- Characters of which each is blank by the table; there may be none. -/
def IsGap (gap : List Char) : Prop := ∀ c ∈ gap, Unicode.blankSet.contains c = true

def IsWord (word : List Char) : Prop := word ≠ [] ∧ ∀ c ∈ word, Unicode.blankSet.contains c = false

theorem isGap_nil : IsGap [] := List.forall_mem_nil _

theorem isGap_iff_allBlank (gap : List Char) : IsGap gap ↔ allBlank gap = true := by
  simp only [IsGap, allBlank, List.all_eq_true, isBlank_eq_contains]

theorem isWord_iff_isSolid (word : List Char) : IsWord word ↔ IsSolid word := by
  simp only [IsWord, IsSolid, isBlank_eq_contains]

/-! ### Texts of words -/

inductive Separated : List (List Char) → List Char → Prop where
  | last {word : List Char} : IsWord word → Separated [word] word
  | next {word gap rest : List Char} {words : List (List Char)} : IsWord word → gap ≠ [] → IsGap gap →
      Separated words rest → Separated (word :: words) (word ++ gap ++ rest)

/-- Words in their order, with one blank or more between neighbours and any blanks around. -/
def IsSpaced (words : List (List Char)) (text : List Char) : Prop :=
  ∃ before body after, IsGap before ∧ Separated words body ∧ IsGap after ∧ text = before ++ body ++ after

namespace IsSpaced

variable {word gap text : List Char} {words : List (List Char)}

theorem of_word (isWord : IsWord word) (isGap : IsGap gap) : IsSpaced [word] (word ++ gap) :=
  ⟨[], word, gap, isGap_nil, .last isWord, isGap, rfl⟩

theorem behind_gap (isGap : IsGap gap) (spaced : IsSpaced words text) : IsSpaced words (gap ++ text) := by
  obtain ⟨before, body, after, isBefore, separated, isAfter, rfl⟩ := spaced
  refine ⟨gap ++ before, body, after, ?_, separated, isAfter, ?_⟩
  · exact List.forall_mem_append.2 ⟨isGap, isBefore⟩
  · simp only [List.append_assoc]

theorem behind_word (isWord : IsWord word) (wide : gap ≠ []) (isGap : IsGap gap)
    (spaced : IsSpaced words text) : IsSpaced (word :: words) (word ++ gap ++ text) := by
  obtain ⟨before, body, after, isBefore, separated, isAfter, rfl⟩ := spaced
  -- the gap that is added and the blanks in front of the text make one gap
  have wider : gap ++ before ≠ [] := fun none => wide (List.append_eq_nil_iff.1 none).1
  have isWider : IsGap (gap ++ before) := List.forall_mem_append.2 ⟨isGap, isBefore⟩
  refine ⟨[], word ++ (gap ++ before) ++ body, after, isGap_nil, ?_, isAfter, ?_⟩
  · exact .next isWord wider isWider separated
  · simp only [List.nil_append, List.append_assoc]

end IsSpaced

/-! ### Words that are read from a text of words -/

theorem wordsFrom_append_word {word : List Char} (solid : ∀ c ∈ word, isBlank c = false)
    (begun rest : List Char) : wordsFrom begun (word ++ rest) = wordsFrom (word.reverse ++ begun) rest := by
  induction word generalizing begun with
  | nil => rfl
  | cons c others ih =>
      obtain ⟨ofFirst, ofOthers⟩ := List.forall_mem_cons.1 solid
      rw [List.cons_append, wordsFrom, if_neg (Bool.eq_false_iff.1 ofFirst), ih ofOthers, List.reverse_cons,
        List.append_assoc]
      rfl

theorem words_cons_blank {c : Char} (blank : isBlank c = true) (rest : List Char) :
    words (c :: rest) = words rest := by
  rw [words, wordsFrom, if_pos blank, if_pos List.isEmpty_nil]
  rfl

theorem words_append_gap {gap : List Char} (isGap : IsGap gap) (rest : List Char) :
    words (gap ++ rest) = words rest := by
  induction gap with
  | nil => rfl
  | cons c others ih =>
      obtain ⟨ofFirst, ofOthers⟩ := List.forall_mem_cons.1 isGap
      rw [List.cons_append, words_cons_blank ((isBlank_eq_contains c).trans ofFirst), ih ofOthers]

theorem words_append_word_gap {word gap : List Char} (isWord : IsWord word) (wide : gap ≠ []) (isGap : IsGap gap)
    (rest : List Char) : words (word ++ gap ++ rest) = word :: words rest := by
  obtain ⟨isSome, solid⟩ := (isWord_iff_isSolid word).1 isWord
  have isOpen : word.reverse.isEmpty ≠ true := by simpa using isSome
  cases gap with
  | nil => exact absurd rfl wide
  | cons c others =>
      obtain ⟨ofFirst, ofOthers⟩ := List.forall_mem_cons.1 isGap
      rw [List.append_assoc, words, wordsFrom_append_word solid, List.append_nil, List.cons_append, wordsFrom,
        if_pos ((isBlank_eq_contains c).trans ofFirst), if_neg isOpen, List.reverse_reverse]
      exact congrArg (word :: ·) (words_append_gap ofOthers rest)

theorem words_append_word {word gap : List Char} (isWord : IsWord word) (isGap : IsGap gap) :
    words (word ++ gap) = [word] := by
  by_cases wide : gap = []
  · obtain ⟨isSome, solid⟩ := (isWord_iff_isSolid word).1 isWord
    have isOpen : word.reverse.isEmpty ≠ true := by simpa using isSome
    rw [wide, words, wordsFrom_append_word solid, List.append_nil, wordsFrom, if_neg isOpen, List.reverse_reverse]
  · have read := words_append_word_gap isWord wide isGap []
    rwa [List.append_nil] at read

theorem Separated.words_eq {words : List (List Char)} {body gap : List Char} (separated : Separated words body)
    (isGap : IsGap gap) : Text.words (body ++ gap) = words := by
  induction separated with
  | last isWord => exact words_append_word isWord isGap
  | next isWord wide isBetween separated ih =>
      rw [List.append_assoc, words_append_word_gap isWord wide isBetween, ih]

theorem Separated.ne_nil {words : List (List Char)} {body : List Char} (separated : Separated words body) :
    words ≠ [] := by
  cases separated with
  | last isWord => exact List.cons_ne_nil _ _
  | next isWord wide isGap separated => exact List.cons_ne_nil _ _

/-! ### Texts that are scanned -/

theorem isSpaced_behind_word {word gap rest : List Char} (isWord : IsWord word) (wide : gap ≠ [])
    (isGap : IsGap gap) (spacedRest : words rest ≠ [] → IsSpaced (words rest) rest) :
    IsSpaced (word :: words rest) (word ++ gap ++ rest) := by
  by_cases silent : words rest = []
  · have restIsGap : IsGap rest := (isGap_iff_allBlank rest).2 ((words_eq_nil_iff rest).1 silent)
    rw [silent, List.append_assoc]
    exact .of_word isWord (List.forall_mem_append.2 ⟨isGap, restIsGap⟩)
  · exact (spacedRest silent).behind_word isWord wide isGap

/-- A text that is scanned from some place on, with the characters of the word that is open there, is a text of
the words that are read. -/
theorem isSpaced_wordsFrom {begun text : List Char} (solid : ∀ c ∈ begun, isBlank c = false)
    (speaks : wordsFrom begun text ≠ []) : IsSpaced (wordsFrom begun text) (begun.reverse ++ text) := by
  induction text generalizing begun with
  | nil =>
      rw [wordsFrom] at speaks ⊢
      split at speaks
      · exact absurd rfl speaks
      · rename_i isOpen
        rw [if_neg isOpen]
        exact .of_word ((isWord_iff_isSolid _).2 (isSolid_reverse isOpen solid)) isGap_nil
  | cons c rest ih =>
      rw [wordsFrom] at speaks ⊢
      by_cases blank : isBlank c
      · rw [if_pos blank] at speaks ⊢
        have isGap : IsGap [c] := (isGap_iff_allBlank [c]).2 (by simpa [allBlank] using blank)
        have spacedRest : words rest ≠ [] → IsSpaced (words rest) rest := ih (List.forall_mem_nil _)
        by_cases isClosed : begun.isEmpty
        · rw [if_pos isClosed] at speaks ⊢
          rw [List.isEmpty_iff.1 isClosed]
          change IsSpaced (words rest) ([c] ++ rest)
          exact (spacedRest speaks).behind_gap isGap
        · rw [if_neg isClosed]
          have isWord := (isWord_iff_isSolid _).2 (isSolid_reverse isClosed solid)
          have spaced := isSpaced_behind_word isWord (List.cons_ne_nil c []) isGap spacedRest
          rwa [List.append_assoc] at spaced
      · rw [if_neg blank] at speaks ⊢
        have wordSolid : ∀ d ∈ c :: begun, isBlank d = false :=
          List.forall_mem_cons.2 ⟨Bool.eq_false_iff.2 blank, solid⟩
        have spaced := ih wordSolid speaks
        rwa [List.reverse_cons, List.append_assoc] at spaced

/-- The words that are read are those of which the text is made, and a text that is not blank is made of words. -/
theorem isSpaced_iff (words : List (List Char)) (text : List Char) :
    IsSpaced words text ↔ words ≠ [] ∧ Text.words text = words := by
  constructor
  · rintro ⟨before, body, after, isBefore, separated, isAfter, rfl⟩
    refine ⟨separated.ne_nil, ?_⟩
    rw [List.append_assoc, words_append_gap isBefore, separated.words_eq isAfter]
  · rintro ⟨speaks, rfl⟩
    exact isSpaced_wordsFrom (List.forall_mem_nil _) speaks

end TemplateLint.Text
