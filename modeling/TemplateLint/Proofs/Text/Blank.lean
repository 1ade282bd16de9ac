import TemplateLint.Text.Blank

set_option autoImplicit false

/-!
What trimming, words and lines leave of a text: nothing of a blank one, and something of any other.
-/

namespace TemplateLint.Text

theorem allBlank_reverse (text : List Char) : allBlank text.reverse = allBlank text := by
  simp only [allBlank, List.all_reverse]

/-! ### Trimming -/

theorem trimEnd_eq_nil_iff (text : List Char) : trimEnd text = [] ↔ allBlank text = true := by
  induction text with
  | nil => simp [trimEnd, allBlank]
  | cons c rest ih =>
      rw [trimEnd]
      cases kept : trimEnd rest with
      | nil =>
          have restBlank : rest.all isBlank = true := ih.1 kept
          simp [allBlank, restBlank]
      | cons first others =>
          have speaks : ¬rest.all isBlank = true := by
            intro restBlank
            rw [ih.2 restBlank] at kept
            cases kept
          simp [allBlank, speaks]

theorem trim_eq_nil_iff (text : List Char) : trim text = [] ↔ allBlank text = true := by
  rw [trim, trimStart, trimEnd_eq_nil_iff]
  induction text with
  | nil => rfl
  | cons c rest ih =>
      by_cases blank : isBlank c
      · rw [List.dropWhile_cons_of_pos blank, ih]
        simp [allBlank, blank]
      · rw [List.dropWhile_cons_of_neg blank]

/-! ### Words -/

def IsSolid (word : List Char) : Prop := word ≠ [] ∧ ∀ c ∈ word, isBlank c = false

theorem isSolid_reverse {begun : List Char} (some : begun.isEmpty ≠ true) (solid : ∀ c ∈ begun, isBlank c = false) :
    IsSolid begun.reverse := by
  constructor
  · simpa using some
  · simpa using solid

theorem isSolid_of_mem_wordsFrom {word begun text : List Char} (solid : ∀ c ∈ begun, isBlank c = false)
    (isWord : word ∈ wordsFrom begun text) : IsSolid word := by
  induction text generalizing begun with
  | nil =>
      rw [wordsFrom] at isWord
      split at isWord
      · cases isWord
      · rename_i some
        rw [List.mem_singleton.1 isWord]
        exact isSolid_reverse some solid
  | cons c rest ih =>
      rw [wordsFrom] at isWord
      by_cases blank : isBlank c
      · rw [if_pos blank] at isWord
        split at isWord
        · exact ih (by simp) isWord
        · rename_i some
          rcases List.mem_cons.1 isWord with same | later
          · rw [same]
            exact isSolid_reverse some solid
          · exact ih (by simp) later
      · rw [if_neg blank] at isWord
        apply ih _ isWord
        intro d isMember
        rcases List.mem_cons.1 isMember with same | inBegun
        · rw [same]
          exact Bool.eq_false_iff.2 blank
        · exact solid d inBegun

theorem isSolid_of_mem_words {word text : List Char} (isWord : word ∈ words text) : IsSolid word :=
  isSolid_of_mem_wordsFrom (by simp) isWord

theorem wordsFrom_eq_nil_iff (begun text : List Char) :
    wordsFrom begun text = [] ↔ begun = [] ∧ allBlank text = true := by
  induction text generalizing begun with
  | nil => simp [wordsFrom, allBlank]
  | cons c rest ih =>
      rw [wordsFrom]
      by_cases blank : isBlank c
      · cases begun with
        | nil => simp [blank, ih, allBlank]
        | cons d others => simp [blank]
      · simp [blank, ih, allBlank]

theorem words_eq_nil_iff (text : List Char) : words text = [] ↔ allBlank text = true := by
  simp [words, wordsFrom_eq_nil_iff]

/-! ### Lines -/

theorem allBlank_dropReturn (line : List Char) : allBlank (dropReturn line) = allBlank line := by
  unfold dropReturn
  split
  · rename_i last
    obtain ⟨front, rfl⟩ := List.getLast?_eq_some_iff.1 last
    have returnBlank : isBlank '\r' = true := by decide
    simp [allBlank, returnBlank]
  · rfl

theorem linesFrom_blank_iff (begun text : List Char) :
    (∀ line ∈ linesFrom begun text, allBlank line = true) ↔
      allBlank begun = true ∧ allBlank text = true := by
  induction text generalizing begun with
  | nil =>
      cases begun with
      | nil => simp [linesFrom, allBlank]
      | cons c rest =>
          have single : linesFrom (c :: rest) [] = [(c :: rest).reverse] := rfl
          rw [single, List.forall_mem_singleton, allBlank_reverse]
          exact (and_iff_left rfl).symm
  | cons c rest ih =>
      by_cases isFeed : c = '\n'
      · subst isFeed
        have feedBlank : isBlank '\n' = true := by decide
        rw [linesFrom, List.forall_mem_cons, allBlank_dropReturn, allBlank_reverse]
        refine (and_congr_right fun _ => ih []).trans ?_
        simp [allBlank, feedBlank]
      · rw [linesFrom.eq_3 begun c rest isFeed]
        refine (ih (c :: begun)).trans ?_
        simp only [allBlank, List.all_cons, Bool.and_eq_true]
        rw [and_assoc, and_left_comm]

theorem lines_blank_iff (text : List Char) :
    (∀ line ∈ lines text, allBlank line = true) ↔ allBlank text = true := by
  rw [lines, linesFrom_blank_iff]
  simp [allBlank]

end TemplateLint.Text
