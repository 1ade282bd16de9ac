import TemplateLint.Proofs.Regex.Match

set_option autoImplicit false

/-!
Searching a text decides whether a pattern occurs in it.

A match either is empty or begins with the next character.  `finishes` decides the first, and `remaining` gives
what is left to match in the second; so a search that goes on with all remaining patterns loses no match and adds
none.
-/

namespace TemplateLint.Regex.Pattern

variable {before : Option Char} {part after : List Char}

/-! ### Rows with a character -/

theorem inRow_nil_iff {body : Pattern} {count : Nat} :
    InRow body count before [] after ↔ count = 0 ∨ body.Matches before [] after := by
  induction count with
  | zero => exact ⟨fun _ => .inl rfl, fun _ => .done before after⟩
  | succ count ih =>
      rw [inRow_succ_iff]
      constructor
      · rintro ⟨left, right, isEmpty, matchesBody, -⟩
        obtain ⟨rfl, rfl⟩ := List.append_eq_nil_iff.1 isEmpty.symm
        exact .inr matchesBody
      · rintro (impossible | matchesBody)
        · cases impossible
        · exact ⟨[], [], rfl, matchesBody, ih.2 (.inr matchesBody)⟩

/-- Of parts in a row with a character, the first ones may be empty; the next one begins with the character. -/
theorem inRow_cons_iff {body : Pattern} {count : Nat} {c : Char} :
    InRow body count before (c :: part) after ↔
      ∃ skipped more left right, count = skipped + 1 + more ∧
        (skipped = 0 ∨ body.Matches before [] (c :: part ++ after)) ∧ part = left ++ right ∧
        body.Matches before (c :: left) (right ++ after) ∧ InRow body more (lastOf (some c) left) right after := by
  constructor
  · intro inRow
    induction count with
    | zero => cases inRow_zero_iff.1 inRow
    | succ count ih =>
        obtain ⟨left, right, split, matchesBody, matchesRest⟩ := inRow_succ_iff.1 inRow
        cases left with
        | nil =>
            obtain rfl : c :: part = right := split
            obtain ⟨skipped, more, left, right, rfl, -, others⟩ := ih matchesRest
            exact ⟨skipped + 1, more, left, right, by omega, .inr matchesBody, others⟩
        | cons d left =>
            obtain ⟨rfl, rfl⟩ := List.cons.inj split
            exact ⟨0, count, left, right, by omega, .inl rfl, rfl, matchesBody, matchesRest⟩
  · rintro ⟨skipped, more, left, right, rfl, mayskip, rfl, matchesBody, matchesRest⟩
    induction skipped with
    | zero =>
        rw [Nat.zero_add, Nat.add_comm]
        exact .more more before (c :: left) right after matchesBody matchesRest
    | succ skipped ih =>
        have matchesEmpty : body.Matches before [] (c :: (left ++ right) ++ after) :=
          mayskip.resolve_left (Nat.succ_ne_zero skipped)
        have inRow := InRow.more (skipped + 1 + more) before [] (c :: (left ++ right)) after matchesEmpty
          (ih (.inr matchesEmpty))
        rwa [show skipped + 1 + 1 + more = skipped + 1 + more + 1 by omega]

/-! ### Empty matches -/

theorem all_le_iff (least : Nat) (most : Option Nat) :
    most.all (least ≤ ·) = true ↔ ∀ bound ∈ most, least ≤ bound := by
  cases most with
  | none => exact ⟨nofun, fun _ => rfl⟩
  | some bound =>
      rw [Option.all_some, decide_eq_true_iff]
      exact ⟨fun within _ same => Option.mem_some.1 same ▸ within, fun each => each bound rfl⟩

/-- The body may be owed some repeats, but every one of them may be empty. -/
theorem matches_repeated_nil_iff (body : Pattern) (least : Nat) (most : Option Nat) :
    Matches (.repeated body least most) before [] after ↔
      least = 0 ∨ body.Matches before [] after ∧ ∀ bound ∈ most, least ≤ bound := by
  simp only [matches_repeated_iff, inRow_nil_iff]
  constructor
  · rintro ⟨count, enough, notTooMany, rfl | matchesBody⟩
    · exact .inl (Nat.le_zero.1 enough)
    · exact .inr ⟨matchesBody, fun bound isBound => Nat.le_trans enough (notTooMany bound isBound)⟩
  · rintro (rfl | ⟨matchesBody, within⟩)
    · exact ⟨0, Nat.le_refl 0, fun _ _ => Nat.zero_le _, .inl rfl⟩
    · exact ⟨least, Nat.le_refl least, within, .inr matchesBody⟩

theorem finishes_iff (pattern : Pattern) (before : Option Char) (after : List Char) :
    pattern.finishes ⟨before, after.head?⟩ = true ↔ pattern.Matches before [] after := by
  induction pattern with
  | empty => exact ⟨fun _ => .empty before after, fun _ => rfl⟩
  | look condition => rw [matches_look_iff, finishes, eq_self, true_and]
  | one set =>
      rw [matches_one_iff]
      exact ⟨nofun, fun ⟨_, isEmpty, _⟩ => nomatch isEmpty⟩
  | seq first second ihFirst ihSecond =>
      rw [finishes, Bool.and_eq_true, ihFirst, ihSecond, matches_seq_iff]
      constructor
      · rintro ⟨matchesFirst, matchesSecond⟩
        exact ⟨[], [], rfl, matchesFirst, matchesSecond⟩
      · rintro ⟨left, right, isEmpty, both⟩
        obtain ⟨rfl, rfl⟩ := List.append_eq_nil_iff.1 isEmpty.symm
        exact both
  | either left right ihLeft ihRight => rw [finishes, Bool.or_eq_true, ihLeft, ihRight, matches_either_iff]
  | repeated body least most ih =>
      rw [finishes, Bool.or_eq_true, Bool.and_eq_true, beq_iff_eq, ih, all_le_iff, matches_repeated_nil_iff]

/-! ### Matches that begin with a character -/

theorem matches_followedBy_iff (first second : Pattern) :
    (first.followedBy second).Matches before part after ↔ Matches (.seq first second) before part after := by
  cases first with
  | empty =>
      simp only [followedBy, matches_seq_iff, matches_empty_iff]
      constructor
      · intro matchesSecond
        exact ⟨[], part, rfl, rfl, matchesSecond⟩
      · rintro ⟨left, right, rfl, rfl, matchesSecond⟩
        exact matchesSecond
  | _ => rfl

/-- What the first of two patterns leaves of a match that it begins. -/
theorem exists_followedBy_iff (patterns : List Pattern) (second : Pattern) :
    (∃ next ∈ patterns.map (·.followedBy second), next.Matches before part after) ↔
      ∃ left right, part = left ++ right ∧ (∃ next ∈ patterns, next.Matches before left (right ++ after)) ∧
        second.Matches (lastOf before left) right after := by
  simp only [List.mem_map]
  constructor
  · rintro ⟨_, ⟨next, isNext, rfl⟩, isMatch⟩
    obtain ⟨left, right, split, matchesNext, matchesSecond⟩ :=
      (matches_seq_iff _ _).1 ((matches_followedBy_iff next second).1 isMatch)
    exact ⟨left, right, split, ⟨next, isNext, matchesNext⟩, matchesSecond⟩
  · rintro ⟨left, right, split, ⟨next, isNext, matchesNext⟩, matchesSecond⟩
    exact ⟨_, ⟨next, isNext, rfl⟩, (matches_followedBy_iff next second).2
      ((matches_seq_iff _ _).2 ⟨left, right, split, matchesNext, matchesSecond⟩)⟩

/-- A sequence begins with a character in its first part, or in its second one if the first is empty. -/
theorem matches_seq_cons_iff (first second : Pattern) (c : Char) :
    Matches (.seq first second) before (c :: part) after ↔
      (∃ left right, part = left ++ right ∧ first.Matches before (c :: left) (right ++ after) ∧
          second.Matches (lastOf (some c) left) right after) ∨
        first.Matches before [] (c :: part ++ after) ∧ second.Matches before (c :: part) after := by
  rw [matches_seq_iff]
  constructor
  · rintro ⟨left, right, split, matchesFirst, matchesSecond⟩
    cases left with
    | nil =>
        obtain rfl : c :: part = right := split
        exact .inr ⟨matchesFirst, matchesSecond⟩
    | cons d left =>
        obtain ⟨rfl, rfl⟩ := List.cons.inj split
        exact .inl ⟨left, right, rfl, matchesFirst, matchesSecond⟩
  · rintro (⟨left, right, rfl, matchesFirst, matchesSecond⟩ | ⟨matchesFirst, matchesSecond⟩)
    · exact ⟨c :: left, right, rfl, matchesFirst, matchesSecond⟩
    · exact ⟨[], c :: part, rfl, matchesFirst, matchesSecond⟩

/-- The number of repeats that are owed behind the first one that is not empty.  If the body matches the empty
part, none is owed, since all that are owed may have come before. -/
theorem matches_repeated_cons_iff (body : Pattern) (least : Nat) (most : Option Nat) (c : Char) {owed : Nat}
    (skips : body.Matches before [] (c :: part ++ after) → owed = 0)
    (owes : ¬ body.Matches before [] (c :: part ++ after) → owed = least - 1) :
    Matches (.repeated body least most) before (c :: part) after ↔
      (∀ bound ∈ most, 0 < bound ∧ least ≤ bound) ∧
        ∃ left right, part = left ++ right ∧ body.Matches before (c :: left) (right ++ after) ∧
          Matches (.repeated body owed (most.map (· - 1))) (lastOf (some c) left) right after := by
  rw [matches_repeated_iff]
  constructor
  · rintro ⟨count, enough, notTooMany, inRow⟩
    obtain ⟨skipped, more, left, right, rfl, maySkip, split, matchesBody, matchesRest⟩ := inRow_cons_iff.1 inRow
    refine ⟨fun bound isBound => ?_, left, right, split, matchesBody, matches_of_inRow ?_ ?_ matchesRest⟩
    · have := notTooMany bound isBound
      omega
    · by_cases matchesEmpty : body.Matches before [] (c :: part ++ after)
      · rw [skips matchesEmpty]
        exact Nat.zero_le more
      · have noneSkipped := maySkip.resolve_right matchesEmpty
        rw [owes matchesEmpty]
        omega
    · intro bound isBound
      obtain ⟨greater, isGreater, rfl⟩ := Option.map_eq_some_iff.1 isBound
      have := notTooMany greater isGreater
      omega
  · rintro ⟨within, left, right, split, matchesBody, matchesRest⟩
    obtain ⟨more, enough, notTooMany, inRow⟩ := inRow_of_matches matchesRest
    have bounded (bound : Nat) (isBound : bound ∈ most) : more + 1 ≤ bound := by
      have := notTooMany (bound - 1) (Option.map_eq_some_iff.2 ⟨bound, isBound, rfl⟩)
      have := (within bound isBound).1
      omega
    by_cases matchesEmpty : body.Matches before [] (c :: part ++ after)
    · refine ⟨least - 1 - more + 1 + more, by omega, fun bound isBound => ?_, ?_⟩
      · have := bounded bound isBound
        have := (within bound isBound).2
        omega
      · exact inRow_cons_iff.2
          ⟨least - 1 - more, more, left, right, rfl, .inr matchesEmpty, split, matchesBody, inRow⟩
    · rw [owes matchesEmpty] at enough
      refine ⟨0 + 1 + more, by omega, fun bound isBound => ?_, ?_⟩
      · have := bounded bound isBound
        omega
      · exact inRow_cons_iff.2 ⟨0, more, left, right, rfl, .inl rfl, split, matchesBody, inRow⟩

theorem exists_remaining_iff (pattern : Pattern) (before : Option Char) (c : Char) (part after : List Char) :
    (∃ next ∈ pattern.remaining ⟨before, some c⟩ c, next.Matches (some c) part after) ↔
      pattern.Matches before (c :: part) after := by
  induction pattern generalizing part after with
  | empty =>
      rw [matches_empty_iff]
      exact ⟨fun ⟨_, impossible, _⟩ => (nomatch impossible), nofun⟩
  | look condition =>
      rw [matches_look_iff]
      exact ⟨fun ⟨_, impossible, _⟩ => (nomatch impossible), fun both => nomatch both.1⟩
  | one set =>
      rw [matches_one_iff, remaining]
      constructor
      · rintro ⟨next, isNext, isMatch⟩
        split at isNext
        · rename_i isMember
          obtain rfl := List.mem_singleton.1 isNext
          rw [matches_empty_iff.1 isMatch]
          exact ⟨c, rfl, isMember⟩
        · cases isNext
      · rintro ⟨d, same, isMember⟩
        obtain ⟨rfl, rfl⟩ := List.cons.inj same
        rw [if_pos isMember]
        exact ⟨.empty, List.mem_singleton_self _, .empty _ _⟩
  | seq first second ihFirst ihSecond =>
      have inFirst : (∃ next ∈ (first.remaining ⟨before, some c⟩ c).map (·.followedBy second),
          next.Matches (some c) part after) ↔
          ∃ left right, part = left ++ right ∧ first.Matches before (c :: left) (right ++ after) ∧
            second.Matches (lastOf (some c) left) right after := by
        simp only [exists_followedBy_iff, ihFirst]
      have finishesFirst : first.finishes ⟨before, some c⟩ = true ↔ first.Matches before [] (c :: part ++ after) :=
        finishes_iff first before (c :: part ++ after)
      rw [matches_seq_cons_iff, ← inFirst, ← ihSecond, ← finishesFirst, remaining]
      split
      · rename_i isFinished
        simp only [List.mem_append, or_and_right, exists_or]
        rw [and_iff_right isFinished]
      · rename_i notFinished
        exact (or_iff_left fun both => notFinished both.1).symm
  | either left right ihLeft ihRight =>
      rw [matches_either_iff, ← ihLeft, ← ihRight, remaining]
      simp only [List.mem_append, or_and_right, exists_or]
  | repeated body least most ih =>
      have finishesBody : body.finishes ⟨before, some c⟩ = true ↔ body.Matches before [] (c :: part ++ after) :=
        finishes_iff body before (c :: part ++ after)
      have skips : body.Matches before [] (c :: part ++ after) →
          (if body.finishes ⟨before, some c⟩ then 0 else least - 1) = 0 :=
        fun matchesEmpty => if_pos (finishesBody.2 matchesEmpty)
      have owes : ¬ body.Matches before [] (c :: part ++ after) →
          (if body.finishes ⟨before, some c⟩ then 0 else least - 1) = least - 1 :=
        fun noEmpty => if_neg fun isFinished => noEmpty (finishesBody.1 isFinished)
      rw [matches_repeated_cons_iff body least most c skips owes, remaining]
      have within : ¬ (most == some 0 || most.any (· < least)) = true ↔
          ∀ bound ∈ most, 0 < bound ∧ least ≤ bound := by
        cases most with
        | none => simp
        | some bound =>
            simp only [Bool.or_eq_true, beq_iff_eq, Option.some.injEq, Option.any_some, decide_eq_true_iff,
              Option.mem_some]
            constructor
            · rintro allowed _ rfl
              omega
            · intro each
              have := each bound rfl
              omega
      split
      · rename_i excluded
        exact ⟨fun ⟨_, impossible, _⟩ => (nomatch impossible), fun both => absurd excluded (within.2 both.1)⟩
      · rename_i allowed
        rw [and_iff_right (within.1 allowed), exists_followedBy_iff]
        simp only [ih]

/-! ### Searches -/

def MatchesAhead (pattern : Pattern) (before : Option Char) (text : List Char) : Prop :=
  ∃ part right, text = part ++ right ∧ pattern.Matches before part right

/-- The pattern matches a part of the text, where `before` is the character in front of the text. -/
def OccursBehind (pattern : Pattern) (before : Option Char) (text : List Char) : Prop :=
  ∃ left right, text = left ++ right ∧ pattern.MatchesAhead (lastOf before left) right

theorem occursBehind_none_iff (pattern : Pattern) (text : List Char) :
    pattern.OccursBehind none text ↔ pattern.Occurs text := by
  constructor
  · rintro ⟨left, _, rfl, part, right, rfl, isMatch⟩
    exact ⟨left, part, right, (List.append_assoc _ _ _).symm, isMatch⟩
  · rintro ⟨left, part, right, rfl, isMatch⟩
    exact ⟨left, part ++ right, List.append_assoc _ _ _, part, right, rfl, isMatch⟩

theorem matchesAhead_nil_iff (pattern : Pattern) :
    pattern.MatchesAhead before [] ↔ pattern.finishes ⟨before, none⟩ = true := by
  have finished := finishes_iff pattern before []
  rw [List.head?_nil] at finished
  rw [finished]
  constructor
  · rintro ⟨part, right, isEmpty, isMatch⟩
    obtain ⟨rfl, rfl⟩ := List.append_eq_nil_iff.1 isEmpty.symm
    exact isMatch
  · intro isMatch
    exact ⟨[], [], rfl, isMatch⟩

theorem matchesAhead_cons_iff (pattern : Pattern) (c : Char) (text : List Char) :
    pattern.MatchesAhead before (c :: text) ↔
      pattern.finishes ⟨before, some c⟩ = true ∨
        ∃ next ∈ pattern.remaining ⟨before, some c⟩ c, next.MatchesAhead (some c) text := by
  have finished := finishes_iff pattern before (c :: text)
  rw [List.head?_cons] at finished
  rw [finished]
  constructor
  · rintro ⟨part, right, split, isMatch⟩
    cases part with
    | nil =>
        obtain rfl : c :: text = right := split
        exact .inl isMatch
    | cons d part =>
        obtain ⟨rfl, rfl⟩ := List.cons.inj split
        obtain ⟨next, isNext, matchesNext⟩ := (exists_remaining_iff pattern before c part right).2 isMatch
        exact .inr ⟨next, isNext, part, right, rfl, matchesNext⟩
  · rintro (isMatch | ⟨next, isNext, part, right, rfl, matchesNext⟩)
    · exact ⟨[], c :: text, rfl, isMatch⟩
    · exact ⟨c :: part, right, rfl,
        (exists_remaining_iff pattern before c part right).1 ⟨next, isNext, matchesNext⟩⟩

theorem occursBehind_nil_iff (pattern : Pattern) :
    pattern.OccursBehind before [] ↔ pattern.MatchesAhead before [] := by
  constructor
  · rintro ⟨left, right, isEmpty, ahead⟩
    obtain ⟨rfl, rfl⟩ := List.append_eq_nil_iff.1 isEmpty.symm
    exact ahead
  · intro ahead
    exact ⟨[], [], rfl, ahead⟩

theorem occursBehind_cons_iff (pattern : Pattern) (c : Char) (text : List Char) :
    pattern.OccursBehind before (c :: text) ↔
      pattern.MatchesAhead before (c :: text) ∨ pattern.OccursBehind (some c) text := by
  constructor
  · rintro ⟨left, right, split, ahead⟩
    cases left with
    | nil =>
        obtain rfl : c :: text = right := split
        exact .inl ahead
    | cons d left =>
        obtain ⟨rfl, rfl⟩ := List.cons.inj split
        exact .inr ⟨left, right, rfl, ahead⟩
  · rintro (ahead | ⟨left, right, rfl, ahead⟩)
    · exact ⟨[], c :: text, rfl, ahead⟩
    · exact ⟨c :: left, right, rfl, ahead⟩

/-- A search finds what a pending pattern matches at once, and what the start pattern matches anywhere. -/
theorem search_iff (start : Pattern) (pending : List Pattern) (before : Option Char) (text : List Char) :
    search start pending before text = true ↔
      (∃ pattern ∈ pending, pattern.MatchesAhead before text) ∨ start.OccursBehind before text := by
  induction text generalizing pending before with
  | nil =>
      rw [search, List.any_eq_true, occursBehind_nil_iff]
      simp only [← matchesAhead_nil_iff, List.mem_cons, exists_eq_or_imp]
      exact or_comm
  | cons c text ih =>
      rw [search, Bool.or_eq_true, ih, List.any_eq_true, occursBehind_cons_iff, ← or_assoc, ← or_assoc]
      apply or_congr_left
      simp only [mem_distinct, List.mem_flatMap, matchesAhead_cons_iff]
      constructor
      · rintro (⟨pattern, isPattern, finished⟩ | ⟨next, ⟨pattern, isPattern, isNext⟩, ahead⟩)
        · rcases List.mem_cons.1 isPattern with rfl | isPending
          · exact .inr (.inl finished)
          · exact .inl ⟨pattern, isPending, .inl finished⟩
        · rcases List.mem_cons.1 isPattern with rfl | isPending
          · exact .inr (.inr ⟨next, isNext, ahead⟩)
          · exact .inl ⟨pattern, isPending, .inr ⟨next, isNext, ahead⟩⟩
      · rintro (⟨pattern, isPending, finished | ⟨next, isNext, ahead⟩⟩ | finished | ⟨next, isNext, ahead⟩)
        · exact .inl ⟨pattern, List.mem_cons_of_mem start isPending, finished⟩
        · exact .inr ⟨next, ⟨pattern, List.mem_cons_of_mem start isPending, isNext⟩, ahead⟩
        · exact .inl ⟨start, List.mem_cons_self, finished⟩
        · exact .inr ⟨next, ⟨start, List.mem_cons_self, isNext⟩, ahead⟩

/-- The search decides whether a pattern occurs in a text. -/
theorem occursIn_iff (pattern : Pattern) (text : List Char) :
    pattern.occursIn text = true ↔ pattern.Occurs text := by
  rw [occursIn, search_iff, ← occursBehind_none_iff]
  exact or_iff_right fun ⟨_, impossible, _⟩ => nomatch impossible

end TemplateLint.Regex.Pattern
