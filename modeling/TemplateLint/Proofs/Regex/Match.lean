import TemplateLint.Regex.Pattern

set_option autoImplicit false

/-!
What patterns match, one equation for each kind of pattern.

A repetition matches what its body matches in a row, so its bounds become bounds of a number.
-/

namespace TemplateLint.Regex.Pattern

variable {before : Option Char} {part after : List Char}

/-! ### Matches taken apart -/

theorem matches_empty_iff : Matches .empty before part after ↔ part = [] := by
  constructor
  · intro isMatch
    cases isMatch
    rfl
  · rintro rfl
    exact .empty before after

theorem matches_look_iff (condition : Look) :
    Matches (.look condition) before part after ↔
      part = [] ∧ condition.holds ⟨before, after.head?⟩ = true := by
  constructor
  · intro isMatch
    cases isMatch with
    | look _ _ _ holds => exact ⟨rfl, holds⟩
  · rintro ⟨rfl, holds⟩
    exact .look condition before after holds

theorem matches_one_iff (set : Unicode.CodeSet) :
    Matches (.one set) before part after ↔ ∃ c, part = [c] ∧ set.contains c = true := by
  constructor
  · intro isMatch
    cases isMatch with
    | one _ _ c _ isMember => exact ⟨c, rfl, isMember⟩
  · rintro ⟨c, rfl, isMember⟩
    exact .one set before c after isMember

theorem matches_seq_iff (first second : Pattern) :
    Matches (.seq first second) before part after ↔
      ∃ left right, part = left ++ right ∧ first.Matches before left (right ++ after) ∧
        second.Matches (lastOf before left) right after := by
  constructor
  · intro isMatch
    cases isMatch with
    | seq _ _ _ left right _ matchesFirst matchesSecond =>
        exact ⟨left, right, rfl, matchesFirst, matchesSecond⟩
  · rintro ⟨left, right, rfl, matchesFirst, matchesSecond⟩
    exact .seq first second before left right after matchesFirst matchesSecond

theorem matches_either_iff (left right : Pattern) :
    Matches (.either left right) before part after ↔
      left.Matches before part after ∨ right.Matches before part after := by
  constructor
  · intro isMatch
    cases isMatch with
    | left _ _ _ _ _ matchesOne => exact .inl matchesOne
    | right _ _ _ _ _ matchesOther => exact .inr matchesOther
  · rintro (matchesLeft | matchesRight)
    · exact .left left right before part after matchesLeft
    · exact .right left right before part after matchesRight

/-! ### Repetitions -/

inductive InRow (body : Pattern) : Nat → Option Char → List Char → List Char → Prop where
  | done (before : Option Char) (after : List Char) : InRow body 0 before [] after
  | more (count : Nat) (before : Option Char) (left right after : List Char)
      (matchesBody : body.Matches before left (right ++ after))
      (matchesRest : InRow body count (lastOf before left) right after) :
      InRow body (count + 1) before (left ++ right) after

theorem inRow_zero_iff {body : Pattern} : InRow body 0 before part after ↔ part = [] := by
  constructor
  · intro inRow
    cases inRow
    rfl
  · rintro rfl
    exact .done before after

theorem inRow_succ_iff {body : Pattern} {count : Nat} :
    InRow body (count + 1) before part after ↔
      ∃ left right, part = left ++ right ∧ body.Matches before left (right ++ after) ∧
        InRow body count (lastOf before left) right after := by
  constructor
  · intro inRow
    cases inRow with
    | more _ _ left right _ matchesBody matchesRest => exact ⟨left, right, rfl, matchesBody, matchesRest⟩
  · rintro ⟨left, right, rfl, matchesBody, matchesRest⟩
    exact .more count before left right after matchesBody matchesRest

theorem inRow_of_matches {body : Pattern} {least : Nat} {most : Option Nat}
    (isMatch : Matches (.repeated body least most) before part after) :
    ∃ count, least ≤ count ∧ (∀ bound ∈ most, count ≤ bound) ∧ InRow body count before part after := by
  generalize isPattern : Pattern.repeated body least most = pattern at isMatch
  induction isMatch generalizing least most with
  | finished _ _ before after =>
      cases isPattern
      exact ⟨0, Nat.le_refl 0, fun _ _ => Nat.zero_le _, .done before after⟩
  | again _ _ _ before left right after isAllowed matchesBody _ _ ih =>
      cases isPattern
      obtain ⟨count, enough, notTooMany, inRow⟩ := ih rfl
      refine ⟨count + 1, by omega, ?_, .more count before left right after matchesBody inRow⟩
      rintro bound rfl
      have positive : bound ≠ 0 := fun isZero => isAllowed (congrArg some isZero)
      have below := notTooMany (bound - 1) rfl
      omega
  | _ => cases isPattern

theorem matches_of_inRow {body : Pattern} {least count : Nat} {most : Option Nat} (enough : least ≤ count)
    (notTooMany : ∀ bound ∈ most, count ≤ bound) (inRow : InRow body count before part after) :
    Matches (.repeated body least most) before part after := by
  induction inRow generalizing least most with
  | done before after =>
      rw [Nat.le_zero.1 enough]
      exact .finished body most before after
  | more count before left right after matchesBody _ ih =>
      refine .again body least most before left right after ?_ matchesBody (ih (by omega) ?_)
      · rintro rfl
        have := notTooMany 0 rfl
        omega
      · intro bound isBound
        obtain ⟨greater, rfl, rfl⟩ := Option.map_eq_some_iff.1 isBound
        have := notTooMany greater rfl
        omega

/-- A repetition matches what its body matches in a row, as often as the bounds allow. -/
theorem matches_repeated_iff (body : Pattern) (least : Nat) (most : Option Nat) :
    Matches (.repeated body least most) before part after ↔
      ∃ count, least ≤ count ∧ (∀ bound ∈ most, count ≤ bound) ∧ InRow body count before part after := by
  constructor
  · exact inRow_of_matches
  · rintro ⟨count, enough, notTooMany, inRow⟩
    exact matches_of_inRow enough notTooMany inRow

/-! ### Texts, options and rows of characters -/

theorem contains_single_iff (own c : Char) : (Unicode.CodeSet.single own).contains c = true ↔ c = own := by
  simp only [Unicode.CodeSet.single, Unicode.CodeSet.contains, Unicode.CodeSet.containsCode, List.any_cons,
    List.any_nil, Bool.or_false, Bool.and_eq_true, decide_eq_true_iff]
  constructor
  · rintro ⟨notLess, notGreater⟩
    exact Char.toNat_inj.1 (Nat.le_antisymm notGreater notLess)
  · rintro rfl
    exact ⟨Nat.le_refl _, Nat.le_refl _⟩

theorem matches_single_iff (own : Char) :
    Matches (.one (.single own)) before part after ↔ part = [own] := by
  rw [matches_one_iff]
  simp only [contains_single_iff]
  constructor
  · rintro ⟨c, rfl, rfl⟩
    rfl
  · intro isOwn
    exact ⟨own, isOwn, rfl⟩

theorem matches_literal_iff (text : List Char) : Matches (literal text) before part after ↔ part = text := by
  induction text generalizing before part with
  | nil => exact matches_empty_iff
  | cons c rest ih =>
      rw [literal, matches_seq_iff]
      simp only [matches_single_iff, ih]
      constructor
      · rintro ⟨left, right, rfl, rfl, rfl⟩
        rfl
      · rintro rfl
        exact ⟨[c], rest, rfl, rfl, rfl⟩

theorem matches_optional_iff (body : Pattern) :
    Matches (.optional body) before part after ↔ part = [] ∨ body.Matches before part after := by
  rw [optional, matches_repeated_iff]
  constructor
  · rintro ⟨count, -, atMost, inRow⟩
    have atMostOne : count ≤ 1 := atMost 1 rfl
    match count with
    | 0 => exact .inl (inRow_zero_iff.1 inRow)
    | 1 =>
        obtain ⟨left, right, rfl, matchesBody, matchesRest⟩ := inRow_succ_iff.1 inRow
        obtain rfl := inRow_zero_iff.1 matchesRest
        rw [List.append_nil]
        exact .inr matchesBody
  · rintro (rfl | matchesBody)
    · exact ⟨0, Nat.le_refl 0, fun _ _ => Nat.zero_le _, .done before after⟩
    · refine ⟨1, Nat.zero_le 1, fun bound isBound => Nat.le_of_eq (Option.some.inj isBound), ?_⟩
      exact inRow_succ_iff.2 ⟨part, [], (List.append_nil part).symm, matchesBody, .done _ after⟩

theorem matches_many_one_iff (set : Unicode.CodeSet) :
    Matches (.many (.one set)) before part after ↔ ∀ c ∈ part, set.contains c = true := by
  rw [many, matches_repeated_iff]
  constructor
  · rintro ⟨count, -, -, inRow⟩
    induction inRow with
    | done => exact fun _ impossible => nomatch impossible
    | more count before left right after matchesBody _ ih =>
        obtain ⟨c, rfl, isMember⟩ := (matches_one_iff set).1 matchesBody
        exact List.forall_mem_cons.2 ⟨isMember, ih⟩
  · intro each
    refine ⟨part.length, Nat.zero_le _, fun _ impossible => (nomatch impossible), ?_⟩
    induction part generalizing before with
    | nil => exact .done before after
    | cons c rest ih =>
        obtain ⟨isMember, others⟩ := List.forall_mem_cons.1 each
        exact inRow_succ_iff.2 ⟨[c], rest, rfl, .one set before c _ isMember, ih others⟩

end TemplateLint.Regex.Pattern
