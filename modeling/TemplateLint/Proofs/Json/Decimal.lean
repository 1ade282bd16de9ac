import TemplateLint.Proofs.Json.Spelling

set_option autoImplicit false

/-!
Integers as numerals: the digits of a number are those that JSON may write, and the number is what is read from
them.
-/

namespace TemplateLint.Json.Numeral

/-! ### The digits of a number -/

theorem digitsOf_of_lt {n : Nat} (small : n < 10) : digitsOf n = [n] := by
  have checked : ∀ n : Fin 10, digitsOf n.val = [n.val] := by decide
  exact checked ⟨n, small⟩

theorem digitsOf_of_le {n : Nat} (large : 10 ≤ n) : digitsOf n = digitsOf (n / 10) ++ [n % 10] := by
  have last : [n % 10] = [(n % 10).digitChar].map fun c => c.toNat - 48 := by
    rw [← Nat.toDigits_of_lt_base (Nat.mod_lt n (by decide))]
    exact (digitsOf_of_lt (Nat.mod_lt n (by decide))).symm
  rw [last, digitsOf, Nat.toDigits_of_base_le (by decide) large, List.map_append]
  rfl

theorem digitsOf_digit {n digit : Nat} (isIn : digit ∈ digitsOf n) : digit < 10 := by
  induction n using Nat.strongRecOn with
  | ind n ih =>
      by_cases small : n < 10
      · rw [digitsOf_of_lt small, List.mem_singleton] at isIn
        omega
      · rw [digitsOf_of_le (by omega), List.mem_append, List.mem_singleton] at isIn
        rcases isIn with before | last
        · exact ih (n / 10) (by omega) before
        · omega

theorem digitsOf_ne_nil (n : Nat) : digitsOf n ≠ [] := by
  by_cases small : n < 10
  · rw [digitsOf_of_lt small]
    exact List.cons_ne_nil n []
  · rw [digitsOf_of_le (by omega)]
    exact List.append_ne_nil_of_right_ne_nil _ (List.cons_ne_nil _ [])

theorem head?_digitsOf {n : Nat} (positive : 0 < n) : (digitsOf n).head? ≠ some 0 := by
  induction n using Nat.strongRecOn with
  | ind n ih =>
      by_cases small : n < 10
      · rw [digitsOf_of_lt small]
        intro same
        cases same
        exact Nat.lt_irrefl 0 positive
      · obtain ⟨first, others, shape⟩ := List.exists_cons_of_ne_nil (digitsOf_ne_nil (n / 10))
        have noZero := ih (n / 10) (by omega) (by omega)
        rw [shape] at noZero
        rw [digitsOf_of_le (by omega), shape]
        exact noZero

theorem ofDigits_digitsOf (n : Nat) : ofDigits (digitsOf n) = n := by
  induction n using Nat.strongRecOn with
  | ind n ih =>
      by_cases small : n < 10
      · rw [digitsOf_of_lt small]
        simp only [ofDigits, List.foldl_cons, List.foldl_nil]
        omega
      · have before := ih (n / 10) (by omega)
        rw [ofDigits] at before
        rw [digitsOf_of_le (by omega), ofDigits, List.foldl_append, before]
        simp only [List.foldl_cons, List.foldl_nil]
        omega

theorem ofNat_writable (n : Nat) : (ofNat n).Writable where
  whole := by
    by_cases zero : n = 0
    · subst zero
      exact .inl rfl
    · exact .inr ⟨digitsOf_ne_nil n, head?_digitsOf (Nat.pos_of_ne_zero zero)⟩
  wholeDigits := fun _ isIn => digitsOf_digit isIn
  fractionDigits := nofun
  exponent := nofun

theorem ofInt_writable (n : Int) : (ofInt n).Writable where
  whole := (ofNat_writable n.natAbs).whole
  wholeDigits := fun _ isIn => digitsOf_digit isIn
  fractionDigits := nofun
  exponent := nofun

/-! ### The integer that a numeral writes -/

def integer? (numeral : Numeral) : Option Int :=
  if numeral.fraction = [] ∧ numeral.exponent = none then
    some (if numeral.negative then -(ofDigits numeral.whole : Int) else ofDigits numeral.whole)
  else none

theorem le_absorb (significand : Nat) (digits : List Nat) :
    significand ≤ digits.foldl (fun value digit => value * 10 + digit) significand := by
  induction digits generalizing significand with
  | nil => exact Nat.le_refl _
  | cons digit rest ih => exact Nat.le_trans (by omega) (ih (significand * 10 + digit))

theorem absorb_of_lt (significand : Nat) (digits : List Nat)
    (small : digits.foldl (fun value digit => value * 10 + digit) significand < Nat.pow 2 64) :
    absorb significand digits = (digits.foldl (fun value digit => value * 10 + digit) significand, []) := by
  induction digits generalizing significand with
  | nil => rfl
  | cons digit rest ih =>
      rw [List.foldl_cons] at small ⊢
      have fits : significand * 10 + digit < Nat.pow 2 64 :=
        Nat.lt_of_le_of_lt (le_absorb (significand * 10 + digit) rest) small
      rw [absorb, if_pos fits, ih (significand * 10 + digit) small]

theorem absorb_eq_nil (significand n : Nat) (digits : List Nat) (whole : absorb significand digits = (n, [])) :
    digits.foldl (fun value digit => value * 10 + digit) significand = n := by
  induction digits generalizing significand with
  | nil =>
      cases whole
      rfl
  | cons digit rest ih =>
      rw [absorb] at whole
      split at whole
      · exact ih (significand * 10 + digit) whole
      · cases whole

theorem not_natural_of_float (number : Option Double) (n : Nat) :
    number.map NumberValue.float ≠ some (.natural n) := by
  cases number with
  | none => exact nofun
  | some number => exact nofun

theorem integer?_of_natural {numeral : Numeral} {n : Nat} (isNatural : numeral.value? = some (.natural n)) :
    numeral.integer? = some (n : Int) := by
  unfold value? at isNatural
  split at isNatural
  · next plain =>
      simp only [Bool.and_eq_true, List.isEmpty_iff, Option.isNone_iff_eq_none] at plain
      split at isNatural
      · next m absorbed =>
          have whole : ofDigits numeral.whole = m := absorb_eq_nil 0 m numeral.whole absorbed
          cases sign : numeral.negative with
          | true =>
              rw [sign] at isNatural
              simp only [Bool.not_true, Bool.false_eq_true, if_false] at isNatural
              split at isNatural
              · cases isNatural
              · cases isNatural
          | false =>
              rw [sign] at isNatural
              cases isNatural
              rw [integer?, if_pos plain, sign, whole]
              rfl
      · exact absurd isNatural (not_natural_of_float _ n)
  · exact absurd isNatural (not_natural_of_float _ n)

theorem value?_ofNat {n : Nat} (small : n < Nat.pow 2 64) : (ofNat n).value? = some (.natural n) := by
  have digits : ofDigits (digitsOf n) = n := ofDigits_digitsOf n
  rw [ofDigits] at digits
  have absorbed := absorb_of_lt 0 (digitsOf n) (by rw [digits]; exact small)
  rw [digits] at absorbed
  simp [value?, ofNat, absorbed]

/-- Integers of 64 bits are in range, with and without a sign. -/
theorem exists_value?_ofInt {n : Int} (least : -9223372036854775808 ≤ n)
    (greatest : n < 18446744073709551616) :
    ∃ value, (ofInt n).value? = some value := by
  have digits : ofDigits (digitsOf n.natAbs) = n.natAbs := ofDigits_digitsOf n.natAbs
  rw [ofDigits] at digits
  have bound : Nat.pow 2 64 = 18446744073709551616 := rfl
  have absorbed := absorb_of_lt 0 (digitsOf n.natAbs) (by rw [digits]; omega)
  rw [digits] at absorbed
  simp only [value?, ofInt, absorbed, List.isEmpty_nil, Option.isNone_none, Bool.and_self, if_true]
  by_cases negative : n < 0
  · simp only [negative, decide_true, Bool.not_true, Bool.false_eq_true, if_false]
    by_cases fits : 0 < n.natAbs ∧ n.natAbs ≤ Nat.pow 2 63
    · exact ⟨_, if_pos fits⟩
    · exact ⟨_, if_neg fits⟩
  · simp only [negative, decide_false, Bool.not_false, if_true]
    exact ⟨_, rfl⟩

end Numeral

theorem natBelow?_ofNat {n bound : Nat} (below : n < bound) (fits : bound ≤ Nat.pow 2 64) :
    (Json.ofNat n).natBelow? bound = some n := by
  simp only [natBelow?, Json.ofNat, Numeral.value?_ofNat (Nat.lt_of_lt_of_le below fits), if_pos below]

/-- An integer that is not a natural number below the bound is refused, however many digits it has. -/
theorem natBelow?_of_outside {numeral : Numeral} {n : Int} {bound : Nat} (isInteger : numeral.integer? = some n)
    (outside : n < 0 ∨ (bound : Int) ≤ n) : (Json.number numeral).natBelow? bound = none := by
  rw [natBelow?]
  split
  · next m isNatural =>
      rw [Numeral.integer?_of_natural isNatural] at isInteger
      cases isInteger
      rw [if_neg (by omega)]
  · rfl

end TemplateLint.Json
