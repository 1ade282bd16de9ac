import TemplateLint.Text.Utf8

set_option autoImplicit false

/-!
The order of texts by their UTF-8 bytes is the order by their characters.
-/

namespace TemplateLint.Text.Utf8

private theorem ofNat_cons_lt_iff (a b : Nat) (left right : List UInt8) (aBound : a < 256) (bBound : b < 256) :
    UInt8.ofNat a :: left < UInt8.ofNat b :: right ↔ a < b ∨ a = b ∧ left < right := by
  rw [List.cons_lt_cons_iff, UInt8.lt_iff_toNat_lt, ← UInt8.toNat_inj, UInt8.toNat_ofNat', UInt8.toNat_ofNat',
    Nat.mod_eq_of_lt aBound, Nat.mod_eq_of_lt bBound]

/-- A code point put together from the groups of bits that its bytes carry. -/
private theorem bit_groups (n : Nat) (small : n < 0x110000) :
    n = 262144 * (n / 262144 % 8) + 4096 * (n / 4096 % 64) + 64 * (n / 64 % 64) + n % 64 := by
  omega

/-- The bytes of two different characters differ before either ends, and the smaller character has the smaller
byte there. -/
theorem encodeChar_append_lt (c d : Char) (left right : List UInt8) (below : c < d) :
    String.utf8EncodeChar c ++ left < String.utf8EncodeChar d ++ right := by
  have order : c.val.toNat < d.val.toNat := below
  have bound : d.val.toNat < 0x110000 := by
    have valid := d.valid
    simp only [UInt32.isValidChar, Nat.isValidChar] at valid
    omega
  simp only [String.utf8EncodeChar]
  generalize c.val.toNat = v at order
  generalize d.val.toNat = w at order bound
  have groupsOfV := bit_groups v (by omega)
  have groupsOfW := bit_groups w bound
  -- of the sixteen pairs of lengths those remain in which the smaller character is not the longer one
  repeat' split
  all_goals simp (disch := omega) only [List.cons_append, List.nil_append, ofNat_cons_lt_iff]
  all_goals omega

theorem encode_lt_of_lt (left right : List Char) (below : left < right) : encode left < encode right := by
  induction below with
  | nil =>
      rename_i d rest
      have someBytes := String.utf8EncodeChar_ne_nil (c := d)
      cases encoded : String.utf8EncodeChar d with
      | nil => exact absurd encoded someBytes
      | cons first others =>
          simp only [encode, List.flatMap_nil, List.flatMap_cons, encoded]
          exact List.Lex.nil
  | rel smaller => exact encodeChar_append_lt _ _ _ _ smaller
  | cons _ ih => exact List.append_left_lt ih

/-- Strings are ordered as their UTF-8 bytes are. -/
theorem bytes_lt_iff (left right : String) : bytes left < bytes right ↔ left < right := by
  constructor
  · intro below
    apply Decidable.byContradiction
    intro isNotBelow
    by_cases same : left = right
    · subst same
      exact List.lt_irrefl _ below
    · have above : right < left := by
        apply Decidable.byContradiction
        intro isNotAbove
        exact same (String.le_antisymm (String.not_lt.1 isNotAbove) (String.not_lt.1 isNotBelow))
      exact List.lt_asymm below (encode_lt_of_lt _ _ above)
  · intro below
    exact encode_lt_of_lt _ _ below

end TemplateLint.Text.Utf8
