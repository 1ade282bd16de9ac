import TemplateLint.Proofs.Text.Utf8
import TemplateLint.Text.Percent

set_option autoImplicit false

/-!
Percent coding as a writer may use it.

A text has many spellings: any of its characters may stand for itself or be escaped, with the digits of every
byte in either case.  Only the percent sign has to be escaped.  Every spelling is read as the text, and what is
written here is one of them.
-/

namespace TemplateLint.Text.Percent

def digitsFor (n : Nat) : List Char :=
  ("0123456789abcdef".toList[n]?).toList ++ ("0123456789ABCDEF".toList[n]?).toList

inductive Escapes : List UInt8 → List Char → Prop where
  | nil : Escapes [] []
  | cons {b : UInt8} {bytes : List UInt8} {high low : Char} {text : List Char}
      (highDigit : high ∈ digitsFor (b.toNat / 16)) (lowDigit : low ∈ digitsFor (b.toNat % 16))
      (others : Escapes bytes text) : Escapes (b :: bytes) ('%' :: high :: low :: text)

/-- The spellings of a text.  A character is escaped with all its bytes or with none. -/
inductive Spells : List Char → List Char → Prop where
  | nil : Spells [] []
  | plain {c : Char} {text spelling : List Char} (notPercent : c ≠ '%') (others : Spells text spelling) :
      Spells (c :: text) (c :: spelling)
  | escaped {c : Char} {text escape spelling : List Char} (escapes : Escapes (String.utf8EncodeChar c) escape)
      (others : Spells text spelling) : Spells (c :: text) (escape ++ spelling)

/-! ### Reading a spelling -/

theorem digitValue?_of_mem {n : Nat} (small : n < 16) {c : Char} (isDigit : c ∈ digitsFor n) :
    ∃ b, Utf8.encode [c] = [b] ∧ digitValue? b = some (UInt8.ofNat n) := by
  have digits : ∀ n : Fin 16, (digitsFor n.val).map (fun c => (Utf8.encode [c]).map digitValue?) =
      List.replicate 2 [some (UInt8.ofNat n.val)] := by
    decide +kernel
  have isValue := List.mem_map_of_mem (f := fun c => (Utf8.encode [c]).map digitValue?) isDigit
  rw [digits ⟨n, small⟩] at isValue
  obtain ⟨b, shape, value⟩ := List.map_eq_singleton_iff.1 (List.eq_of_mem_replicate isValue)
  exact ⟨b, shape, value⟩

theorem ofNat_halves (b : UInt8) : UInt8.ofNat (b.toNat / 16) * 16 + UInt8.ofNat (b.toNat % 16) = b := by
  have bound : b.toNat < 256 := b.toNat_lt
  apply UInt8.toNat_inj.1
  rw [UInt8.toNat_add, UInt8.toNat_mul, UInt8.toNat_ofNat', UInt8.toNat_ofNat']
  change (b.toNat / 16 % 256 * 16 % 256 + b.toNat % 16 % 256) % 256 = b.toNat
  omega

theorem decode_escape {b : UInt8} {high low : Char} (highDigit : high ∈ digitsFor (b.toNat / 16))
    (lowDigit : low ∈ digitsFor (b.toNat % 16)) (rest : List UInt8) :
    decode (Utf8.encode ['%', high, low] ++ rest) = b :: decode rest := by
  have bound : b.toNat < 256 := b.toNat_lt
  obtain ⟨highByte, highShape, highValue⟩ := digitValue?_of_mem (show b.toNat / 16 < 16 by omega) highDigit
  obtain ⟨lowByte, lowShape, lowValue⟩ := digitValue?_of_mem (show b.toNat % 16 < 16 by omega) lowDigit
  have shape : Utf8.encode ['%', high, low] = [0x25, highByte, lowByte] := by
    have parts := Utf8.encode_append ['%', high] [low]
    have front := Utf8.encode_append ['%'] [high]
    rw [highShape] at front
    rw [lowShape] at parts
    exact parts.trans (congrArg (· ++ [lowByte]) front)
  have value : pair? highByte lowByte = some b := by
    rw [pair?, highValue, lowValue]
    exact congrArg some (ofNat_halves b)
  rw [shape, List.cons_append, List.cons_append, List.cons_append, List.nil_append, decode, value]

theorem decode_of_escapes {bytes : List UInt8} {text : List Char} (escapes : Escapes bytes text)
    (rest : List UInt8) : decode (Utf8.encode text ++ rest) = bytes ++ decode rest := by
  induction escapes with
  | nil => rfl
  | @cons b bytes high low text highDigit lowDigit others ih =>
      have first := Utf8.encode_append ['%', high, low] text
      rw [List.cons_append, List.cons_append, List.cons_append, List.nil_append] at first
      rw [first, List.append_assoc, decode_escape highDigit lowDigit, ih, List.cons_append]

theorem decode_cons_of_ne {b : UInt8} (notPercent : b ≠ 0x25) (rest : List UInt8) :
    decode (b :: rest) = b :: decode rest := by
  rw [decode.eq_def]
  split
  · next same => cases same
  · next same =>
      cases same
      exact absurd rfl notPercent
  · next same =>
      cases same
      rfl

theorem decode_append_of_notMem {front : List UInt8} (noPercent : 0x25 ∉ front) (rest : List UInt8) :
    decode (front ++ rest) = front ++ decode rest := by
  induction front with
  | nil => rfl
  | cons b others ih =>
      rw [List.mem_cons, not_or] at noPercent
      obtain ⟨isOther, othersFree⟩ := noPercent
      rw [List.cons_append, decode_cons_of_ne (Ne.symm isOther), ih othersFree, List.cons_append]

theorem decode_of_spells {text spelling : List Char} (spelled : Spells text spelling) :
    decode (Utf8.encode spelling) = Utf8.encode text := by
  induction spelled with
  | nil => rfl
  | @plain c text spelling notPercent others ih =>
      -- the percent sign is a single byte, which no other character has among its own
      have noPercent : 0x25 ∉ String.utf8EncodeChar c :=
        fun isIn => notPercent (Utf8.eq_of_mem_encodeChar (d := '%') (by decide) isIn)
      rw [Utf8.encode_cons, Utf8.encode_cons, decode_append_of_notMem noPercent, ih]
  | @escaped c text escape spelling escapes others ih =>
      rw [Utf8.encode_append, decode_of_escapes escapes, ih, Utf8.encode_cons]

/-! ### The spelling that is written -/

theorem digit_mem {n : Nat} (small : n < 16) : digit n ∈ digitsFor n := by
  have digits : ∀ n : Fin 16, digit n.val ∈ digitsFor n.val := by decide
  exact digits ⟨n, small⟩

theorem encode_escapes {bytes : List UInt8} (noPlain : ∀ b ∈ bytes, isPlain b = false) :
    Escapes bytes (encode bytes) := by
  induction bytes with
  | nil => exact .nil
  | cons b others ih =>
      obtain ⟨notPlain, othersNotPlain⟩ := List.forall_mem_cons.1 noPlain
      have bound : b.toNat < 256 := b.toNat_lt
      have written : encodeByte b = ['%', digit (b.toNat / 16), digit (b.toNat % 16)] := by
        rw [encodeByte, notPlain, if_neg Bool.false_ne_true]
      rw [encode, List.flatMap_cons, written]
      exact .cons (digit_mem (by omega)) (digit_mem (by omega)) (ih othersNotPlain)

/-- A byte that needs no escape is a character of its own, which is not the percent sign. -/
theorem encodeChar_of_plain {b : UInt8} (plain : isPlain b = true) :
    b.toNat < 128 ∧ Char.ofNat b.toNat ≠ '%' ∧ (Char.ofNat b.toNat).toNat = b.toNat ∧
      String.utf8EncodeChar (Char.ofNat b.toNat) = [b] := by
  have checked : ∀ n : Fin 256, isPlain (UInt8.ofNat n.val) = true →
      n.val < 128 ∧ Char.ofNat n.val ≠ '%' ∧ (Char.ofNat n.val).toNat = n.val ∧
        String.utf8EncodeChar (Char.ofNat n.val) = [UInt8.ofNat n.val] := by
    decide +kernel
  have ofByte := checked ⟨b.toNat, b.toNat_lt⟩
  rw [UInt8.ofNat_toNat] at ofByte
  exact ofByte plain

/-- What is written for the bytes of a character is the character itself or its escape. -/
theorem Spells.cons_encode {text spelling : List Char} (others : Spells text spelling) (c : Char) :
    Spells (c :: text) (encode (String.utf8EncodeChar c) ++ spelling) := by
  by_cases anyPlain : ∃ b ∈ String.utf8EncodeChar c, isPlain b = true
  · obtain ⟨b, isIn, plain⟩ := anyPlain
    obtain ⟨small, notPercent, number, shape⟩ := encodeChar_of_plain plain
    have same : c = Char.ofNat b.toNat := by
      apply Utf8.eq_of_mem_encodeChar
      · rw [number]
        exact small
      · rw [number, UInt8.ofNat_toNat]
        exact isIn
    have written : encode [b] = [Char.ofNat b.toNat] := by
      rw [encode, List.flatMap_cons, List.flatMap_nil, encodeByte, if_pos plain, List.append_nil]
    rw [same, shape, written]
    exact .plain notPercent others
  · have noPlain : ∀ b ∈ String.utf8EncodeChar c, isPlain b = false := by
      intro b isIn
      cases plain : isPlain b with
      | false => rfl
      | true => exact absurd ⟨b, isIn, plain⟩ anyPlain
    exact .escaped (encode_escapes noPlain) others

end TemplateLint.Text.Percent
