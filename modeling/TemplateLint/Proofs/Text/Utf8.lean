import TemplateLint.Text.Utf8

set_option autoImplicit false

/-!
What is read from the bytes of a text is the text.
-/

namespace TemplateLint.Text.Utf8

theorem toNat_ofNat_of_lt {n : Nat} (small : n < 256) : (UInt8.ofNat n).toNat = n := by
  rw [UInt8.toNat_ofNat', Nat.mod_eq_of_lt small]

theorem isTail_ofNat {n : Nat} (small : n < 64) : isTail (UInt8.ofNat (n + 128)) = true := by
  have value : (UInt8.ofNat (n + 128)).toNat = n + 128 := toNat_ofNat_of_lt (by omega)
  have least : (0x80 : UInt8).toNat = 128 := rfl
  have greatest : (0xBF : UInt8).toNat = 191 := rfl
  simp only [isTail, Bool.and_eq_true, decide_eq_true_eq, UInt8.le_iff_toNat_le, value, least, greatest]
  omega

theorem tailBits_ofNat {n : Nat} (small : n < 64) : tailBits (UInt8.ofNat (n + 128)) = n := by
  have value : (UInt8.ofNat (n + 128)).toNat = n + 128 := toNat_ofNat_of_lt (by omega)
  unfold tailBits
  omega

/-- The second byte of a character is within its bounds unless the character is overlong, a surrogate or too
large. -/
theorem isSecond_ofNat {first n : Nat} (small : n < 64) (notOverlong : first = 0xE0 → 32 ≤ n)
    (notSurrogate : first = 0xED → n < 32) (notOverlongFour : first = 0xF0 → 16 ≤ n)
    (notTooLarge : first = 0xF4 → n < 16) : isSecond first (UInt8.ofNat (n + 128)) = true := by
  rw [isSecond, Bool.and_eq_true, decide_eq_true_eq, decide_eq_true_eq, toNat_ofNat_of_lt (by omega)]
  unfold secondBounds
  split
  · exact ⟨by omega, by omega⟩
  split
  · exact ⟨by omega, by omega⟩
  split
  · exact ⟨by omega, by omega⟩
  split
  · exact ⟨by omega, by omega⟩
  · exact ⟨by omega, by omega⟩

theorem next_encodeChar (c : Char) (rest : List UInt8) :
    ∃ first others, String.utf8EncodeChar c = first :: others ∧
      next first (others ++ rest) = (some c, rest) := by
  have valid := c.valid
  simp only [UInt32.isValidChar, Nat.isValidChar] at valid
  have whole : Char.ofNat c.val.toNat = c := Char.ofNat_toNat c
  unfold String.utf8EncodeChar
  dsimp only
  generalize c.val.toNat = v at valid whole ⊢
  -- one case for each number of bytes; its bounds exclude what a second byte must not be
  split
  · refine ⟨_, _, rfl, ?_⟩
    unfold next
    simp only [toNat_ofNat_of_lt (show v < 256 by omega)]
    rw [if_pos (by omega), whole]
    rfl
  split
  · refine ⟨_, _, rfl, ?_⟩
    unfold next
    simp only [toNat_ofNat_of_lt (show v / 64 % 32 + 192 < 256 by omega), List.cons_append, List.nil_append,
      isTail_ofNat (show v % 64 < 64 by omega), tailBits_ofNat (show v % 64 < 64 by omega), if_true]
    have value : (v / 64 % 32 + 192 - 192) * 64 + v % 64 = v := by omega
    rw [if_neg (by omega), if_neg (by omega), if_pos (by omega), value, whole]
  split
  · refine ⟨_, _, rfl, ?_⟩
    unfold next
    have second : isSecond (v / 4096 % 16 + 224) (UInt8.ofNat (v / 64 % 64 + 128)) = true :=
      isSecond_ofNat (by omega) (by omega) (by omega) (by omega) (by omega)
    simp only [toNat_ofNat_of_lt (show v / 4096 % 16 + 224 < 256 by omega), List.cons_append, List.nil_append,
      second, isTail_ofNat (show v % 64 < 64 by omega), tailBits_ofNat (show v % 64 < 64 by omega),
      tailBits_ofNat (show v / 64 % 64 < 64 by omega), if_true]
    have value : (v / 4096 % 16 + 224 - 224) * 4096 + v / 64 % 64 * 64 + v % 64 = v := by omega
    rw [if_neg (by omega), if_neg (by omega), if_neg (by omega), if_pos (by omega), value, whole]
  · refine ⟨_, _, rfl, ?_⟩
    unfold next
    have second : isSecond (v / 262144 % 8 + 240) (UInt8.ofNat (v / 4096 % 64 + 128)) = true :=
      isSecond_ofNat (by omega) (by omega) (by omega) (by omega) (by omega)
    simp only [toNat_ofNat_of_lt (show v / 262144 % 8 + 240 < 256 by omega), List.cons_append, List.nil_append,
      second, isTail_ofNat (show v % 64 < 64 by omega), isTail_ofNat (show v / 64 % 64 < 64 by omega),
      tailBits_ofNat (show v % 64 < 64 by omega), tailBits_ofNat (show v / 64 % 64 < 64 by omega),
      tailBits_ofNat (show v / 4096 % 64 < 64 by omega), if_true]
    have value :
        (v / 262144 % 8 + 240 - 240) * 262144 + v / 4096 % 64 * 4096 + v / 64 % 64 * 64 + v % 64 = v := by
      omega
    rw [if_neg (by omega), if_neg (by omega), if_neg (by omega), if_neg (by omega), if_pos (by omega), value,
      whole]

theorem encode_cons (c : Char) (rest : List Char) :
    encode (c :: rest) = String.utf8EncodeChar c ++ encode rest :=
  List.flatMap_cons

theorem encode_append (left right : List Char) : encode (left ++ right) = encode left ++ encode right :=
  List.flatMap_append

/-- A character below 128 has one byte, and no other character has this byte among its own. -/
theorem eq_of_mem_encodeChar {c d : Char} (small : d.toNat < 128)
    (isIn : UInt8.ofNat d.toNat ∈ String.utf8EncodeChar c) : c = d := by
  have valid := c.valid
  simp only [UInt32.isValidChar, Nat.isValidChar] at valid
  have bytesDiffer {n : Nat} (large : 128 ≤ n) (bound : n < 256) : UInt8.ofNat d.toNat ≠ UInt8.ofNat n := by
    intro same
    have sameNumber := congrArg UInt8.toNat same
    rw [toNat_ofNat_of_lt (by omega), toNat_ofNat_of_lt bound] at sameNumber
    omega
  unfold String.utf8EncodeChar at isIn
  dsimp only at isIn
  split at isIn
  · next isOne =>
      have same := congrArg UInt8.toNat (List.mem_singleton.1 isIn)
      rw [toNat_ofNat_of_lt (by omega), toNat_ofNat_of_lt (by omega)] at same
      exact Char.toNat_inj.1 same.symm
  split at isIn
  · simp only [List.mem_cons, List.not_mem_nil, or_false] at isIn
    rcases isIn with isFirst | isSecond
    · exact absurd isFirst (bytesDiffer (by omega) (by omega))
    · exact absurd isSecond (bytesDiffer (by omega) (by omega))
  split at isIn
  · simp only [List.mem_cons, List.not_mem_nil, or_false] at isIn
    rcases isIn with isFirst | isSecond | isThird
    · exact absurd isFirst (bytesDiffer (by omega) (by omega))
    · exact absurd isSecond (bytesDiffer (by omega) (by omega))
    · exact absurd isThird (bytesDiffer (by omega) (by omega))
  · simp only [List.mem_cons, List.not_mem_nil, or_false] at isIn
    rcases isIn with isFirst | isSecond | isThird | isFourth
    · exact absurd isFirst (bytesDiffer (by omega) (by omega))
    · exact absurd isSecond (bytesDiffer (by omega) (by omega))
    · exact absurd isThird (bytesDiffer (by omega) (by omega))
    · exact absurd isFourth (bytesDiffer (by omega) (by omega))

/-- The first character that is read from a text is its first one. -/
theorem next_encode_cons (c : Char) (rest : List Char) :
    ∃ first others, encode (c :: rest) = first :: others ∧ next first others = (some c, encode rest) := by
  obtain ⟨first, others, bytes, read⟩ := next_encodeChar c (encode rest)
  refine ⟨first, others ++ encode rest, ?_, read⟩
  rw [encode_cons, bytes, List.cons_append]

theorem decode?_encode (text : List Char) : decode? (encode text) = some text := by
  induction text with
  | nil => rw [encode, List.flatMap_nil, decode?]
  | cons c rest ih =>
      obtain ⟨first, others, shape, read⟩ := next_encode_cons c rest
      rw [shape, decode?, read]
      dsimp only
      rw [ih]
      rfl

theorem decodeLossy_encode (text : List Char) : decodeLossy (encode text) = text := by
  induction text with
  | nil => rw [encode, List.flatMap_nil, decodeLossy]
  | cons c rest ih =>
      obtain ⟨first, others, shape, read⟩ := next_encode_cons c rest
      rw [shape, decodeLossy, read]
      dsimp only
      rw [ih]
      rfl

end TemplateLint.Text.Utf8
