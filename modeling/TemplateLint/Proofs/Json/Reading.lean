import Mathlib.Data.List.Chain
import Mathlib.Data.List.TakeWhile
import TemplateLint.Proofs.Json.Spelling

set_option autoImplicit false

/-!
Every text of a document is read as that document.

The tokenizer undoes the spelling of each token, and the machine behind it puts the tokens of a document together
again, whatever arrays and objects are open around it.
-/

namespace TemplateLint.Json.Reader

/-! ### String literals -/

theorem hexDigit?_of_mem {value : Nat} (bound : value < 16) {c : Char} (spelled : c ∈ hexDigits value) :
    hexDigit? c = some value := by
  have checked : ∀ value : Fin 16, (hexDigits value.val).all (hexDigit? · == some value.val) = true := by decide
  exact eq_of_beq (List.all_eq_true.1 (checked ⟨value, bound⟩) c spelled)

theorem literal_of_piece {piece : Piece} {text : List Char} (spelled : PieceSpelling piece text)
    (rest : List Char) :
    literal (text ++ rest) = (literal rest).map fun (pieces, after) => (piece :: pieces, after) := by
  cases spelled with
  | plain c notControl notQuote notBackslash =>
      simp [literal, notBackslash, Nat.not_lt.2 notControl]
  | letter e c names =>
      simp only [letterEscapes, List.mem_cons, Prod.mk.injEq, List.not_mem_nil, or_false] at names
      rcases names with ⟨rfl, rfl⟩ | ⟨rfl, rfl⟩ | ⟨rfl, rfl⟩ | ⟨rfl, rfl⟩ | ⟨rfl, rfl⟩ | ⟨rfl, rfl⟩ | ⟨rfl, rfl⟩ |
        ⟨rfl, rfl⟩ <;> rfl
  | unit i j k l bounds a b c d digits =>
      obtain ⟨isI, isJ, isK, isL⟩ := digits
      have read : unit? a b c d = some (i * 4096 + j * 256 + k * 16 + l) := by
        simp only [unit?, hexDigit?_of_mem bounds.1 isI, hexDigit?_of_mem bounds.2.1 isJ,
          hexDigit?_of_mem bounds.2.2.1 isK, hexDigit?_of_mem bounds.2.2.2 isL]
      simp only [List.cons_append, List.nil_append, literal, read]

theorem literal_of_body {pieces : List Piece} {body : List Char} (spelled : BodySpelling pieces body)
    (rest : List Char) : literal (body ++ '"' :: rest) = some (pieces, rest) := by
  induction spelled with
  | nil => rfl
  | cons first others ih => rw [List.append_assoc, literal_of_piece first, ih, Option.map_some]

theorem characters_of_denotes {pieces : List Piece} {text : List Char} (denotes : Denotes pieces text) :
    characters pieces = some text := by
  induction denotes with
  | nil => rfl
  | char c others ih => rw [characters, ih, Option.map_some]
  | unit n alone others ih =>
      have outside : n < 0xD800 ∨ 0xE000 ≤ n := by
        unfold isSurrogate at alone
        omega
      rename_i pieces text
      cases pieces with
      | nil => rw [characters, if_pos outside, ih, Option.map_some]; exact nofun
      | cons piece others =>
          cases piece with
          | char c => rw [characters, if_pos outside, ih, Option.map_some]; exact nofun
          | unit m => rw [characters, if_pos outside, ih, Option.map_some]
  | pair high low isHigh isLow others ih =>
      have inside : ¬(high < 0xD800 ∨ 0xE000 ≤ high) := by omega
      have together : high < 0xDC00 ∧ 0xDC00 ≤ low ∧ low < 0xE000 := by omega
      rw [characters, if_neg inside, if_pos together, ih, Option.map_some]

theorem denotes_of_characters {pieces : List Piece} {text : List Char}
    (found : characters pieces = some text) : Denotes pieces text := by
  fun_induction characters pieces generalizing text with
  | case1 =>
      cases found
      exact .nil
  | case2 c rest ih =>
      obtain ⟨others, known, rfl⟩ := Option.map_eq_some_iff.1 found
      exact .char c (ih known)
  | case3 high low rest outside ih =>
      obtain ⟨others, known, rfl⟩ := Option.map_eq_some_iff.1 found
      exact .unit high (by unfold isSurrogate; omega) (ih known)
  | case4 high low rest inside together ih =>
      obtain ⟨others, known, rfl⟩ := Option.map_eq_some_iff.1 found
      exact .pair high low (by omega) (by omega) (ih known)
  | case5 => cases found
  | case6 n rest notBeforeUnit outside ih =>
      obtain ⟨others, known, rfl⟩ := Option.map_eq_some_iff.1 found
      exact .unit n (by unfold isSurrogate; omega) (ih known)
  | case7 => cases found

theorem characters_of_hasText {pieces : List Piece} {text : Option String} (means : HasText pieces text) :
    (characters pieces).map String.ofList = text := by
  cases text with
  | some text =>
      rw [characters_of_denotes means, Option.map_some, String.ofList_toList]
  | none =>
      cases found : characters pieces with
      | none => rfl
      | some text => exact absurd (denotes_of_characters found) (means text)

/-! ### Numbers -/

theorem isDigit_digitChar {digit : Nat} (bound : digit < 10) : (Numeral.digitChar digit).isDigit = true := by
  have checked : ∀ digit : Fin 10, (Numeral.digitChar digit.val).isDigit = true := by decide
  exact checked ⟨digit, bound⟩

theorem toNat_digitChar {digit : Nat} (bound : digit < 10) : (Numeral.digitChar digit).toNat - 48 = digit := by
  have checked : ∀ digit : Fin 10, (Numeral.digitChar digit.val).toNat - 48 = digit.val := by decide
  exact checked ⟨digit, bound⟩

def NoDigitFirst (text : List Char) : Prop :=
  ∀ c ∈ text.head?, c.isDigit = false

theorem digits_of_text (written : List Nat) (bound : ∀ digit ∈ written, digit < 10) {rest : List Char}
    (ends : NoDigitFirst rest) : digits (digitsText written ++ rest) = (written, rest) := by
  have areDigits : ∀ c ∈ digitsText written, c.isDigit = true := by
    intro c isIn
    obtain ⟨digit, isWritten, rfl⟩ := List.mem_map.1 isIn
    exact isDigit_digitChar (bound digit isWritten)
  have values : (digitsText written).map (fun c => c.toNat - 48) = written := by
    rw [digitsText, List.map_map]
    exact (List.map_congr_left fun digit isWritten => toNat_digitChar (bound digit isWritten)).trans
      (List.map_id written)
  have stops : rest.takeWhile Char.isDigit = [] ∧ rest.dropWhile Char.isDigit = rest := by
    cases rest with
    | nil => exact ⟨rfl, rfl⟩
    | cons c after =>
        have isOther := ends c rfl
        simp [isOther]
  simp only [digits, List.takeWhile_append_of_pos areDigits, List.dropWhile_append_of_pos areDigits, stops,
    List.append_nil, values]

theorem wholePart_of_text {numeral : Numeral} (writable : numeral.Writable) {rest : List Char}
    (ends : NoDigitFirst rest) :
    wholePart (digitsText numeral.whole ++ rest) = some (numeral.whole, rest) := by
  rcases writable.whole with alone | ⟨isSome, noZero⟩
  · rw [alone]
    rfl
  · have read := digits_of_text numeral.whole writable.wholeDigits ends
    obtain ⟨first, others, shape⟩ := List.exists_cons_of_ne_nil isSome
    have firstBound : first < 10 := writable.wholeDigits first (by rw [shape]; exact List.mem_cons_self)
    have notZero : Numeral.digitChar first ≠ '0' := by
      intro same
      have value := toNat_digitChar firstBound
      rw [same] at value
      exact noZero (by rw [shape, ← value]; rfl)
    rw [shape] at read ⊢
    unfold wholePart
    split
    · next zeroFirst => exact absurd (List.cons.inj zeroFirst).1 notZero
    · rw [read]

theorem fractionPart_of_text {fraction : List Nat} (bound : ∀ digit ∈ fraction, digit < 10) {rest : List Char}
    (ends : NoDigitFirst rest) (noPoint : rest.head? ≠ some '.') :
    fractionPart ((if fraction = [] then [] else '.' :: digitsText fraction) ++ rest) =
      some (fraction, rest) := by
  by_cases isEmpty : fraction = []
  · subst isEmpty
    rw [if_pos rfl, List.nil_append]
    unfold fractionPart
    split
    · exact absurd rfl noPoint
    · rfl
  · obtain ⟨first, others, shape⟩ := List.exists_cons_of_ne_nil isEmpty
    rw [if_neg isEmpty, List.cons_append]
    simp only [fractionPart, digits_of_text fraction bound ends]
    rw [shape]

structure EndsNumber (text : List Char) : Prop where
  noDigit : NoDigitFirst text
  noPoint : text.head? ≠ some '.'
  noMark : text.head? ≠ some 'e' ∧ text.head? ≠ some 'E'

theorem noDigit_of_mark {mark : Char} (isMark : mark = 'e' ∨ mark = 'E') (rest : List Char) :
    NoDigitFirst (mark :: rest) ∧ (mark :: rest).head? ≠ some '.' := by
  rcases isMark with rfl | rfl
  · exact ⟨fun c isFirst => by cases isFirst; rfl, nofun⟩
  · exact ⟨fun c isFirst => by cases isFirst; rfl, nofun⟩

/-- A sign is looked for before the digits of an exponent, and a digit is none. -/
theorem head?_digitsText {written : List Nat} (isSome : written ≠ []) (bound : ∀ digit ∈ written, digit < 10)
    (rest : List Char) :
    (digitsText written ++ rest).head? ≠ some '-' ∧ (digitsText written ++ rest).head? ≠ some '+' := by
  obtain ⟨first, others, rfl⟩ := List.exists_cons_of_ne_nil isSome
  have isDigit := isDigit_digitChar (bound first List.mem_cons_self)
  constructor
  · intro same
    rw [Option.some.inj same] at isDigit
    cases isDigit
  · intro same
    rw [Option.some.inj same] at isDigit
    cases isDigit

theorem exponentPart_of_text {exponent : Option (Bool × List Nat)} {text : List Char}
    (spelled : ExponentSpelling exponent text)
    (written : ∀ isDown digits, exponent = some (isDown, digits) →
      digits ≠ [] ∧ ∀ digit ∈ digits, digit < 10)
    {rest : List Char} (ends : EndsNumber rest) :
    exponentPart (text ++ rest) = some (exponent, rest) := by
  cases spelled with
  | absent =>
      cases rest with
      | nil => rfl
      | cons c after =>
          have noMark := ends.noMark
          simp only [List.head?_cons, ne_eq, Option.some.injEq] at noMark
          simp only [exponentPart, List.nil_append, noMark, or_self, if_false]
  | down mark isMark found =>
      obtain ⟨isSome, bound⟩ := written true found rfl
      have read := digits_of_text found bound ends.noDigit
      obtain ⟨first, others, rfl⟩ := List.exists_cons_of_ne_nil isSome
      simp [exponentPart, isMark, read]
  | up mark isMark found =>
      obtain ⟨isSome, bound⟩ := written false found rfl
      have read := digits_of_text found bound ends.noDigit
      have noSign := head?_digitsText isSome bound rest
      rw [List.cons_append]
      generalize digitsText found ++ rest = text at read noSign ⊢
      obtain ⟨first, others, rfl⟩ := List.exists_cons_of_ne_nil isSome
      simp [exponentPart, isMark, read, noSign]
  | plus mark isMark found =>
      obtain ⟨isSome, bound⟩ := written false found rfl
      have read := digits_of_text found bound ends.noDigit
      obtain ⟨first, others, rfl⟩ := List.exists_cons_of_ne_nil isSome
      simp [exponentPart, isMark, read]

theorem numeral_of_text {written : Numeral} (writable : written.Writable) {exponent : List Char}
    (spelled : ExponentSpelling written.exponent exponent) {rest : List Char} (ends : EndsNumber rest) :
    numeral (written.frontText ++ exponent ++ rest) = some (written, rest) := by
  obtain ⟨negative, whole, fraction, power⟩ := written
  have exponentRead := exponentPart_of_text spelled writable.exponent ends
  have exponentEnds : NoDigitFirst (exponent ++ rest) ∧ (exponent ++ rest).head? ≠ some '.' := by
    cases spelled with
    | absent => exact ⟨ends.noDigit, ends.noPoint⟩
    | down mark isMark digits => exact noDigit_of_mark isMark _
    | up mark isMark digits => exact noDigit_of_mark isMark _
    | plus mark isMark digits => exact noDigit_of_mark isMark _
  have fractionRead := fractionPart_of_text writable.fractionDigits exponentEnds.1 exponentEnds.2
  have fractionEnds : NoDigitFirst
      ((if fraction = [] then [] else '.' :: digitsText fraction) ++ (exponent ++ rest)) := by
    split
    · exact exponentEnds.1
    · intro c isFirst
      cases isFirst
      rfl
  have wholeRead := wholePart_of_text writable fractionEnds
  have noSign := head?_digitsText writable.whole_ne_nil writable.wholeDigits
    ((if fraction = [] then [] else '.' :: digitsText fraction) ++ (exponent ++ rest))
  simp only [Numeral.frontText, List.append_assoc]
  generalize digitsText whole ++ _ = text at wholeRead noSign ⊢
  cases negative with
  | true => simp [numeral, wholeRead, fractionRead, exponentRead]
  | false => simp [numeral, wholeRead, fractionRead, exponentRead, noSign]

/-! ### Tokens -/

/-- A number begins with none of the characters that begin something else. -/
theorem notMem_of_numeric {c : Char} (numeric : c = '-' ∨ c.isDigit = true) {others : List Char}
    (checked : others.all (fun d => d != '-' && !d.isDigit) = true) : c ∉ others := by
  intro isIn
  have other := List.all_eq_true.1 checked c isIn
  rw [Bool.and_eq_true, bne_iff_ne, Bool.not_eq_true'] at other
  obtain ⟨noSign, noDigit⟩ := other
  rcases numeric with isSign | isDigit
  · exact noSign isSign
  · rw [noDigit] at isDigit
    cases isDigit

theorem token_of_number {text : List Char} {c : Char} (isFirst : text.head? = some c)
    (numeric : c = '-' ∨ c.isDigit = true) :
    token text = (numeral text).map fun (n, after) => (.number n, after) := by
  have notSpecial : c ∉ ['[', ']', '{', '}', ',', ':', 'n', 't', 'f', '"'] :=
    notMem_of_numeric numeric (by decide)
  unfold token
  split
  all_goals first
    | rfl
    | cases isFirst; exact absurd (by decide) notSpecial

theorem head?_frontText (written : Numeral) (writable : written.Writable) (rest : List Char) :
    ∃ c, (written.frontText ++ rest).head? = some c ∧ (c = '-' ∨ c.isDigit = true) := by
  obtain ⟨first, others, shape⟩ := List.exists_cons_of_ne_nil writable.whole_ne_nil
  have bound : first < 10 := writable.wholeDigits first (by rw [shape]; exact List.mem_cons_self)
  cases sign : written.negative with
  | true => exact ⟨'-', by simp [Numeral.frontText, sign], .inl rfl⟩
  | false =>
      exact ⟨Numeral.digitChar first, by simp [Numeral.frontText, sign, shape, digitsText],
        .inr (isDigit_digitChar bound)⟩

theorem token_of_spelling {written : Token} {text : List Char} (spelled : TokenSpelling written text)
    {rest : List Char} (ends : ∀ n, written = .number n → EndsNumber rest) :
    token (text ++ rest) = some (written, rest) := by
  cases spelled with
  | openArray => rfl
  | closeArray => rfl
  | openObject => rfl
  | closeObject => rfl
  | comma => rfl
  | colon => rfl
  | null => rfl
  | true => rfl
  | false => rfl
  | number numeral writable exponentSpelled =>
      rename_i exponent
      obtain ⟨c, isFirst, numeric⟩ := head?_frontText numeral writable (exponent ++ rest)
      rw [← List.append_assoc] at isFirst
      rw [token_of_number isFirst numeric, numeral_of_text writable exponentSpelled (ends numeral rfl),
        Option.map_some]
  | string means bodySpelled =>
      rename_i text pieces body
      have read := literal_of_body bodySpelled rest
      have meaning := characters_of_hasText means
      simp only [List.cons_append, List.append_assoc, List.nil_append, token, read, Option.map_some, meaning]

/-! ### Sequences of tokens -/

/-- Behind a number a comma or a closing bracket comes next. -/
def MayFollow (first second : Token) : Prop :=
  (∃ n, first = .number n) → second = .comma ∨ second = .closeArray ∨ second = .closeObject

theorem isSpace_of_mem {c : Char} (isBlank : c ∈ blanks) : isSpace c = true := by
  have checked : blanks.all isSpace = true := by decide
  exact List.all_eq_true.1 checked c isBlank

theorem endsNumber_of_head? {text : List Char} {c : Char} (isFirst : text.head? = some c)
    (isOther : c ∈ blanks ∨ c ∈ [',', ']', '}']) : EndsNumber text := by
  have checked : (blanks ++ [',', ']', '}']).all
      (fun d => d.isDigit = false ∧ d ≠ '.' ∧ d ≠ 'e' ∧ d ≠ 'E') = true := by
    decide
  obtain ⟨noDigit, noPoint, noMark⟩ :=
    of_decide_eq_true (List.all_eq_true.1 checked c (List.mem_append.2 isOther))
  refine ⟨?_, ?_, ?_⟩
  · intro d isHead
    rw [isFirst] at isHead
    cases isHead
    exact noDigit
  · rw [isFirst]
    exact fun same => noPoint (Option.some.inj same)
  · rw [isFirst]
    exact ⟨fun same => noMark.1 (Option.some.inj same), fun same => noMark.2 (Option.some.inj same)⟩

theorem endsNumber_nil : EndsNumber [] :=
  ⟨nofun, nofun, nofun, nofun⟩

/-- What stands behind a number begins with a blank, a comma or a closing bracket, if there is anything. -/
theorem endsNumber_of_spelling {n : Numeral} {tokens : List Token} {text : List Char}
    (spelled : Spelling tokens text) (follows : ∀ next ∈ tokens.head?, MayFollow (.number n) next) :
    EndsNumber text := by
  cases spelled with
  | nil space isBlank =>
      cases text with
      | nil => exact endsNumber_nil
      | cons c rest => exact endsNumber_of_head? rfl (.inl (isBlank c List.mem_cons_self))
  | cons space isBlank first others =>
      cases space with
      | cons c more => exact endsNumber_of_head? rfl (.inl (isBlank c List.mem_cons_self))
      | nil =>
          rcases follows _ rfl ⟨n, rfl⟩ with rfl | rfl | rfl
          · cases first
            exact endsNumber_of_head? rfl (.inr (by decide))
          · cases first
            exact endsNumber_of_head? rfl (.inr (by decide))
          · cases first
            exact endsNumber_of_head? rfl (.inr (by decide))

theorem head?_of_token {written : Token} {text : List Char} (spelled : TokenSpelling written text) :
    ∃ c rest, text = c :: rest ∧ isSpace c = false := by
  cases spelled with
  | openArray => exact ⟨_, _, rfl, rfl⟩
  | closeArray => exact ⟨_, _, rfl, rfl⟩
  | openObject => exact ⟨_, _, rfl, rfl⟩
  | closeObject => exact ⟨_, _, rfl, rfl⟩
  | comma => exact ⟨_, _, rfl, rfl⟩
  | colon => exact ⟨_, _, rfl, rfl⟩
  | null => exact ⟨_, _, rfl, rfl⟩
  | true => exact ⟨_, _, rfl, rfl⟩
  | false => exact ⟨_, _, rfl, rfl⟩
  | number numeral writable exponentSpelled =>
      rename_i exponent
      obtain ⟨c, isFirst, numeric⟩ := head?_frontText numeral writable exponent
      obtain ⟨rest, shape⟩ := List.head?_eq_some_iff.1 isFirst
      refine ⟨c, rest, shape, ?_⟩
      have notBlank : c ∉ [' ', '\n', '\t', '\r'] := notMem_of_numeric numeric (by decide)
      apply Bool.eq_false_iff.2
      intro blank
      exact notBlank (by simpa [isSpace, or_assoc] using blank)
  | string means bodySpelled => exact ⟨_, _, rfl, rfl⟩

theorem tokensFrom_of_spelling {tokens : List Token} {text : List Char} (spelled : Spelling tokens text)
    (follow : tokens.IsChain MayFollow) {fuel : Nat} (enough : text.length < fuel) :
    tokensFrom fuel text = some tokens := by
  -- the fuel lasts because no token is spelled by the empty text
  induction spelled generalizing fuel with
  | nil space isBlank =>
      obtain ⟨fuel, rfl⟩ := Nat.exists_eq_succ_of_ne_zero (Nat.ne_zero_of_lt enough)
      have allSpace : ∀ c ∈ space, isSpace c = true := fun c isIn => isSpace_of_mem (isBlank c isIn)
      simp only [tokensFrom, List.dropWhile_eq_nil_iff.2 allSpace]
  | cons space isBlank first others ih =>
      rename_i written word tokens rest
      obtain ⟨fuel, rfl⟩ := Nat.exists_eq_succ_of_ne_zero (Nat.ne_zero_of_lt enough)
      have allSpace : ∀ c ∈ space, isSpace c = true := fun c isIn => isSpace_of_mem (isBlank c isIn)
      obtain ⟨next, restFollow⟩ := List.isChain_cons.1 follow
      obtain ⟨c, more, shape, noSpace⟩ := head?_of_token first
      have read : token (word ++ rest) = some (written, rest) := by
        apply token_of_spelling first
        rintro n rfl
        exact endsNumber_of_spelling others next
      have restRead : tokensFrom fuel rest = some tokens := by
        apply ih restFollow
        rw [shape] at enough
        simp only [List.length_append, List.length_cons] at enough
        omega
      rw [List.append_assoc]
      simp only [tokensFrom, List.dropWhile_append_of_pos allSpace]
      subst shape
      rw [List.cons_append] at read ⊢
      simp only [List.dropWhile_cons, noSpace, Bool.false_eq_true, if_false, read, restRead, Option.map_some]

theorem tokens?_of_spelling {tokens : List Token} {text : List Char} (spelled : Spelling tokens text)
    (follow : tokens.IsChain MayFollow) : tokens? text = some tokens :=
  tokensFrom_of_spelling spelled follow (Nat.lt_succ_self text.length)

/-! ### The tokens of a document -/

theorem mayFollow_of_not_number {first : Token} (noNumber : ∀ n, first ≠ .number n) (second : Token) :
    MayFollow first second :=
  fun ⟨n, same⟩ => absurd same (noNumber n)

theorem isChain_cons_of_not_number {first : Token} (noNumber : ∀ n, first ≠ .number n) {others : List Token}
    (chain : others.IsChain MayFollow) : (first :: others).IsChain MayFollow :=
  List.isChain_cons.2 ⟨fun second _ => mayFollow_of_not_number noNumber second, chain⟩

theorem isChain_keyed (key : Option String) {others : List Token} (chain : others.IsChain MayFollow) :
    (.string key :: .colon :: others).IsChain MayFollow :=
  isChain_cons_of_not_number (by nofun) (isChain_cons_of_not_number (by nofun) chain)

theorem isChain_append_of_head? {first others : List Token} (chain : first.IsChain MayFollow)
    (othersChain : others.IsChain MayFollow)
    (closes : ∃ token ∈ [Token.comma, .closeArray, .closeObject], others.head? = some token) :
    (first ++ others).IsChain MayFollow := by
  refine List.isChain_append.2 ⟨chain, othersChain, ?_⟩
  obtain ⟨token, isCloser, isHead⟩ := closes
  intro before _ next isNext _
  rw [isHead] at isNext
  cases isNext
  simpa using isCloser

theorem head?_itemTokens (items : List Json) :
    ∃ token ∈ [Token.comma, .closeArray, .closeObject], (tokens.itemTokens items).head? = some token := by
  cases items with
  | nil => exact ⟨.closeArray, by decide, rfl⟩
  | cons item rest => exact ⟨.comma, by decide, rfl⟩

theorem head?_memberTokens (members : List (Option String × Json)) :
    ∃ token ∈ [Token.comma, .closeArray, .closeObject],
      (tokens.memberTokens members).head? = some token := by
  cases members with
  | nil => exact ⟨.closeObject, by decide, rfl⟩
  | cons member rest => exact ⟨.comma, by decide, rfl⟩

theorem isChain_itemTokens (items : List Json) (chains : ∀ item ∈ items, item.tokens.IsChain MayFollow) :
    (tokens.itemTokens items).IsChain MayFollow := by
  induction items with
  | nil => exact .singleton _
  | cons item rest ih =>
      obtain ⟨first, others⟩ := List.forall_mem_cons.1 chains
      exact isChain_cons_of_not_number (by nofun)
        (isChain_append_of_head? first (ih others) (head?_itemTokens rest))

theorem isChain_memberTokens (members : List (Option String × Json))
    (chains : ∀ member ∈ members, member.2.tokens.IsChain MayFollow) :
    (tokens.memberTokens members).IsChain MayFollow := by
  induction members with
  | nil => exact .singleton _
  | cons member rest ih =>
      obtain ⟨first, others⟩ := List.forall_mem_cons.1 chains
      exact isChain_cons_of_not_number (by nofun) (isChain_keyed member.1
        (isChain_append_of_head? first (ih others) (head?_memberTokens rest)))

theorem isChain_tokens (document : Json) : document.tokens.IsChain MayFollow := by
  induction document using document_induction with
  | null => exact .singleton _
  | bool value => exact .singleton _
  | number numeral => exact .singleton _
  | string text => exact .singleton _
  | array items ih =>
      cases items with
      | nil => exact isChain_cons_of_not_number (by nofun) (.singleton _)
      | cons item rest =>
          obtain ⟨first, others⟩ := List.forall_mem_cons.1 ih
          exact isChain_cons_of_not_number (by nofun)
            (isChain_append_of_head? first (isChain_itemTokens rest others) (head?_itemTokens rest))
  | object members ih =>
      cases members with
      | nil => exact isChain_cons_of_not_number (by nofun) (.singleton _)
      | cons member rest =>
          obtain ⟨first, others⟩ := List.forall_mem_cons.1 ih
          exact isChain_cons_of_not_number (by nofun) (isChain_keyed member.1
            (isChain_append_of_head? first (isChain_memberTokens rest others) (head?_memberTokens rest)))

/-! ### The machine -/

/-- A document does not begin with the end of an array. -/
theorem run_valueOrClose (document : Json) (frames : List Frame) (rest : List Token) :
    run ⟨frames, .valueOrClose⟩ (document.tokens ++ rest) = run ⟨frames, .value⟩ (document.tokens ++ rest) := by
  cases document with
  | null => rfl
  | bool value => rfl
  | number numeral => rfl
  | string text => rfl
  | array items => cases items <;> rfl
  | object members => cases members <;> rfl

section

variable (frames : List Frame) (rest : List Token)

theorem run_itemTokens (done items : List Json)
    (reads : ∀ item ∈ items, ∀ frames rest,
      run ⟨frames, .value⟩ (item.tokens ++ rest) = run (put item frames) rest) :
    run ⟨.array done :: frames, .separator⟩ (tokens.itemTokens items ++ rest) =
      run (put (.array (done.reverse ++ items)) frames) rest := by
  -- the items that were read before stand in the frame, the last one first
  induction items generalizing done with
  | nil =>
      rw [List.append_nil]
      rfl
  | cons item others ih =>
      obtain ⟨readsFirst, readsOthers⟩ := List.forall_mem_cons.1 reads
      have comma : run ⟨.array done :: frames, .separator⟩ (tokens.itemTokens (item :: others) ++ rest) =
          run ⟨.array done :: frames, .value⟩ (item.tokens ++ (tokens.itemTokens others ++ rest)) := by
        rw [tokens.itemTokens, List.cons_append, List.append_assoc]
        rfl
      rw [comma, readsFirst]
      change run ⟨.array (item :: done) :: frames, .separator⟩ (tokens.itemTokens others ++ rest) = _
      rw [ih (item :: done) readsOthers, List.reverse_cons, List.append_assoc, List.singleton_append]

theorem run_memberTokens (done members : List (Option String × Json))
    (reads : ∀ member ∈ members, ∀ frames rest,
      run ⟨frames, .value⟩ (member.2.tokens ++ rest) = run (put member.2 frames) rest) :
    run ⟨.object done :: frames, .separator⟩ (tokens.memberTokens members ++ rest) =
      run (put (.object (done.reverse ++ members)) frames) rest := by
  induction members generalizing done with
  | nil =>
      rw [List.append_nil]
      rfl
  | cons member others ih =>
      obtain ⟨key, value⟩ := member
      obtain ⟨readsFirst, readsOthers⟩ := List.forall_mem_cons.1 reads
      have comma : run ⟨.object done :: frames, .separator⟩
            (tokens.memberTokens ((key, value) :: others) ++ rest) =
          run ⟨.member done key :: frames, .value⟩ (value.tokens ++ (tokens.memberTokens others ++ rest)) := by
        rw [tokens.memberTokens, List.cons_append, List.cons_append, List.cons_append, List.append_assoc]
        rfl
      rw [comma, readsFirst]
      change run ⟨.object ((key, value) :: done) :: frames, .separator⟩ (tokens.memberTokens others ++ rest) = _
      rw [ih ((key, value) :: done) readsOthers, List.reverse_cons, List.append_assoc, List.singleton_append]

end

/-- Where a value may come, the tokens of a document have the effect of the document. -/
theorem run_tokens (document : Json) (frames : List Frame) (rest : List Token) :
    run ⟨frames, .value⟩ (document.tokens ++ rest) = run (put document frames) rest := by
  induction document using document_induction generalizing frames rest with
  | null => rfl
  | bool value => rfl
  | number numeral => rfl
  | string text => rfl
  | array items ih =>
      cases items with
      | nil => rfl
      | cons item others =>
          obtain ⟨readsFirst, readsOthers⟩ := List.forall_mem_cons.1 ih
          have opened : run ⟨frames, .value⟩ ((Json.array (item :: others)).tokens ++ rest) =
              run ⟨.array [] :: frames, .valueOrClose⟩ (item.tokens ++ (tokens.itemTokens others ++ rest)) := by
            rw [tokens, List.cons_append, List.append_assoc]
            rfl
          rw [opened, run_valueOrClose, readsFirst]
          exact run_itemTokens frames rest [item] others readsOthers
  | object members ih =>
      cases members with
      | nil => rfl
      | cons member others =>
          obtain ⟨key, value⟩ := member
          obtain ⟨readsFirst, readsOthers⟩ := List.forall_mem_cons.1 ih
          have opened : run ⟨frames, .value⟩ ((Json.object ((key, value) :: others)).tokens ++ rest) =
              run ⟨.member [] key :: frames, .value⟩
                (value.tokens ++ (tokens.memberTokens others ++ rest)) := by
            rw [tokens, List.cons_append, List.cons_append, List.cons_append, List.append_assoc]
            rfl
          rw [opened, readsFirst]
          exact run_memberTokens frames rest [(key, value)] others readsOthers

end Reader

theorem read?_of_spelling {document : Json} {text : List Char} (spelled : document.SpelledBy text) :
    read? text = some document := by
  have scanned := Reader.tokens?_of_spelling spelled (Reader.isChain_tokens document)
  have parsed := Reader.run_tokens document [] []
  rw [List.append_nil] at parsed
  rw [read?, scanned, Option.bind_some, parsed]
  rfl

end TemplateLint.Json
