import TemplateLint.Json.Printer
import TemplateLint.Json.Reader

set_option autoImplicit false

/-!
The texts that write a document.

A document has one sequence of tokens.  Its texts differ in how the tokens are spelled, which concerns escapes
and the mark and sign of an exponent, and in the blanks between them.  Nothing here refers to the reader; that it
reads all these texts is shown elsewhere.
-/

namespace TemplateLint.Json

/-! ### Documents -/

/-- To prove something of every document, prove it of an array when it holds of the items and of an object when
it holds of the values. -/
@[elab_as_elim]
theorem document_induction {motive : Json → Prop} (null : motive .null) (bool : ∀ value, motive (.bool value))
    (number : ∀ numeral, motive (.number numeral)) (string : ∀ text, motive (.string text))
    (array : ∀ items, (∀ item ∈ items, motive item) → motive (.array items))
    (object : ∀ members, (∀ member ∈ members, motive member.2) → motive (.object members))
    (document : Json) : motive document :=
  Json.rec (motive_1 := motive) (motive_2 := fun items => ∀ item ∈ items, motive item)
    (motive_3 := fun members => ∀ member ∈ members, motive member.2) (motive_4 := fun member => motive member.2)
    null bool number string array object nofun
    (fun _ _ first others => List.forall_mem_cons.2 ⟨first, others⟩) nofun
    (fun _ _ first others => List.forall_mem_cons.2 ⟨first, others⟩) (fun _ _ value => value) document

def tokens : Json → List Token
  | .null => [.null]
  | .bool value => [.bool value]
  | .number numeral => [.number numeral]
  | .string text => [.string text]
  | .array [] => [.openArray, .closeArray]
  | .array (item :: rest) => .openArray :: (item.tokens ++ itemTokens rest)
  | .object [] => [.openObject, .closeObject]
  | .object ((key, value) :: rest) =>
      .openObject :: .string key :: .colon :: (value.tokens ++ memberTokens rest)
where
  itemTokens : List Json → List Token
    | [] => [.closeArray]
    | item :: rest => .comma :: (item.tokens ++ itemTokens rest)
  memberTokens : List (Option String × Json) → List Token
    | [] => [.closeObject]
    | (key, value) :: rest => .comma :: .string key :: .colon :: (value.tokens ++ memberTokens rest)

/-! ### Strings -/

def letterEscapes : List (Char × Char) := [
  ('"', '"'), ('\\', '\\'), ('/', '/'), ('b', '\x08'), ('f', '\x0C'), ('n', '\n'), ('r', '\r'), ('t', '\t')]

def hexDigits (value : Nat) : List Char :=
  [hexChar value, (hexChar value).toUpper]

inductive PieceSpelling : Piece → List Char → Prop where
  | plain (c : Char) (notControl : 0x20 ≤ c.toNat) (notQuote : c ≠ '"') (notBackslash : c ≠ '\\') :
      PieceSpelling (.char c) [c]
  | letter (e c : Char) (names : (e, c) ∈ letterEscapes) : PieceSpelling (.char c) ['\\', e]
  | unit (i j k l : Nat) (bounds : i < 16 ∧ j < 16 ∧ k < 16 ∧ l < 16) (a b c d : Char)
      (digits : a ∈ hexDigits i ∧ b ∈ hexDigits j ∧ c ∈ hexDigits k ∧ d ∈ hexDigits l) :
      PieceSpelling (.unit (i * 4096 + j * 256 + k * 16 + l)) ['\\', 'u', a, b, c, d]

inductive BodySpelling : List Piece → List Char → Prop where
  | nil : BodySpelling [] []
  | cons {piece : Piece} {pieces : List Piece} {text body : List Char} (first : PieceSpelling piece text)
      (others : BodySpelling pieces body) : BodySpelling (piece :: pieces) (text ++ body)

def isSurrogate (unit : Nat) : Prop := 0xD800 ≤ unit ∧ unit < 0xE000

/-- The characters that parts of a literal mean.  Units in the range of surrogates mean something in pairs only,
a high one before a low one. -/
inductive Denotes : List Piece → List Char → Prop where
  | nil : Denotes [] []
  | char (c : Char) {pieces : List Piece} {text : List Char} (others : Denotes pieces text) :
      Denotes (.char c :: pieces) (c :: text)
  | unit (n : Nat) (alone : ¬isSurrogate n) {pieces : List Piece} {text : List Char}
      (others : Denotes pieces text) : Denotes (.unit n :: pieces) (Char.ofNat n :: text)
  | pair (high low : Nat) (isHigh : 0xD800 ≤ high ∧ high < 0xDC00) (isLow : 0xDC00 ≤ low ∧ low < 0xE000)
      {pieces : List Piece} {text : List Char} (others : Denotes pieces text) :
      Denotes (.unit high :: .unit low :: pieces)
        (Char.ofNat (0x10000 + (high - 0xD800) * 0x400 + (low - 0xDC00)) :: text)

def HasText (pieces : List Piece) : Option String → Prop
  | some text => Denotes pieces text.toList
  | none => ∀ text, ¬Denotes pieces text

/-! ### Numbers -/

def digitsText (digits : List Nat) : List Char :=
  digits.map Numeral.digitChar

/-- The numerals that JSON can write: only a zero that stands alone comes first. -/
structure Numeral.Writable (numeral : Numeral) : Prop where
  whole : numeral.whole = [0] ∨ numeral.whole ≠ [] ∧ numeral.whole.head? ≠ some 0
  wholeDigits : ∀ digit ∈ numeral.whole, digit < 10
  fractionDigits : ∀ digit ∈ numeral.fraction, digit < 10
  exponent : ∀ isDown digits, numeral.exponent = some (isDown, digits) →
    digits ≠ [] ∧ ∀ digit ∈ digits, digit < 10

theorem Numeral.Writable.whole_ne_nil {numeral : Numeral} (writable : numeral.Writable) :
    numeral.whole ≠ [] := by
  rcases writable.whole with alone | ⟨isSome, noZero⟩
  · rw [alone]
    exact List.cons_ne_nil 0 []
  · exact isSome

def Numeral.frontText (numeral : Numeral) : List Char :=
  (if numeral.negative then ['-'] else []) ++ digitsText numeral.whole ++
    (if numeral.fraction = [] then [] else '.' :: digitsText numeral.fraction)

/-- An exponent has a mark in either case, and a plus sign may stand where there is no minus sign. -/
inductive ExponentSpelling : Option (Bool × List Nat) → List Char → Prop where
  | absent : ExponentSpelling none []
  | down (mark : Char) (isMark : mark = 'e' ∨ mark = 'E') (digits : List Nat) :
      ExponentSpelling (some (true, digits)) (mark :: '-' :: digitsText digits)
  | up (mark : Char) (isMark : mark = 'e' ∨ mark = 'E') (digits : List Nat) :
      ExponentSpelling (some (false, digits)) (mark :: digitsText digits)
  | plus (mark : Char) (isMark : mark = 'e' ∨ mark = 'E') (digits : List Nat) :
      ExponentSpelling (some (false, digits)) (mark :: '+' :: digitsText digits)

/-! ### Texts -/

inductive TokenSpelling : Token → List Char → Prop where
  | openArray : TokenSpelling .openArray ['[']
  | closeArray : TokenSpelling .closeArray [']']
  | openObject : TokenSpelling .openObject ['{']
  | closeObject : TokenSpelling .closeObject ['}']
  | comma : TokenSpelling .comma [',']
  | colon : TokenSpelling .colon [':']
  | null : TokenSpelling .null "null".toList
  | true : TokenSpelling (.bool true) "true".toList
  | false : TokenSpelling (.bool false) "false".toList
  | number (numeral : Numeral) (writable : numeral.Writable) {exponent : List Char}
      (spelled : ExponentSpelling numeral.exponent exponent) :
      TokenSpelling (.number numeral) (numeral.frontText ++ exponent)
  | string {text : Option String} {pieces : List Piece} {body : List Char} (means : HasText pieces text)
      (spelled : BodySpelling pieces body) : TokenSpelling (.string text) ('"' :: (body ++ ['"']))

def blanks : List Char := [' ', '\n', '\r', '\t']

/-- The texts of tokens, with blanks before, between and behind them. -/
inductive Spelling : List Token → List Char → Prop where
  | nil (space : List Char) (isBlank : ∀ c ∈ space, c ∈ blanks) : Spelling [] space
  | cons (space : List Char) (isBlank : ∀ c ∈ space, c ∈ blanks) {token : Token} {text : List Char}
      (first : TokenSpelling token text) {tokens : List Token} {rest : List Char}
      (others : Spelling tokens rest) : Spelling (token :: tokens) (space ++ text ++ rest)

def SpelledBy (document : Json) (text : List Char) : Prop :=
  Spelling document.tokens text

end TemplateLint.Json
