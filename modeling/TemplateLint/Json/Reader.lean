import TemplateLint.Json.Basic

set_option autoImplicit false

/-!
Reading JSON.  The text is cut into tokens, and the tokens drive a machine whose state is a stack of open
arrays and objects; so the nesting of a document needs no recursion.
-/

namespace TemplateLint.Json

/-- A part of a string literal: a character, or a unit of UTF-16 that an escape names. -/
inductive Piece where
  | char (c : Char)
  | unit (n : Nat)
deriving DecidableEq, Repr

inductive Token where
  | openArray
  | closeArray
  | openObject
  | closeObject
  | comma
  | colon
  | null
  | bool (value : Bool)
  | number (numeral : Numeral)
  | string (text : Option String)
deriving DecidableEq, Repr

namespace Reader

/-! ### Tokens -/

def hexDigit? (c : Char) : Option Nat :=
  if '0' ≤ c ∧ c ≤ '9' then some (c.toNat - 48)
  else if 'a' ≤ c ∧ c ≤ 'f' then some (c.toNat - 87)
  else if 'A' ≤ c ∧ c ≤ 'F' then some (c.toNat - 55)
  else none

def unit? (a b c d : Char) : Option Nat :=
  match hexDigit? a, hexDigit? b, hexDigit? c, hexDigit? d with
  | some a, some b, some c, some d => some (a * 4096 + b * 256 + c * 16 + d)
  | _, _, _, _ => none

def escaped? (c : Char) : Option Char :=
  match c with
  | '"' => some '"'
  | '\\' => some '\\'
  | '/' => some '/'
  | 'b' => some '\x08'
  | 'f' => some '\x0C'
  | 'n' => some '\n'
  | 'r' => some '\r'
  | 't' => some '\t'
  | _ => none

def literal : List Char → Option (List Piece × List Char)
  | [] => none
  | '"' :: rest => some ([], rest)
  | '\\' :: 'u' :: a :: b :: c :: d :: rest =>
      match unit? a b c d with
      | some n => (literal rest).map fun (pieces, after) => (.unit n :: pieces, after)
      | none => none
  | '\\' :: e :: rest =>
      match escaped? e with
      | some c => (literal rest).map fun (pieces, after) => (.char c :: pieces, after)
      | none => none
  | c :: rest =>
      if c.toNat < 0x20 ∨ c = '\\' then none
      else (literal rest).map fun (pieces, after) => (.char c :: pieces, after)

/-- The characters of a literal.  A pair of surrogates is one character; half a pair is none. -/
def characters : List Piece → Option (List Char)
  | [] => some []
  | .char c :: rest => (characters rest).map (c :: ·)
  | .unit high :: .unit low :: rest =>
      if high < 0xD800 ∨ 0xE000 ≤ high then (characters (.unit low :: rest)).map (Char.ofNat high :: ·)
      else if high < 0xDC00 ∧ 0xDC00 ≤ low ∧ low < 0xE000 then
        (characters rest).map (Char.ofNat (0x10000 + (high - 0xD800) * 0x400 + (low - 0xDC00)) :: ·)
      else none
  | .unit n :: rest =>
      if n < 0xD800 ∨ 0xE000 ≤ n then (characters rest).map (Char.ofNat n :: ·) else none

def digits (text : List Char) : List Nat × List Char :=
  ((text.takeWhile Char.isDigit).map fun c => c.toNat - 48, text.dropWhile Char.isDigit)

/-- The digits before the point: a zero alone, or digits that do not begin with zero. -/
def wholePart (text : List Char) : Option (List Nat × List Char) :=
  match text with
  | '0' :: rest => some ([0], rest)
  | _ =>
      match digits text with
      | ([], _) => none
      | found => some found

def fractionPart (text : List Char) : Option (List Nat × List Char) :=
  match text with
  | '.' :: rest =>
      match digits rest with
      | ([], _) => none
      | found => some found
  | _ => some ([], text)

def exponentPart (text : List Char) : Option (Option (Bool × List Nat) × List Char) :=
  match text with
  | e :: rest =>
      if e = 'e' ∨ e = 'E' then
        let isDown := rest.head? == some '-'
        let rest := if isDown ∨ rest.head? = some '+' then rest.drop 1 else rest
        match digits rest with
        | ([], _) => none
        | (found, after) => some (some (isDown, found), after)
      else some (none, text)
  | [] => some (none, text)

def numeral (text : List Char) : Option (Numeral × List Char) := do
  let negative := text.head? == some '-'
  let (whole, rest) ← wholePart (if negative then text.drop 1 else text)
  let (fraction, rest) ← fractionPart rest
  let (exponent, rest) ← exponentPart rest
  pure (⟨negative, whole, fraction, exponent⟩, rest)

def isSpace (c : Char) : Bool :=
  c == ' ' || c == '\n' || c == '\t' || c == '\r'

def token (text : List Char) : Option (Token × List Char) :=
  match text with
  | '[' :: rest => some (.openArray, rest)
  | ']' :: rest => some (.closeArray, rest)
  | '{' :: rest => some (.openObject, rest)
  | '}' :: rest => some (.closeObject, rest)
  | ',' :: rest => some (.comma, rest)
  | ':' :: rest => some (.colon, rest)
  | 'n' :: 'u' :: 'l' :: 'l' :: rest => some (.null, rest)
  | 't' :: 'r' :: 'u' :: 'e' :: rest => some (.bool true, rest)
  | 'f' :: 'a' :: 'l' :: 's' :: 'e' :: rest => some (.bool false, rest)
  | '"' :: rest =>
      (literal rest).map fun (pieces, after) => (.string ((characters pieces).map String.ofList), after)
  | _ => (numeral text).map fun (n, after) => (.number n, after)

/-- The tokens of a text.  Every token has a character, so the length of the text is fuel enough. -/
def tokensFrom : Nat → List Char → Option (List Token)
  | 0, _ => none
  | fuel + 1, text =>
      match text.dropWhile isSpace with
      | [] => some []
      | rest =>
          match token rest with
          | some (found, after) => (tokensFrom fuel after).map (found :: ·)
          | none => none

def tokens? (text : List Char) : Option (List Token) :=
  tokensFrom (text.length + 1) text

/-! ### Documents -/

/-- An array or object that is not closed yet, with what it holds so far, last one first. -/
inductive Frame where
  | array (items : List Json)
  | object (members : List (Option String × Json))
  | member (members : List (Option String × Json)) (key : Option String)

inductive Expecting where
  | value
  | valueOrClose
  | key
  | keyOrClose
  | colon (key : Option String)
  | separator
  | nothing (document : Json)

structure State where
  frames : List Frame
  expecting : Expecting

def put (document : Json) : List Frame → State
  | .array items :: frames => ⟨.array (document :: items) :: frames, .separator⟩
  | .member members key :: frames => ⟨.object ((key, document) :: members) :: frames, .separator⟩
  | frames => ⟨frames, .nothing document⟩

def begin? (frames : List Frame) : Token → Option State
  | .openArray => some ⟨.array [] :: frames, .valueOrClose⟩
  | .openObject => some ⟨.object [] :: frames, .keyOrClose⟩
  | .null => some (put .null frames)
  | .bool value => some (put (.bool value) frames)
  | .number numeral => some (put (.number numeral) frames)
  | .string text => some (put (.string text) frames)
  | _ => none

def close? : Token → List Frame → Option State
  | .closeArray, .array items :: frames => some (put (.array items.reverse) frames)
  | .closeObject, .object members :: frames => some (put (.object members.reverse) frames)
  | _, _ => none

def step (state : State) (token : Token) : Option State :=
  match state.expecting, token with
  | .value, _ => begin? state.frames token
  | .valueOrClose, .closeArray => close? token state.frames
  | .valueOrClose, _ => begin? state.frames token
  | .keyOrClose, .closeObject => close? token state.frames
  | .keyOrClose, .string key => some ⟨state.frames, .colon key⟩
  | .key, .string key => some ⟨state.frames, .colon key⟩
  | .colon key, .colon =>
      match state.frames with
      | .object members :: frames => some ⟨.member members key :: frames, .value⟩
      | _ => none
  | .separator, .comma =>
      match state.frames with
      | .array items :: frames => some ⟨.array items :: frames, .value⟩
      | .object members :: frames => some ⟨.object members :: frames, .key⟩
      | _ => none
  | .separator, _ => close? token state.frames
  | _, _ => none

def run : State → List Token → Option State
  | state, [] => some state
  | state, token :: rest =>
      match step state token with
      | some next => run next rest
      | none => none

end Reader

def read? (text : List Char) : Option Json :=
  match (Reader.tokens? text).bind (Reader.run ⟨[], .value⟩) with
  | some ⟨[], .nothing document⟩ => some document
  | _ => none

def parse? (text : String) : Option Json :=
  read? text.toList

end TemplateLint.Json
