set_option autoImplicit false

/-!
UTF-8.  File contents, file names and the output of a process are bytes; texts are characters.  There are
two ways from bytes to text: `decode?` refuses bytes that are not UTF-8, and `decodeLossy` puts the
replacement character U+FFFD for every maximal part that cannot be the start of a character.
-/

namespace TemplateLint.Text.Utf8

def encode (text : List Char) : List UInt8 :=
  text.flatMap String.utf8EncodeChar

def bytes (text : String) : List UInt8 :=
  encode text.toList

def replacement : Char := '\uFFFD'

def isTail (b : UInt8) : Bool :=
  0x80 ≤ b && b ≤ 0xBF

def tailBits (b : UInt8) : Nat :=
  b.toNat - 0x80

/-- The second bytes that may follow a given first byte.  The bounds exclude overlong forms, surrogates
and numbers above the last code point. -/
def secondBounds (first : Nat) : Nat × Nat :=
  if first = 0xE0 then (0xA0, 0xBF)
  else if first = 0xED then (0x80, 0x9F)
  else if first = 0xF0 then (0x90, 0xBF)
  else if first = 0xF4 then (0x80, 0x8F)
  else (0x80, 0xBF)

def isSecond (first : Nat) (b : UInt8) : Bool :=
  (secondBounds first).1 ≤ b.toNat && b.toNat ≤ (secondBounds first).2

/-- Reads the character whose first byte is given.  The answer holds the character, or `none` when the
bytes read are not one, and the bytes that are left after the part that was read. -/
def next (first : UInt8) (rest : List UInt8) : Option Char × List UInt8 :=
  let a := first.toNat
  if a < 0x80 then (some (Char.ofNat a), rest)
  else if a < 0xC2 then (none, rest)
  else if a < 0xE0 then
    match rest with
    | b :: rest1 =>
        if isTail b then (some (Char.ofNat ((a - 0xC0) * 64 + tailBits b)), rest1) else (none, rest)
    | [] => (none, rest)
  else if a < 0xF0 then
    match rest with
    | b :: rest1 =>
        if isSecond a b then
          match rest1 with
          | c :: rest2 =>
              if isTail c then
                (some (Char.ofNat ((a - 0xE0) * 4096 + tailBits b * 64 + tailBits c)), rest2)
              else (none, rest1)
          | [] => (none, rest1)
        else (none, rest)
    | [] => (none, rest)
  else if a < 0xF5 then
    match rest with
    | b :: rest1 =>
        if isSecond a b then
          match rest1 with
          | c :: rest2 =>
              if isTail c then
                match rest2 with
                | d :: rest3 =>
                    if isTail d then
                      (some (Char.ofNat
                        ((a - 0xF0) * 262144 + tailBits b * 4096 + tailBits c * 64 + tailBits d)), rest3)
                    else (none, rest2)
                | [] => (none, rest2)
              else (none, rest1)
          | [] => (none, rest1)
        else (none, rest)
    | [] => (none, rest)
  else (none, rest)

theorem next_length_le (first : UInt8) (rest : List UInt8) :
    (next first rest).2.length ≤ rest.length := by
  unfold next
  dsimp only
  repeat' split
  all_goals simp only [List.length_cons]
  all_goals omega

def decode? : List UInt8 → Option (List Char)
  | [] => some []
  | first :: rest =>
      match (next first rest).1 with
      | some c => (decode? (next first rest).2).map (c :: ·)
      | none => none
termination_by input => input.length
decreasing_by
  have := next_length_le first rest
  simp only [List.length_cons]
  omega

/-- The text of any bytes: U+FFFD stands for every part that is not UTF-8. -/
def decodeLossy : List UInt8 → List Char
  | [] => []
  | first :: rest => (next first rest).1.getD replacement :: decodeLossy (next first rest).2
termination_by input => input.length
decreasing_by
  have := next_length_le first rest
  simp only [List.length_cons]
  omega

def stringLossy (input : List UInt8) : String :=
  String.ofList (decodeLossy input)

end TemplateLint.Text.Utf8
