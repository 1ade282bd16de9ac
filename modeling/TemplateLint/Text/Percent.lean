import TemplateLint.Text.Utf8

set_option autoImplicit false

/-!
Percent coding of bytes, as it is used in the path of a URI.  Writing keeps letters, digits and `-._~` and
spells every other byte as `%` and two upper-case hexadecimal digits.  Reading replaces every `%` that two
hexadecimal digits follow, in either case, and leaves any other `%` as it is.
-/

namespace TemplateLint.Text.Percent

/-- The bytes that need no escape: ASCII letters and digits, `-`, `.`, `_` and `~`. -/
def isPlain (b : UInt8) : Bool :=
  (0x30 ≤ b && b ≤ 0x39) || (0x41 ≤ b && b ≤ 0x5A) || (0x61 ≤ b && b ≤ 0x7A) ||
    b == 0x2D || b == 0x2E || b == 0x5F || b == 0x7E

def digit (n : Nat) : Char :=
  if n < 10 then Char.ofNat (48 + n) else Char.ofNat (55 + n)

def digitValue? (b : UInt8) : Option UInt8 :=
  if 0x30 ≤ b && b ≤ 0x39 then some (b - 0x30)
  else if 0x41 ≤ b && b ≤ 0x46 then some (b - 0x37)
  else if 0x61 ≤ b && b ≤ 0x66 then some (b - 0x57)
  else none

def encodeByte (b : UInt8) : List Char :=
  if isPlain b then [Char.ofNat b.toNat]
  else ['%', digit (b.toNat / 16), digit (b.toNat % 16)]

def encode (input : List UInt8) : List Char :=
  input.flatMap encodeByte

def pair? (high low : UInt8) : Option UInt8 :=
  match digitValue? high, digitValue? low with
  | some h, some l => some (h * 16 + l)
  | _, _ => none

def decode : List UInt8 → List UInt8
  | [] => []
  | 0x25 :: high :: low :: rest =>
      match pair? high low with
      | some b => b :: decode rest
      | none => 0x25 :: decode (high :: low :: rest)
  | b :: rest => b :: decode rest

end TemplateLint.Text.Percent
