set_option autoImplicit false

/-!
Floating-point numbers of 64 bits, made from exact fractions.

A number is its bit pattern.  Every operation computes an exact fraction of natural numbers and rounds it
once, to the nearest number and on a tie to the even one.
-/

namespace TemplateLint

/-- A floating-point number by its bits: sign, eleven bits of exponent, fifty-two of fraction. -/
structure Double where
  bits : UInt64
deriving DecidableEq, Repr

namespace Double

def signBits (negative : Bool) : Nat :=
  if negative then Nat.pow 2 63 else 0

def infinityBits : Nat := 2047 * Nat.pow 2 52

def ofMagnitude (negative : Bool) (magnitude : Nat) : Double :=
  ⟨UInt64.ofNat (signBits negative + min magnitude infinityBits)⟩

/-- The quotient rounded to the nearest natural number, a tie to the even one. -/
def roundedQuotient (numerator denominator : Nat) : Nat :=
  let quotient := numerator / denominator
  let twice := 2 * (numerator % denominator)
  if twice < denominator ∨ (twice = denominator ∧ quotient % 2 = 0) then quotient else quotient + 1

/-- The magnitude in bits of `numerator / denominator` when its unit in the last place is `2 ^ (scale - 1074)`.
A quotient of 53 bits runs over into the exponent field, which is what the format asks for. -/
def magnitudeAt (scale numerator denominator : Nat) : Nat :=
  let quotient :=
    if 1074 ≤ scale then roundedQuotient numerator (denominator * Nat.pow 2 (scale - 1074))
    else roundedQuotient (numerator * Nat.pow 2 (1074 - scale)) denominator
  scale * Nat.pow 2 52 + quotient

def ofFraction (negative : Bool) (numerator denominator : Nat) : Double :=
  if numerator = 0 ∨ denominator = 0 then ofMagnitude negative 0
  else
    -- The exponent of the leading bit, moved up by 1126 = 1074 + 52, is this or one less.
    let leading := numerator.log2 + 1126 - denominator.log2
    let scale := leading - 104
    let scale :=
      if 1126 ≤ leading then
        if numerator < denominator * Nat.pow 2 (leading - 1126) then scale - 1 else scale
      else if numerator * Nat.pow 2 (1126 - leading) < denominator then scale - 1 else scale
    ofMagnitude negative (magnitudeAt scale numerator denominator)

def isNegative (number : Double) : Bool :=
  Nat.pow 2 63 ≤ number.bits.toNat

def magnitude (number : Double) : Nat :=
  number.bits.toNat % Nat.pow 2 63

def isInfinite (number : Double) : Bool :=
  number.magnitude == infinityBits

def isZero (number : Double) : Bool :=
  number.magnitude == 0

def fraction (number : Double) : Nat × Nat :=
  let exponent := number.magnitude / Nat.pow 2 52
  let significand := number.magnitude % Nat.pow 2 52 + (if exponent = 0 then 0 else Nat.pow 2 52)
  let scale := if exponent = 0 then 0 else exponent - 1
  if 1074 ≤ scale then (significand * Nat.pow 2 (scale - 1074), 1) else (significand, Nat.pow 2 (1074 - scale))

def ofNat (n : Nat) : Double := ofFraction false n 1

def ofInt (n : Int) : Double := ofFraction (n < 0) n.natAbs 1

def mul (left right : Double) : Double :=
  ofFraction (left.isNegative != right.isNegative)
    (left.fraction.1 * right.fraction.1) (left.fraction.2 * right.fraction.2)

def div (left right : Double) : Double :=
  ofFraction (left.isNegative != right.isNegative)
    (left.fraction.1 * right.fraction.2) (left.fraction.2 * right.fraction.1)

def neg (number : Double) : Double :=
  ofMagnitude (!number.isNegative) number.magnitude

def infinity (negative : Bool) : Double := ofMagnitude negative infinityBits

def nan (negative : Bool) : Double :=
  ⟨UInt64.ofNat (signBits negative + 4095 * Nat.pow 2 51)⟩

/-- The number nearest to `significand * 10 ^ exponent`.  Exponents far outside the range of the format are
decided without computing the power. -/
def ofDecimal (negative : Bool) (significand : Nat) (exponent : Int) : Double :=
  if significand = 0 then ofMagnitude negative 0
  else if 400 < exponent then infinity negative
  else if exponent + significand.log2 < -400 then ofMagnitude negative 0
  else if 0 ≤ exponent then ofFraction negative (significand * Nat.pow 10 exponent.toNat) 1
  else ofFraction negative significand (Nat.pow 10 (-exponent).toNat)

end Double

end TemplateLint
