import TemplateLint.Number.Double

set_option autoImplicit false

/-!
Numbers as JSON writes them, and their values.

A numeral without fraction and exponent is an integer when it fits 64 bits.  Every other numeral is a
floating-point number.  Its digits are taken into a significand of 64 bits while they fit; the significand is
then rounded and scaled by powers of ten, each step rounding again.  A value beyond the largest
floating-point number is refused.
-/

namespace TemplateLint.Json

/-- A number as written.  Digits are numbers below ten. -/
structure Numeral where
  negative : Bool
  whole : List Nat
  fraction : List Nat := []
  exponent : Option (Bool × List Nat) := none
deriving DecidableEq, Repr

inductive NumberValue where
  | natural (n : Nat)
  | negative (n : Int)
  | float (number : Double)
deriving DecidableEq, Repr

namespace Numeral

/-- Takes digits into a significand while it stays below `2 ^ 64`; gives it and the digits left. -/
def absorb : Nat → List Nat → Nat × List Nat
  | significand, [] => (significand, [])
  | significand, digit :: rest =>
      if significand * 10 + digit < Nat.pow 2 64 then absorb (significand * 10 + digit) rest
      else (significand, digit :: rest)

/-- Scales by a power of ten.  Powers below the smallest number are reached in steps of 308. -/
def scale (number : Double) (exponent : Int) : Option Double :=
  if 0 ≤ exponent then
    if exponent ≤ 308 then
      let scaled := number.mul (Double.ofNat (Nat.pow 10 exponent.toNat))
      if scaled.isInfinite then none else some scaled
    else if number.isZero then some number else none
  else if -308 ≤ exponent then some (number.div (Double.ofNat (Nat.pow 10 (-exponent).toNat)))
  else if number.isZero then some number
  else scale (number.div (Double.ofNat (Nat.pow 10 308))) (exponent + 308)
termination_by (-exponent).toNat

def signed (negative : Bool) (number : Double) : Double :=
  if negative then number.neg else number

def ofDigits (digits : List Nat) : Nat :=
  digits.foldl (fun value digit => value * 10 + digit) 0

def exponentLimit : Nat := 2147483647

def float? (numeral : Numeral) : Option Double :=
  let (significand, wholeLeft) := absorb 0 numeral.whole
  let (significand, fractionLeft) := absorb significand numeral.fraction
  let place : Int := wholeLeft.length - (numeral.fraction.length - fractionLeft.length : Nat)
  let unsigned :=
    match numeral.exponent with
    | none => scale (Double.ofNat significand) place
    | some (isDown, digits) =>
        let exponent := ofDigits digits
        if exponentLimit < exponent then
          if significand ≠ 0 ∧ !isDown then none else some (Double.ofNat 0)
        else scale (Double.ofNat significand) (if isDown then place - exponent else place + exponent)
  unsigned.map (signed numeral.negative)

def value? (numeral : Numeral) : Option NumberValue :=
  if numeral.fraction.isEmpty && numeral.exponent.isNone then
    match absorb 0 numeral.whole with
    | (n, []) =>
        if !numeral.negative then some (.natural n)
        else if 0 < n ∧ n ≤ Nat.pow 2 63 then some (.negative (-(n : Int)))
        else some (.float (Double.ofNat n).neg)
    | _ => numeral.float?.map .float
  else numeral.float?.map .float

def digitsOf (n : Nat) : List Nat :=
  (Nat.toDigits 10 n).map fun c => c.toNat - 48

def ofNat (n : Nat) : Numeral where
  negative := false
  whole := digitsOf n

def ofInt (n : Int) : Numeral where
  negative := n < 0
  whole := digitsOf n.natAbs

def digitChar (digit : Nat) : Char := Char.ofNat (48 + digit)

def text (numeral : Numeral) : List Char :=
  (if numeral.negative then ['-'] else []) ++ numeral.whole.map digitChar ++
    (if numeral.fraction.isEmpty then [] else '.' :: numeral.fraction.map digitChar) ++
    (match numeral.exponent with
    | none => []
    | some (isDown, digits) => 'e' :: (if isDown then ['-'] else []) ++ digits.map digitChar)

end Numeral

def NumberValue.toDouble : NumberValue → Double
  | .natural n => Double.ofNat n
  | .negative n => Double.ofInt n
  | .float number => number

end TemplateLint.Json
