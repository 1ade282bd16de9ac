import TemplateLint.Machine.Octets
import TemplateLint.Number.Double

set_option autoImplicit false

/-!
Real numbers in texts: how they are read, and how they are written with a number of digits.

Digits are taken from the exact value of a number, rounded to the nearest and on a tie to the even one.
-/

namespace TemplateLint.Machine

/-! ### Reading -/

def isFinite (number : Double) : Bool := number.magnitude < Double.infinityBits

def isNan (number : Double) : Bool := number.magnitude > Double.infinityBits

def startsWithLetters (letters : String) (text : Octets) : Bool :=
  (text.take letters.length).map Char.toLower == letters.toList

def exponentAt (letters : List Char) (text : Octets) : Int × Octets :=
  match text with
  | [] => (0, [])
  | letter :: rest =>
      if !letters.contains letter then (0, text)
      else
        let (isNegative, digits) := match rest with
          | '-' :: other => (true, other)
          | '+' :: other => (false, other)
          | other => (false, other)
        let number := digits.takeWhile Char.isDigit
        if number.isEmpty then (0, text)
        else
          let size := Int.ofNat (min (decimal number) 100000)
          (if isNegative then -size else size, digits.drop number.length)

/-- The number in hexadecimal digits at the start of a text, with the text behind it. -/
def hexadecimalAt? (isNegative : Bool) (text : Octets) : Option (Double × Octets) :=
  let whole := text.takeWhile isHex
  let behind := text.drop whole.length
  let part := match behind with
    | '.' :: rest => rest.takeWhile isHex
    | _ => []
  let behind := match behind with
    | '.' :: _ => behind.drop (part.length + 1)
    | _ => behind
  if whole.isEmpty && part.isEmpty then none
  else
    let (exponent, rest) := exponentAt ['p', 'P'] behind
    let exponent := exponent - 4 * Int.ofNat part.length
    let significand := numberIn 16 (whole ++ part)
    let number :=
      if 0 ≤ exponent then
        if 2000 < exponent && significand != 0 then Double.infinity isNegative
        else Double.ofFraction isNegative (significand * Nat.pow 2 exponent.toNat) 1
      else if exponent < -20000 then Double.ofMagnitude isNegative 0
      else Double.ofFraction isNegative significand (Nat.pow 2 (-exponent).toNat)
    some (number, rest)

/-- The number in decimal digits at the start of a text, with the text behind it. -/
def decimalAt? (isNegative : Bool) (text : Octets) : Option (Double × Octets) :=
  let whole := text.takeWhile Char.isDigit
  let behind := text.drop whole.length
  let part := match behind with
    | '.' :: rest => rest.takeWhile Char.isDigit
    | _ => []
  let behind := match behind with
    | '.' :: _ => behind.drop (part.length + 1)
    | _ => behind
  if whole.isEmpty && part.isEmpty then none
  else
    let (exponent, rest) := exponentAt ['e', 'E'] behind
    some (Double.ofDecimal isNegative (decimal (whole ++ part)) (exponent - Int.ofNat part.length), rest)

/-- The number at the start of a text, behind blanks and a sign, with the text behind it. -/
def realAt? (text : Octets) : Option (Double × Octets) :=
  let trimmed := text.dropWhile isSpace
  let (isNegative, digits) := match trimmed with
    | '-' :: rest => (true, rest)
    | '+' :: rest => (false, rest)
    | other => (false, other)
  if startsWithLetters "infinity" digits then some (Double.infinity isNegative, digits.drop 8)
  else if startsWithLetters "inf" digits then some (Double.infinity isNegative, digits.drop 3)
  else if startsWithLetters "nan" digits then some (Double.nan isNegative, digits.drop 3)
  else
    let hexadecimal :=
      if startsWithLetters "0x" digits then hexadecimalAt? isNegative (digits.drop 2) else none
    hexadecimal.orElse fun _ => decimalAt? isNegative digits

/-! ### Writing -/

def padFront (width : Nat) (fill : Char) (text : Octets) : Octets :=
  List.replicate (width - text.length) fill ++ text

def withPoint (places : Nat) (isAlternative : Bool) (digits : Octets) : Octets :=
  let digits := padFront (places + 1) '0' digits
  let whole := digits.take (digits.length - places)
  if places = 0 then whole ++ (if isAlternative then ['.'] else [])
  else whole ++ '.' :: digits.drop (digits.length - places)

def fixedText (fraction : Nat × Nat) (places : Nat) (isAlternative : Bool) : Octets :=
  withPoint places isAlternative
    (natText (Double.roundedQuotient (fraction.1 * Nat.pow 10 places) fraction.2))

def scaled (fraction : Nat × Nat) (exponent : Int) : Nat :=
  if 0 ≤ exponent then Double.roundedQuotient (fraction.1 * Nat.pow 10 exponent.toNat) fraction.2
  else Double.roundedQuotient fraction.1 (fraction.2 * Nat.pow 10 (-exponent).toNat)

def leadingExponent (fraction : Nat × Nat) : Int :=
  if fraction.1 = 0 then 0
  else if fraction.2 ≤ fraction.1 then Int.ofNat (natText (fraction.1 / fraction.2)).length - 1
  else
    let size := (natText fraction.2).length - (natText fraction.1).length
    let isSmall := fun (exponent : Nat) => fraction.1 * Nat.pow 10 exponent < fraction.2
    if isSmall size then -Int.ofNat (size + 1) else -Int.ofNat size

def significantDigits (fraction : Nat × Nat) (places : Nat) : Octets × Int :=
  let exponent := leadingExponent fraction
  let digits := natText (scaled fraction (Int.ofNat places - exponent))
  if digits.length > places + 1 then (digits.take (places + 1), exponent + 1)
  else (padFront (places + 1) '0' digits, exponent)

def exponentText (letter : Char) (exponent : Int) : Octets :=
  letter :: (if exponent < 0 then '-' else '+') :: padFront 2 '0' (natText exponent.natAbs)

def scientificText (fraction : Nat × Nat) (places : Nat) (isAlternative : Bool) (letter : Char) : Octets :=
  let (digits, exponent) := significantDigits fraction places
  withPoint places isAlternative digits ++ exponentText letter exponent

/-- Digits without the zeros at the end of those behind a point, and without a point at the end. -/
def dropFinalZeros (digits : Octets) : Octets :=
  if digits.contains '.' then dropEndWhile (· == '.') (dropEndWhile (· == '0') digits) else digits

/-- A fraction with a number of digits that mean something, in the shorter of the two ways. -/
def generalText (fraction : Nat × Nat) (precision : Nat) (isAlternative : Bool) (letter : Char) : Octets :=
  let precision := max precision 1
  let (digits, exponent) := significantDigits fraction (precision - 1)
  let trim := fun (digits : Octets) => if isAlternative then digits else dropFinalZeros digits
  if -4 ≤ exponent && exponent < Int.ofNat precision then
    trim (fixedText fraction (Int.ofNat precision - 1 - exponent).toNat isAlternative)
  else trim (withPoint (precision - 1) isAlternative digits) ++ exponentText letter exponent

def hexadecimalText (fraction : Nat × Nat) (isUpper : Bool) : Octets :=
  let exponent : Int := if fraction.1 = 0 then 0
    else if fraction.2 = 1 then Int.ofNat fraction.1.log2
    else Int.ofNat fraction.1.log2 - Int.ofNat fraction.2.log2
  let digits := if fraction.1 = 0 then [] else
    let shift := fraction.1.log2
    let mantissa := (fraction.1 - Nat.pow 2 shift) * Nat.pow 2 52 / Nat.pow 2 shift
    dropEndWhile (· == '0') (padFront 13 '0' (Nat.toDigits 16 mantissa))
  let text := (if fraction.1 = 0 then ['0', 'x', '0'] else ['0', 'x', '1']) ++
    (if digits.isEmpty then [] else '.' :: digits) ++
    'p' :: (if exponent < 0 then '-' else '+') :: natText exponent.natAbs
  if isUpper then text.map Char.toUpper else text

/-- The size of a number as one of the conversions `a`, `e`, `f` and `g` writes it. -/
def realText (letter : Char) (precision : Option Nat) (isAlternative : Bool) (number : Double) : Octets :=
  let isUpper := letter.isUpper
  if isNan number then if isUpper then "NAN".toList else "nan".toList
  else if number.isInfinite then if isUpper then "INF".toList else "inf".toList
  else
    let fraction := number.fraction
    let places := precision.getD 6
    match letter.toLower with
    | 'f' => fixedText fraction places isAlternative
    | 'e' => scientificText fraction places isAlternative letter
    | 'a' => hexadecimalText fraction isUpper
    | _ => generalText fraction places isAlternative (if isUpper then 'E' else 'e')

end TemplateLint.Machine
