set_option autoImplicit false

/-!
Dates and times: `1979-05-27`, `07:32:00.5`, `1979-05-27T07:32Z`.  Reading a moment checks its numbers and
gives its normal form, in which seconds are always written, a fraction has at most nine digits and no zero at
its end, and an offset of no minutes from a signed form is `+00:00`.
-/

namespace TemplateLint.Toml.Moment

/-- The number that exactly `count` decimal digits write, after those that make `value`. -/
def number : Nat → Nat → List Char → Option (Nat × List Char)
  | 0, value, text => some (value, text)
  | count + 1, value, c :: rest =>
      if c.isDigit then number count (value * 10 + (c.toNat - 48)) rest else none
  | _ + 1, _, [] => none

def padded (width n : Nat) : List Char :=
  let digits := Nat.toDigits 10 n
  List.replicate (width - digits.length) '0' ++ digits

def isLeapYear (year : Nat) : Bool :=
  year % 4 == 0 && (year % 100 != 0 || year % 400 == 0)

def daysOf (year month : Nat) : Nat :=
  if month = 2 then (if isLeapYear year then 29 else 28)
  else if month = 4 ∨ month = 6 ∨ month = 9 ∨ month = 11 then 30
  else 31

def date (text : List Char) : Option (List Char × List Char) := do
  let (year, rest) ← number 4 0 text
  let '-' :: rest := rest | none
  let (month, rest) ← number 2 0 rest
  let '-' :: rest := rest | none
  let (day, rest) ← number 2 0 rest
  if 1 ≤ month ∧ month ≤ 12 ∧ 1 ≤ day ∧ day ≤ daysOf year month then
    pure (padded 4 year ++ '-' :: padded 2 month ++ '-' :: padded 2 day, rest)
  else none

def dropEndZeros (digits : List Char) : List Char :=
  (digits.reverse.dropWhile (· == '0')).reverse

def fraction (text : List Char) : Option (List Char × List Char) :=
  match text with
  | '.' :: rest =>
      let digits := rest.takeWhile Char.isDigit
      if digits.isEmpty then none
      else
        let kept := dropEndZeros (digits.take 9)
        some (if kept.isEmpty then [] else '.' :: kept, rest.dropWhile Char.isDigit)
  | _ => some ([], text)

def time (text : List Char) : Option (List Char × List Char) := do
  let (hour, rest) ← number 2 0 text
  let ':' :: rest := rest | none
  let (minute, rest) ← number 2 0 rest
  let (second, part, rest) ←
    match rest with
    | ':' :: rest => do
        let (second, rest) ← number 2 0 rest
        let (part, rest) ← fraction rest
        pure (second, part, rest)
    | _ => pure (0, [], rest)
  if hour ≤ 23 ∧ minute ≤ 59 ∧ second ≤ 60 then
    pure (padded 2 hour ++ ':' :: padded 2 minute ++ ':' :: padded 2 second ++ part, rest)
  else none

def offset (text : List Char) : Option (List Char) :=
  match text with
  | [] => some []
  | [z] => if z = 'Z' ∨ z = 'z' then some ['Z'] else none
  | sign :: rest =>
      if sign = '+' ∨ sign = '-' then do
        let (hours, rest) ← number 2 0 rest
        let ':' :: rest := rest | none
        let (minutes, rest) ← number 2 0 rest
        if rest.isEmpty ∧ hours ≤ 23 ∧ minutes ≤ 59 then
          let sign := if hours = 0 ∧ minutes = 0 then '+' else sign
          pure (sign :: padded 2 hours ++ ':' :: padded 2 minutes)
        else none
      else none

def normal? (text : List Char) : Option (List Char) :=
  match date text with
  | some (day, []) => some day
  | some (day, separator :: rest) =>
      if separator = 'T' ∨ separator = 't' ∨ separator = ' ' then
        match time rest with
        | some (clock, rest) => (offset rest).map fun shift => day ++ 'T' :: clock ++ shift
        | none => none
      else none
  | none =>
      match time text with
      | some (clock, []) => some clock
      | _ => none

end TemplateLint.Toml.Moment
