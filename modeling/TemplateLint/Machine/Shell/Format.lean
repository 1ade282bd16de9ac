import TemplateLint.Machine.Real
import TemplateLint.Machine.Shell.Arithmetic

set_option autoImplicit false

/-!
The texts that printing commands write: escapes after backslashes, and formats with conversions that are
applied again until all operands are used.
-/

namespace TemplateLint.Machine.Shell

/-! ### Escapes -/

def octalByte (digits : Octets) : Char := Char.ofNat (numberIn 8 digits % 256)

def letterEscape? : Char → Option Char
  | 'a' => some (Char.ofNat 7)
  | 'b' => some (Char.ofNat 8)
  | 'e' => some (Char.ofNat 27)
  | 'f' => some (Char.ofNat 12)
  | 'n' => some '\n'
  | 'r' => some '\r'
  | 't' => some '\t'
  | 'v' => some (Char.ofNat 11)
  | c => if c = backslash then some backslash else none

/-- A byte behind a backslash, with the text behind its escape.  Unknown escapes are left as they are. -/
def readEscape (text : Octets) : Char × Octets :=
  match text with
  | [] => (backslash, [])
  | c :: rest =>
      if isOctal c then
        let digits := (text.take 3).takeWhile isOctal
        (octalByte digits, text.drop digits.length)
      else
        match letterEscape? c with
        | some byte => (byte, rest)
        | none => (backslash, text)

/-- A text with its escapes replaced, and whether an escape ended the printing.  Octal escapes may have one
more zero in front here.  At most `fuel` characters are read. -/
def unescapeWithin : Nat → Octets → Octets × Bool
  | 0, _ => ([], false)
  | _ + 1, [] => ([], false)
  | fuel + 1, c :: rest =>
      if c = backslash then
        match rest with
        | 'c' :: _ => ([], true)
        | '0' :: d :: after =>
            let (byte, behind) := readEscape (if isOctal d then d :: after else rest)
            let (text, isEnd) := unescapeWithin fuel behind
            (byte :: text, isEnd)
        | _ =>
            let (byte, behind) := readEscape rest
            let (text, isEnd) := unescapeWithin fuel behind
            (byte :: text, isEnd)
      else
        let (text, isEnd) := unescapeWithin fuel rest
        (c :: text, isEnd)

def unescape (text : Octets) : Octets × Bool := unescapeWithin (text.length + 1) text

def echoText (operands : List Octets) : Octets :=
  let (hasEnd, operands) :=
    match operands with
    | ['-', 'n'] :: rest => (false, rest)
    | _ => (true, operands)
  let (text, isEnd) := unescape (joinWords operands)
  if hasEnd && !isEnd then text ++ ['\n'] else text

/-! ### Formats -/

inductive Size where
  | none
  | given (size : Nat)
  | operand
deriving DecidableEq, Repr

structure Conversion where
  flags : Octets
  width : Size
  precision : Size
  letter : Char
deriving DecidableEq, Repr

inductive FormatItem where
  | byte (c : Char)
  | conversion (conversion : Conversion)
  | malformed (reason : Octets)
deriving DecidableEq, Repr

def sizeAt (text : Octets) : Size × Octets :=
  match text with
  | '*' :: rest => (.operand, rest)
  | _ =>
      let digits := text.takeWhile Char.isDigit
      (if digits.isEmpty then .none else .given (decimal digits), text.drop digits.length)

def conversionAt (text : Octets) : FormatItem × Octets :=
  let flags := text.takeWhile fun c => "#-+ 0".toList.contains c
  let (width, rest) := sizeAt (text.drop flags.length)
  let (precision, rest) := match rest with
    | '.' :: after =>
        let (size, rest) := sizeAt after
        (if size = .none then .given 0 else size, rest)
    | _ => (.none, rest)
  match rest with
  | [] => (.malformed "missing format character".toList, [])
  | letter :: after =>
      if "bcsdiouxXaAeEfFgG".toList.contains letter then (.conversion ⟨flags, width, precision, letter⟩, after)
      else
        let directive := '%' :: text.take (text.length - after.length)
        (.malformed (directive ++ ": invalid directive".toList), [])

def readFormat : Nat → Octets → List FormatItem
  | 0, _ => []
  | _ + 1, [] => []
  | fuel + 1, c :: rest =>
      if c = backslash then
        let (byte, behind) := readEscape rest
        .byte byte :: readFormat fuel behind
      else if c != '%' then .byte c :: readFormat fuel rest
      else
        match rest with
        | '%' :: after => .byte '%' :: readFormat fuel after
        | _ =>
            let (item, behind) := conversionAt rest
            item :: readFormat fuel behind

def padTo (isLeft : Bool) (width : Nat) (text : Octets) : Octets :=
  if isLeft then text ++ List.replicate (width - text.length) ' ' else padFront width ' ' text

def signedText (flags : Octets) (isPadded : Bool) (width : Nat) (sign digits : Octets) : Octets :=
  let isLeft := flags.contains '-'
  if isPadded && flags.contains '0' && !isLeft then sign ++ padFront (width - sign.length) '0' digits
  else padTo isLeft width (sign ++ digits)

def signOf (flags : Octets) (isNegative : Bool) : Octets :=
  if isNegative then ['-'] else if flags.contains '+' then ['+'] else if flags.contains ' ' then [' '] else []

def integerText (flags : Octets) (width : Nat) (precision : Option Nat) (letter : Char) (value : Int) : Octets :=
  let isSigned := letter = 'd' || letter = 'i'
  let magnitude := if isSigned then value.natAbs else unsigned value
  let digits := match letter with
    | 'x' => Nat.toDigits 16 magnitude
    | 'X' => (Nat.toDigits 16 magnitude).map Char.toUpper
    | 'o' =>
        let digits := Nat.toDigits 8 magnitude
        if flags.contains '#' && digits.head? != some '0' then '0' :: digits else digits
    | _ => natText magnitude
  let digits := if precision = some 0 && magnitude = 0 then [] else padFront (precision.getD 1) '0' digits
  let sign : Octets :=
    if isSigned then signOf flags (value < 0)
    else if flags.contains '#' && magnitude != 0 then
      match letter with
      | 'x' => ['0', 'x']
      | 'X' => ['0', 'X']
      | _ => []
    else []
  signedText flags precision.isNone width sign digits

def realConversion (flags : Octets) (width : Nat) (precision : Option Nat) (letter : Char)
    (value : Double) : Octets :=
  let digits := realText letter precision (flags.contains '#') value
  signedText flags (isFinite value) width (signOf flags value.isNegative) digits

/-! ### Operands -/

/-- The integer that an operand writes, with what is wrong with it.  A quote asks for the number of the byte
behind it. -/
def integerOperand (isSigned : Bool) (operand : Octets) : Int × Option String :=
  match operand with
  | '\'' :: rest | '"' :: rest => (Int.ofNat ((rest.head?.map Char.toNat).getD 0), none)
  | _ =>
      let trimmed := operand.dropWhile isSpace
      let (isNegative, digits) := match trimmed with
        | '-' :: rest => (true, rest)
        | '+' :: rest => (false, rest)
        | other => (false, other)
      if (digits.head?.map Char.isDigit).getD false then
        let (magnitude, behind) := constantAt digits
        let value := if isNegative then -Int.ofNat magnitude else Int.ofNat magnitude
        let highest := if isSigned then greatest else Int.ofNat (Nat.pow 2 64) - 1
        let lowest := if isSigned then least else -highest
        let inRange := max lowest (min highest value)
        if !behind.isEmpty then (inRange, some "not completely converted")
        else if inRange = value then (value, none)
        else (if isSigned then inRange else highest, some "Numerical result out of range")
      else (0, if operand.isEmpty then none else some "expected numeric value")

def realOperand (operand : Octets) : Double × Option String :=
  match operand with
  | '\'' :: rest | '"' :: rest => (Double.ofNat ((rest.head?.map Char.toNat).getD 0), none)
  | _ =>
      match realAt? operand with
      | none => (Double.ofNat 0, if operand.isEmpty then none else some "expected numeric value")
      | some (value, rest) =>
          if !rest.isEmpty then (value, some "not completely converted")
          else if value.isInfinite && operand.any Char.isDigit then
            (value, some "Numerical result out of range")
          else (value, none)

structure Printing where
  parts : List Octets := []
  complaints : List Octets := []
  isEnd : Bool := false
  failure : Option Octets := none
  operands : List Octets

namespace Printing

def text (printing : Printing) : Octets := printing.parts.reverse.flatten

def add (printing : Printing) (text : Octets) : Printing := { printing with parts := text :: printing.parts }

def take (printing : Printing) : Octets × Printing :=
  (printing.operands.head?.getD [], { printing with operands := printing.operands.drop 1 })

def note (printing : Printing) (operand : Octets) (reason : Option String) : Printing :=
  match reason with
  | none => printing
  | some reason =>
      { printing with complaints := (operand ++ (": " ++ reason).toList) :: printing.complaints }

def takeSize (printing : Printing) (size : Size) : Option Int × Printing :=
  match size with
  | .none => (none, printing)
  | .given size => (some (Int.ofNat size), printing)
  | .operand =>
      let (operand, printing) := printing.take
      let (value, reason) := integerOperand true operand
      (some value, printing.note operand reason)

def convert (printing : Printing) (conversion : Conversion) : Printing :=
  let (width, printing) := printing.takeSize conversion.width
  let (precision, printing) := printing.takeSize conversion.precision
  let flags := if width.any (· < 0) then '-' :: conversion.flags else conversion.flags
  let width := (width.getD 0).natAbs
  let precision := (precision.filter (0 ≤ ·)).map Int.toNat
  let isLeft := flags.contains '-'
  let cut := fun (text : Octets) => match precision with
    | some limit => text.take limit
    | none => text
  let (operand, printing) := printing.take
  match conversion.letter with
  | 's' => printing.add (padTo isLeft width (cut operand))
  | 'b' =>
      let (text, isEnd) := unescape operand
      { printing.add (padTo isLeft width (cut text)) with isEnd := isEnd }
  | 'c' => printing.add (padTo isLeft width (if operand.isEmpty then [nul] else operand.take 1))
  | letter =>
      if "diouxX".toList.contains letter then
        let (value, reason) := integerOperand (letter == 'd' || letter == 'i') operand
        (printing.note operand reason).add (integerText flags width precision letter value)
      else
        let (value, reason) := realOperand operand
        (printing.note operand reason).add (realConversion flags width precision letter value)

def addItems (printing : Printing) : List FormatItem → Printing
  | [] => printing
  | .byte c :: rest => (printing.add [c]).addItems rest
  | .malformed reason :: _ => { printing with failure := some reason }
  | .conversion conversion :: rest =>
      let printing := printing.convert conversion
      if printing.isEnd then printing else printing.addItems rest

end Printing

/-- Writes the parts of a format until all operands are used, at most `fuel` times. -/
def printAll (items : List FormatItem) : Nat → Printing → Printing
  | 0, printing => printing
  | fuel + 1, printing =>
      let after := printing.addItems items
      if after.isEnd || after.failure.isSome || after.operands.isEmpty ||
          after.operands.length = printing.operands.length then after
      else printAll items fuel after

def printingOf (format : Octets) (operands : List Octets) : Printing :=
  printAll (readFormat (format.length + 1) format) (operands.length + 1) { operands := operands }

end TemplateLint.Machine.Shell
