import TemplateLint.Text.Utf8

set_option autoImplicit false

/-!
Texts of bytes.

All texts that the shell and the programs of the machine work on are lists of characters below 256, each of
which stands for one byte.
-/

namespace TemplateLint.Machine

abbrev Octets := List Char

def octetsOf (bytes : List UInt8) : Octets :=
  bytes.map fun byte => Char.ofNat byte.toNat

def bytesOf (text : Octets) : List UInt8 :=
  text.map fun c => UInt8.ofNat c.toNat

def octetsOfString (text : String) : Octets := octetsOf (Text.Utf8.bytes text)

/-- True of the texts that come before others, or are equal to them, byte by byte. -/
def notAfter (left right : Octets) : Bool := String.ofList left ≤ String.ofList right

/-! ### Characters -/

def backslash : Char := Char.ofNat 0x5C

def backQuote : Char := Char.ofNat 0x60

def openBrace : Char := Char.ofNat 0x7B

def closeBrace : Char := Char.ofNat 0x7D

def nul : Char := Char.ofNat 0

def isSpace (c : Char) : Bool := c == ' ' || (9 ≤ c.toNat && c.toNat ≤ 13)

def isSpaceOrTab (c : Char) : Bool := c == ' ' || c == '\t'

def isOctal (c : Char) : Bool := '0' ≤ c && c ≤ '7'

def isHex (c : Char) : Bool := c.isDigit || ('a' ≤ c && c ≤ 'f') || ('A' ≤ c && c ≤ 'F')

def isPrintable (c : Char) : Bool := 0x20 ≤ c.toNat && c.toNat < 0x7F

def isPunctuation (c : Char) : Bool := isPrintable c && c != ' ' && !c.isAlphanum

/-- The characters of the class with a name; `none` when there is no such class. -/
def characterClass? (name : Octets) : Option (Char → Bool) :=
  match String.ofList name with
  | "alpha" => some Char.isAlpha
  | "digit" => some Char.isDigit
  | "alnum" => some Char.isAlphanum
  | "upper" => some Char.isUpper
  | "lower" => some Char.isLower
  | "space" => some isSpace
  | "blank" => some isSpaceOrTab
  | "punct" => some isPunctuation
  | "print" => some isPrintable
  | "graph" => some fun c => isPrintable c && c != ' '
  | "cntrl" => some fun c => c.toNat < 0x20 || c.toNat == 0x7F
  | "xdigit" => some isHex
  | _ => none

/-! ### Numbers -/

def digitValue (c : Char) : Nat :=
  if c.isDigit then c.toNat - 0x30 else if c.isUpper then c.toNat - 0x37 else c.toNat - 0x57

def numberIn (base : Nat) (digits : Octets) : Nat :=
  digits.foldl (fun value digit => value * base + digitValue digit) 0

def decimal (digits : Octets) : Nat := numberIn 10 digits

def decimal? (text : Octets) : Option Nat :=
  if text.isEmpty || !text.all Char.isDigit then none else some (decimal text)

def natText (value : Nat) : Octets := (toString value).toList

def intText (value : Int) : Octets := (toString value).toList

/-! ### Parts -/

def joinWith (separator : Octets) : List Octets → Octets
  | [] => []
  | [only] => only
  | first :: rest => first ++ separator ++ joinWith separator rest

def joinWords (words : List Octets) : Octets := joinWith [' '] words

def splitAt (separator : Char) (text : Octets) : List Octets :=
  text.foldr (fun c parts =>
    match parts with
    | [] => if c = separator then [[], []] else [[c]]
    | part :: rest => if c = separator then [] :: part :: rest else (c :: part) :: rest) [[]]

def dropEndWhile (test : Char → Bool) (text : Octets) : Octets :=
  (text.reverse.dropWhile test).reverse

def fullLines (text : Octets) : List Octets :=
  text.foldr (fun c lines =>
    match lines with
    | [] => [[c]]
    | line :: rest => if c = '\n' then ['\n'] :: lines else (c :: line) :: rest) []

def bareLine (line : Octets) : Octets :=
  if line.getLast? = some '\n' then line.dropLast else line

def bareLines (text : Octets) : List Octets := (fullLines text).map bareLine

def asLines (lines : List Octets) : Octets := lines.flatMap fun line => line ++ ['\n']

/-- The text in single quotes, with the single quotes inside it in double ones; at most `fuel` runs. -/
def singleQuotedWithin : Nat → Octets → Octets
  | 0, _ => []
  | fuel + 1, text =>
      let plain := text.takeWhile (· != '\'')
      let behind := text.drop plain.length
      let quotes := behind.takeWhile (· == '\'')
      let rest := behind.drop quotes.length
      let first := '\'' :: plain ++ ['\'']
      if quotes.isEmpty then first
      else
        let middle := '"' :: quotes ++ ['"']
        first ++ middle ++ (if rest.isEmpty then [] else singleQuotedWithin fuel rest)

def singleQuoted (text : Octets) : Octets := singleQuotedWithin (text.length + 1) text

end TemplateLint.Machine
