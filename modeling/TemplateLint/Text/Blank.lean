set_option autoImplicit false

/-!
Blank characters, and the cuts of a text that are made at them: trimming, words and lines.

A blank is a character with the Unicode property `White_Space`.  Every module that asks for blanks asks
here, so that "blank path", "blank output" and "word of a command" mean the same thing.
-/

namespace TemplateLint.Text

/-- The characters with the Unicode property `White_Space`. -/
def isBlank (c : Char) : Bool :=
  let n := c.toNat
  (9 ≤ n && n ≤ 13) || n == 0x20 || n == 0x85 || n == 0xA0 || n == 0x1680 ||
    (0x2000 ≤ n && n ≤ 0x200A) || n == 0x2028 || n == 0x2029 || n == 0x202F || n == 0x205F ||
    n == 0x3000

def allBlank (text : List Char) : Bool :=
  text.all isBlank

def trimStart (text : List Char) : List Char :=
  text.dropWhile isBlank

def trimEnd : List Char → List Char
  | [] => []
  | c :: rest =>
      match trimEnd rest with
      | [] => if isBlank c then [] else [c]
      | kept => c :: kept

def trim (text : List Char) : List Char :=
  trimEnd (trimStart text)

/-- Words of a text whose first word is already begun: `begun` holds its characters, last one first. -/
def wordsFrom : List Char → List Char → List (List Char)
  | begun, [] => if begun.isEmpty then [] else [begun.reverse]
  | begun, c :: rest =>
      if isBlank c then
        if begun.isEmpty then wordsFrom [] rest else begun.reverse :: wordsFrom [] rest
      else wordsFrom (c :: begun) rest

def words (text : List Char) : List (List Char) :=
  wordsFrom [] text

def dropReturn (line : List Char) : List Char :=
  match line.getLast? with
  | some '\r' => line.dropLast
  | _ => line

def linesFrom : List Char → List Char → List (List Char)
  | begun, [] => if begun.isEmpty then [] else [begun.reverse]
  | begun, '\n' :: rest => dropReturn begun.reverse :: linesFrom [] rest
  | begun, c :: rest => linesFrom (c :: begun) rest

/-- The lines of a text.  A line ends with a line feed, before which a carriage return may stand; what
follows the last line feed is a line when it is not empty. -/
def lines (text : List Char) : List (List Char) :=
  linesFrom [] text

def splitAt (separator : Char) : List Char → List (List Char)
  | [] => [[]]
  | c :: rest =>
      match splitAt separator rest with
      | [] => [[c]]
      | first :: others => if c = separator then [] :: first :: others else (c :: first) :: others

def join (separator : String) : List String → String
  | [] => ""
  | [only] => only
  | first :: rest => first ++ separator ++ join separator rest

end TemplateLint.Text
