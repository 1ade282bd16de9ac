set_option autoImplicit false

/-!
Coloured text on terminals.

A styled text stands between a sequence that turns its attributes on and one that turns all attributes off.
Where the text itself turns all attributes off, the attributes are turned on again.  `strip` removes all
such sequences.
-/

namespace TemplateLint.Style

inductive Attribute where
  | bold
  | dimmed
  | underline
  | red
  | yellow
  | blue
deriving DecidableEq, Repr

def Attribute.code : Attribute → String
  | .bold => "1"
  | .dimmed => "2"
  | .underline => "4"
  | .red => "31"
  | .yellow => "33"
  | .blue => "34"

def escape : Char := '\x1B'

def codes : List Attribute → List Char
  | [] => []
  | [only] => only.code.toList
  | first :: rest => first.code.toList ++ ';' :: codes rest

def opening (attributes : List Attribute) : List Char :=
  escape :: '[' :: (codes attributes ++ ['m'])

def reset : List Char := [escape, '[', '0', 'm']

/-- The text with a sequence put behind every reset in it. -/
def reopen (start : List Char) : List Char → List Char
  | '\x1B' :: '[' :: '0' :: 'm' :: rest => reset ++ start ++ reopen start rest
  | c :: rest => c :: reopen start rest
  | [] => []

def paint (isColored : Bool) (attributes : List Attribute) (text : String) : String :=
  if isColored then
    String.ofList (opening attributes ++ reopen (opening attributes) text.toList ++ reset)
  else text

def isParameter (c : Char) : Bool := c.isDigit || c == ';'

def afterSequence? (text : List Char) : Option (List Char) :=
  match text with
  | '[' :: rest =>
      match rest.dropWhile isParameter with
      | 'm' :: after => some after
      | _ => none
  | _ => none

theorem afterSequence?_length_lt (text after : List Char) (found : afterSequence? text = some after) :
    after.length < text.length := by
  unfold afterSequence? at found
  split at found
  · rename_i rest
    split at found
    · rename_i tail isTail
      cases found
      have shorter := (List.dropWhile_sublist isParameter (l := rest)).length_le
      rw [isTail, List.length_cons] at shorter
      simp only [List.length_cons]
      omega
    · cases found
  · cases found

def strip : List Char → List Char
  | [] => []
  | c :: rest =>
      if c = escape then
        match _found : afterSequence? rest with
        | some after => strip after
        | none => c :: strip rest
      else c :: strip rest
termination_by text => text.length
decreasing_by
  · have := afterSequence?_length_lt rest after _found
    simp only [List.length_cons]
    omega
  · simp
  · simp

end TemplateLint.Style
