import TemplateLint.Machine.Shell.Glob

set_option autoImplicit false

/-!
The fields into which an expanded word is separated.
-/

namespace TemplateLint.Machine.Shell

inductive Glyph where
  | char (mark : Mark)
  | open (c : Char)
  | cut
  | quotation
deriving DecidableEq, Repr

def valueGlyphs (isQuoted : Bool) (text : Octets) : List Glyph :=
  if isQuoted then .quotation :: text.map fun c => .char ⟨c, true⟩ else text.map .open

/-- The elements of a word inside an expansion; what is not quoted in it may be separated. -/
def innerGlyphs (glyphs : List Glyph) : List Glyph :=
  glyphs.map fun glyph => match glyph with
    | .char mark => if mark.isQuoted then .char mark else .open mark.char
    | other => other

def fieldGlyphs (isQuoted : Bool) : List Octets → List Glyph
  | [] => []
  | [only] => valueGlyphs isQuoted only
  | first :: rest => valueGlyphs isQuoted first ++ .cut :: fieldGlyphs isQuoted rest

/-- The characters of a word that is not separated; where fields end, the first separator stands. -/
def marksOf (separators : Octets) (glyphs : List Glyph) : List Mark :=
  glyphs.flatMap fun glyph => match glyph with
    | .char mark => [mark]
    | .open c => [⟨c, false⟩]
    | .cut => (separators.take 1).map fun c => ⟨c, true⟩
    | .quotation => []

def isBlankSeparator (c : Char) : Bool := c == ' ' || c == '\t' || c == '\n'

/-- How far the fields of a word have been separated; `current` is the field that has begun, last character
first, and `afterBlank` says that a blank has just ended a field. -/
structure FieldState where
  finished : List (List Mark) := []
  current : Option (List Mark) := none
  afterBlank : Bool := false

def FieldState.finish (state : FieldState) : FieldState :=
  match state.current with
  | none => state
  | some marks => { state with finished := marks.reverse :: state.finished, current := none }

def FieldState.take (separators : Octets) (state : FieldState) (glyph : Glyph) : FieldState :=
  let extend := fun (mark : Mark) =>
    { state with current := some (mark :: state.current.getD []), afterBlank := false }
  match glyph with
  | .char mark => extend mark
  | .quotation => { state with current := some (state.current.getD []), afterBlank := false }
  | .cut => { state.finish with afterBlank := false }
  | .open c =>
      if !separators.contains c then extend ⟨c, false⟩
      else if isBlankSeparator c then
        { state.finish with afterBlank := state.afterBlank || state.current.isSome }
      else if state.afterBlank then { state with afterBlank := false }
      else
        let whole := { state with current := some (state.current.getD []) }
        { whole.finish with afterBlank := false }

def fieldsOf (separators : Octets) (glyphs : List Glyph) : List (List Mark) :=
  (glyphs.foldl (FieldState.take separators) {}).finish.finished.reverse

end TemplateLint.Machine.Shell
