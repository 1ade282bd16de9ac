import TemplateLint.Regex.Automaton
import TemplateLint.Regex.Meaning
import TemplateLint.Regex.Reader

set_option autoImplicit false

/-!
Patterns from their text.
-/

namespace TemplateLint.Regex

def initialFlags : Flags where
  ignoreCase := true
  multiLine := false
  dotAll := false
  crLf := false
  unicode := true
  swapLazy := false

def Tree.pattern? (tree : Tree) : Option Pattern :=
  match tree.shape? initialFlags with
  | none => none
  | some (shape, _) => if shape.isAllowed then some shape.pattern else none

/-- The pattern that a text writes, ignoring case unless it says otherwise; `none` when it writes none. -/
def compile? (text : String) : Option Pattern :=
  (Reader.tree? text.toList).bind Tree.pattern?

def Pattern.isMatch (pattern : Pattern) (text : String) : Bool :=
  pattern.occursIn text.toList

end TemplateLint.Regex
