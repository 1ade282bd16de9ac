import TemplateLint.Invocation
import TemplateLint.Proofs.Text.Blank

set_option autoImplicit false

/-!
The words of the text that names the linter: the program and the arguments that come first.
-/

namespace TemplateLint

open TemplateLint.Text (IsSolid)

theorem Settings.linterPath_not_blank (settings : Settings) : Text.allBlank settings.linterPath.toList = false := by
  have ofDefault : Text.allBlank defaultLinter.toList = false := by decide
  unfold linterPath
  split
  · split
    · exact ofDefault
    · rename_i speaks
      exact Bool.eq_false_iff.2 speaks
  · exact ofDefault

theorem Settings.exists_splitLinter (settings : Settings) :
    ∃ program first, splitLinter? settings.linterPath = some (program, first) := by
  unfold splitLinter?
  cases words : Text.words settings.linterPath.toList with
  | nil =>
      have blank := (Text.words_eq_nil_iff _).1 words
      rw [settings.linterPath_not_blank] at blank
      cases blank
  | cons program rest => exact ⟨_, _, rfl⟩

theorem isSolid_of_splitLinter {linter program : String} {first : List String}
    (splits : splitLinter? linter = some (program, first)) :
    IsSolid program.toList ∧ ∀ word ∈ first, IsSolid word.toList := by
  unfold splitLinter? at splits
  cases words : Text.words linter.toList with
  | nil =>
      rw [words] at splits
      cases splits
  | cons head rest =>
      have solid : ∀ word ∈ head :: rest, IsSolid word := by
        intro word isWord
        rw [← words] at isWord
        exact Text.isSolid_of_mem_words isWord
      rw [words] at splits
      cases splits
      simpa using solid

end TemplateLint
