import TemplateLint.Proofs.FirstFailure
import TemplateLint.Proofs.LinterVersion
import TemplateLint.Proofs.Text.Spacing

set_option autoImplicit false

/-!
The program that settings name as the linter: there always is one, whatever the settings say.

The setting is tested for blanks where it is read, and cut at blanks where a command is made of it.  What the
test lets through has a first word, so neither a check nor an examination is ever without a program.
-/

namespace TemplateLint

open TemplateLint.Text (IsSolid IsWord IsSpaced)

/-! ### The words of the setting -/

theorem Settings.linterPath_of_text {settings : Settings} {text : String}
    (given : settings.get? "path" = some (.string text)) :
    settings.linterPath = if Text.trim text.toList = [] then defaultLinter else text := by
  simp only [linterPath, given, Text.trim_eq_nil_iff]

theorem splitLinter_eq_some_iff (linter program : String) (first : List String) :
    splitLinter? linter = some (program, first) ↔
      IsSpaced ((program :: first).map String.toList) linter.toList := by
  rw [Text.isSpaced_iff]
  unfold splitLinter?
  cases read : Text.words linter.toList with
  | nil => exact ⟨nofun, fun both => absurd both.2.symm both.1⟩
  | cons head rest =>
      constructor
      · intro same
        cases same
        refine ⟨List.cons_ne_nil _ _, ?_⟩
        simp [Function.comp_def]
      · rintro ⟨-, same⟩
        obtain ⟨rfl, rfl⟩ := List.cons.inj same
        simp [Function.comp_def]

theorem Settings.splitLinter_of_spaced {settings : Settings} {program text : String} {first : List String}
    (given : settings.get? "path" = some (.string text))
    (spaced : IsSpaced ((program :: first).map String.toList) text.toList) :
    splitLinter? settings.linterPath = some (program, first) := by
  -- the setting is read with trimming and cut without: a text with a word passes the one test as well
  have speaks : ¬Text.trim text.toList = [] := by
    intro trimmed
    obtain ⟨isSome, read⟩ := (Text.isSpaced_iff _ _).1 spaced
    rw [Text.trim_eq_nil_iff, ← Text.words_eq_nil_iff, read] at trimmed
    exact isSome trimmed
  rw [settings.linterPath_of_text given, if_neg speaks]
  exact (splitLinter_eq_some_iff text program first).2 spaced

/-! ### What is made of the words -/

theorem Invocation.make_of_split {settings : Settings} {program : String} {first : List String}
    (splits : splitLinter? settings.linterPath = some (program, first)) (path directory : Path) :
    make settings path directory =
      (linterArguments settings path).map fun arguments => ⟨program, first ++ arguments, directory⟩ := by
  unfold make
  rw [splits]
  cases linterArguments settings path with
  | error failure => rfl
  | ok arguments => rfl

theorem Inspection.examine_ne_unnamed {σ : Type} (host : Host σ) (settings : Settings) (state : σ) :
    (examine host settings state).1 ≠ .unnamed := by
  obtain ⟨program, first, splits⟩ := settings.exists_splitLinter
  rw [examine_eq_verdict host settings state splits]
  unfold verdict
  split
  · split
    · cases firstLine? _ with
      | none => exact nofun
      | some text => exact nofun
    · exact nofun
  · exact nofun
  · exact nofun

theorem Inspection.Health.message_eq_unnamed_iff (health : Health) :
    health.message = "cfn-lint path is empty" ↔ health = .unnamed := by
  cases health with
  | unnamed => exact ⟨fun _ => rfl, fun _ => rfl⟩
  | unstartable linter =>
      refine ⟨fun same => absurd same ?_, nofun⟩
      change "✗ unable to start '" ++ linter ++ _ ≠ _
      simp [← String.toList_inj]
  | unsuccessful linter =>
      refine ⟨fun same => absurd same ?_, nofun⟩
      change "✗ '" ++ linter ++ _ ≠ _
      simp [← String.toList_inj]
  | working linter version =>
      refine ⟨fun same => absurd same ?_, nofun⟩
      change "✓ " ++ version ++ " (" ++ linter ++ ")" ≠ _
      simp [← String.toList_inj]

/-! ### The program -/

/-- Settings always name a program with words that come first, none of them empty or with a blank.  Commands are
made of just these, and an examination never tells that there is no program.  Where the setting is a text of words
with blanks between them, they are these words. -/
theorem Settings.linter_is_named (settings : Settings) :
    ∃ program first, splitLinter? settings.linterPath = some (program, first) ∧
      (∀ word ∈ program :: first, IsWord word.toList) ∧
      (∀ path directory, Invocation.make settings path directory =
        (linterArguments settings path).map fun arguments => ⟨program, first ++ arguments, directory⟩) ∧
      (∀ {σ : Type} (host : Host σ) (state : σ),
        (Inspection.examine host settings state).1.message ≠ "cfn-lint path is empty") ∧
      ∀ (words : List String) (text : String), settings.get? "path" = some (.string text) →
        IsSpaced (words.map String.toList) text.toList → program :: first = words := by
  obtain ⟨program, first, splits⟩ := settings.exists_splitLinter
  refine ⟨program, first, splits, ?_, Invocation.make_of_split splits, ?_, ?_⟩
  · intro word isWord
    have areSolid : ∀ word ∈ program :: first, IsSolid word.toList :=
      List.forall_mem_cons.2 (isSolid_of_splitLinter splits)
    exact (Text.isWord_iff_isSolid _).2 (areSolid word isWord)
  · intro σ host state told
    have unnamed := (Inspection.Health.message_eq_unnamed_iff _).1 told
    exact Inspection.examine_ne_unnamed host settings state unnamed
  · intro words text given spaced
    cases words with
    | nil => exact absurd rfl ((Text.isSpaced_iff _ _).1 spaced).1
    | cons head rest =>
        rw [settings.splitLinter_of_spaced given spaced] at splits
        cases splits
        rfl

def linterBetweenBlanks : String := "\u2003python3\t\u00A0-m\u3000cfnlint\n"

def settingsBetweenBlanks : Settings :=
  Settings.ofList [("path", .string linterBetweenBlanks), ("ignoreBadTemplate", .boolean true)]

theorem linterBetweenBlanks_spaced :
    IsSpaced (["python3", "-m", "cfnlint"].map String.toList) linterBetweenBlanks.toList := by
  refine (Text.isSpaced_iff _ _).2 ⟨List.cons_ne_nil _ _, ?_⟩
  decide +kernel

theorem Settings.linter_is_named_between_blanks :
    let words := ["python3", "-m", "cfnlint"]
    settingsBetweenBlanks.get? "path" = some (.string linterBetweenBlanks) ∧
    IsSpaced (words.map String.toList) linterBetweenBlanks.toList ∧
    splitLinter? settingsBetweenBlanks.linterPath = some ("python3", ["-m", "cfnlint"]) ∧
    (∀ word ∈ words, IsWord word.toList) ∧
    Invocation.make settingsBetweenBlanks (Path.ofString "/a.yaml") (Path.ofString "/") =
      .ok ⟨"python3", ["-m", "cfnlint", "--format", "json", "--ignore-bad-template", "--", "/a.yaml"],
        Path.ofString "/"⟩ := by
  intro words
  have given : settingsBetweenBlanks.get? "path" = some (.string linterBetweenBlanks) := by decide +kernel
  have arguments : linterArguments settingsBetweenBlanks (Path.ofString "/a.yaml") =
      .ok ["--format", "json", "--ignore-bad-template", "--", "/a.yaml"] := by
    decide +kernel
  obtain ⟨program, first, splits, areWords, made, -, named⟩ := linter_is_named settingsBetweenBlanks
  obtain ⟨rfl, rfl⟩ := List.cons.inj (named words linterBetweenBlanks given linterBetweenBlanks_spaced)
  refine ⟨given, linterBetweenBlanks_spaced, splits, areWords, ?_⟩
  rw [made, arguments]
  rfl

end TemplateLint
