import TemplateLint.Proofs.FirstFailure
import TemplateLint.Proofs.LinterWords

set_option autoImplicit false

/-!
Reading a shown command line back.

A reader that knows double quotes and spaces finds the program and the arguments again, blank and empty ones
included, as long as none of them has a double quote of its own.
-/

namespace TemplateLint

/-- The words of a shown command line, of which the first is already begun: `begun` holds its characters, last
one first.  Spaces between double quotes belong to words. -/
def shownWordsFrom (isQuoted : Bool) (begun : List Char) : List Char → List String
  | [] => [String.ofList begun.reverse]
  | c :: rest =>
      if c = '"' then shownWordsFrom (!isQuoted) begun rest
      else if c = ' ' ∧ isQuoted = false then String.ofList begun.reverse :: shownWordsFrom false [] rest
      else shownWordsFrom isQuoted (c :: begun) rest

def shownWords (line : String) : List String := shownWordsFrom false [] line.toList

theorem shownWordsFrom_append {isQuoted : Bool} {word : List Char} (quoteFree : '"' ∉ word)
    (goesOn : isQuoted = true ∨ ' ' ∉ word) (begun rest : List Char) :
    shownWordsFrom isQuoted begun (word ++ rest) = shownWordsFrom isQuoted (word.reverse ++ begun) rest := by
  induction word generalizing begun with
  | nil => rfl
  | cons c others ih =>
      obtain ⟨notQuote, quoteFreeBehind⟩ := not_or.1 (mt List.mem_cons.2 quoteFree)
      have notSeparator : ¬(c = ' ' ∧ isQuoted = false) := by
        rintro ⟨rfl, unquoted⟩
        rcases goesOn with quoted | noSpace
        · rw [unquoted] at quoted
          cases quoted
        · exact noSpace List.mem_cons_self
      have goesOnBehind : isQuoted = true ∨ ' ' ∉ others :=
        goesOn.imp_right fun noSpace inOthers => noSpace (List.mem_cons_of_mem c inOthers)
      rw [List.cons_append, shownWordsFrom, if_neg (Ne.symm notQuote), if_neg notSeparator,
        ih quoteFreeBehind goesOnBehind, List.reverse_cons, List.append_assoc]
      rfl

/-- A shown argument is read as the argument, with quotes around it or without. -/
theorem shownWordsFrom_displayArgument (argument : String) (quoteFree : '"' ∉ argument.toList)
    (rest : List Char) :
    shownWordsFrom false [] ((displayArgument argument).toList ++ rest) =
      shownWordsFrom false argument.toList.reverse rest := by
  unfold displayArgument
  split
  · have quoted : ("\"" ++ argument ++ "\"").toList ++ rest = '"' :: (argument.toList ++ '"' :: rest) := by
      simp
    rw [quoted, shownWordsFrom, if_pos rfl, Bool.not_false,
      shownWordsFrom_append quoteFree (.inl rfl), List.append_nil, shownWordsFrom, if_pos rfl]
    rfl
  · rename_i plain
    have noSpace : ' ' ∉ argument.toList := by
      intro isThere
      apply plain
      rw [Bool.or_eq_true, List.any_eq_true]
      exact .inr ⟨' ', isThere, by decide⟩
    rw [shownWordsFrom_append quoteFree (.inr noSpace), List.append_nil]

theorem shownWordsFrom_join (arguments : List String) (quoteFree : ∀ argument ∈ arguments, '"' ∉ argument.toList)
    (begun : List Char) :
    shownWordsFrom false begun (arguments.flatMap fun argument => ' ' :: (displayArgument argument).toList) =
      String.ofList begun.reverse :: arguments := by
  induction arguments generalizing begun with
  | nil => rfl
  | cons argument rest ih =>
      obtain ⟨ofFirst, ofRest⟩ := List.forall_mem_cons.1 quoteFree
      rw [List.flatMap_cons, List.cons_append, shownWordsFrom, if_neg (by decide), if_pos ⟨rfl, rfl⟩,
        shownWordsFrom_displayArgument argument ofFirst, ih ofRest, List.reverse_reverse, String.ofList_toList]

theorem toList_displayCommand (program : String) (arguments : List String) :
    (displayCommand program arguments).toList =
      program.toList ++ arguments.flatMap fun argument => ' ' :: (displayArgument argument).toList := by
  unfold displayCommand
  induction arguments generalizing program with
  | nil => simp [Text.join]
  | cons argument rest ih =>
      change (program ++ " " ++ Text.join " " (displayArgument argument :: rest.map displayArgument)).toList = _
      rw [String.toList_append, String.toList_append, ih, List.flatMap_cons]
      simp

def Invocation.IsQuoteFree (invocation : Invocation) : Prop :=
  ∀ word ∈ invocation.program :: invocation.arguments, '"' ∉ word.toList

theorem shownWords_displayCommand {program : String} {arguments : List String} (noSpace : ' ' ∉ program.toList)
    (quoteFree : ∀ word ∈ program :: arguments, '"' ∉ word.toList) :
    shownWords (displayCommand program arguments) = program :: arguments := by
  obtain ⟨ofProgram, ofArguments⟩ := List.forall_mem_cons.1 quoteFree
  rw [shownWords, toList_displayCommand, shownWordsFrom_append ofProgram (.inr noSpace),
    shownWordsFrom_join arguments ofArguments, List.append_nil, List.reverse_reverse, String.ofList_toList]

/-! ### Commands that are made from settings -/

namespace Invocation

theorem isSolid_program {settings : Settings} {path directory : Path} {invocation : Invocation}
    (made : make settings path directory = .ok invocation) : Text.IsSolid invocation.program.toList := by
  obtain ⟨program, first, splits⟩ := settings.exists_splitLinter
  unfold make at made
  rw [splits] at made
  cases arguments : linterArguments settings path with
  | error failure =>
      rw [arguments] at made
      cases made
  | ok arguments =>
      rw [arguments] at made
      cases made
      exact (isSolid_of_splitLinter splits).1

theorem shownWords_display {settings : Settings} {path directory : Path} {invocation : Invocation}
    (made : make settings path directory = .ok invocation) (quoteFree : invocation.IsQuoteFree) :
    shownWords invocation.display = invocation.program :: invocation.arguments := by
  apply shownWords_displayCommand _ quoteFree
  intro isThere
  exact Bool.false_ne_true ((isSolid_program made).2 ' ' isThere).symm

variable {leftSettings rightSettings : Settings} {leftPath rightPath leftDirectory rightDirectory : Path}
  {left right : Invocation}

/-- Commands without double quotes are shown in the same way only if they have the same program and the same
arguments. -/
theorem words_determined_by_display (leftMade : make leftSettings leftPath leftDirectory = .ok left)
    (rightMade : make rightSettings rightPath rightDirectory = .ok right) (leftQuoteFree : left.IsQuoteFree)
    (rightQuoteFree : right.IsQuoteFree) (sameDisplay : left.display = right.display) :
    left.program = right.program ∧ left.arguments = right.arguments := by
  have leftRead := shownWords_display leftMade leftQuoteFree
  have rightRead := shownWords_display rightMade rightQuoteFree
  rw [sameDisplay, rightRead] at leftRead
  exact ⟨(List.cons.inj leftRead).1.symm, (List.cons.inj leftRead).2.symm⟩

def settingsWithBlanks (linter : String) : Settings :=
  Settings.ofList [("path", .string linter), ("regions", .stringList ["us east", "a\nb", "\u2003"])]

def invocationWithBlanks (directory : Path) : Invocation :=
  ⟨"python3", ["-m", "cfnlint", "--format", "json", "--regions", "us east", "a\nb", "\u2003", "--", ""], directory⟩

theorem invocationWithBlanks_quoteFree (directory : Path) : (invocationWithBlanks directory).IsQuoteFree := by
  change ∀ word ∈ (invocationWithBlanks (Path.ofString "/")).program ::
    (invocationWithBlanks (Path.ofString "/")).arguments, '"' ∉ word.toList
  decide +kernel

theorem words_determined_beside_blanks :
    let left := invocationWithBlanks (Path.ofString "/first")
    let right := invocationWithBlanks (Path.ofString "/second")
    make (settingsWithBlanks "python3\t-m cfnlint") (Path.ofString "") (Path.ofString "/first") = .ok left ∧
    make (settingsWithBlanks " python3 -m\ncfnlint ") (Path.ofString "") (Path.ofString "/second") = .ok right ∧
    left.IsQuoteFree ∧ right.IsQuoteFree ∧
    left.display = "python3 -m cfnlint --format json --regions \"us east\" \"a\nb\" \"\u2003\" -- \"\"" ∧
    left.display = right.display ∧ left.program = right.program ∧ left.arguments = right.arguments := by
  intro left right
  have leftMade : make (settingsWithBlanks "python3\t-m cfnlint") (Path.ofString "") (Path.ofString "/first") =
      .ok left := by
    decide +kernel
  have rightMade : make (settingsWithBlanks " python3 -m\ncfnlint ") (Path.ofString "")
      (Path.ofString "/second") = .ok right := by
    decide +kernel
  have leftQuoteFree := invocationWithBlanks_quoteFree (Path.ofString "/first")
  have rightQuoteFree := invocationWithBlanks_quoteFree (Path.ofString "/second")
  exact ⟨leftMade, rightMade, leftQuoteFree, rightQuoteFree, by decide +kernel, rfl,
    words_determined_by_display leftMade rightMade leftQuoteFree rightQuoteFree rfl⟩

/-- Double quotes inside of words are not told from those around words. -/
example : displayCommand "cfn-lint" ["a b"] = displayCommand "cfn-lint" ["\"a", "b\""] := by
  decide +kernel

end Invocation

end TemplateLint
