import Mathlib.Data.List.TakeWhile
import TemplateLint.Report.Stylish

set_option autoImplicit false

/-!
Colours say nothing: without their sequences, coloured reports are the plain ones without theirs.

Names of files and messages may hold sequences, and pieces of sequences, of their own.  Every part of a report
begins with a character that cannot go on with a sequence, so no sequence forms across two parts.
-/

namespace TemplateLint

namespace Style

/-! ### Sequences -/

def IsSequence (text : List Char) : Prop :=
  ∃ parameters, text = escape :: '[' :: (parameters ++ ['m']) ∧ ∀ c ∈ parameters, c.isDigit = true ∨ c = ';'

/-- A text is what is left of another one when all sequences are deleted. -/
inductive Stripped : List Char → List Char → Prop where
  | nil : Stripped [] []
  | sequence {found rest left : List Char} (isSequence : IsSequence found) (behind : Stripped rest left) :
      Stripped (found ++ rest) left
  | character {c : Char} {rest left : List Char}
      (noSequence : ∀ found after, IsSequence found → c :: rest ≠ found ++ after) (behind : Stripped rest left) :
      Stripped (c :: rest) (c :: left)

theorem isParameter_iff (c : Char) : isParameter c = true ↔ c.isDigit = true ∨ c = ';' := by
  simp [isParameter]

def GoesOn (c : Char) : Prop := c = '[' ∨ isParameter c = true ∨ c = 'm'

instance (c : Char) : Decidable (GoesOn c) := inferInstanceAs (Decidable (c = '[' ∨ isParameter c = true ∨ c = 'm'))

theorem not_goesOn_escape : ¬GoesOn escape := by
  decide

theorem IsSequence.exists_body {found : List Char} (isSequence : IsSequence found) :
    ∃ body, found = escape :: body ∧ ∀ c ∈ body, GoesOn c := by
  obtain ⟨parameters, rfl, areParameters⟩ := isSequence
  refine ⟨_, rfl, ?_⟩
  intro c isThere
  rcases List.mem_cons.1 isThere with isBracket | behind
  · exact .inl isBracket
  · rcases List.mem_append.1 behind with isOne | isLast
    · exact .inr (.inl ((isParameter_iff c).2 (areParameters c isOne)))
    · exact .inr (.inr (List.mem_singleton.1 isLast))

theorem afterSequence?_eq_some_iff (text after : List Char) :
    afterSequence? text = some after ↔ ∃ body, IsSequence (escape :: body) ∧ text = body ++ after := by
  constructor
  · intro isAfter
    unfold afterSequence? at isAfter
    split at isAfter
    · rename_i rest
      split at isAfter
      · rename_i tail ends
        cases isAfter
        refine ⟨'[' :: (rest.takeWhile isParameter ++ ['m']), ⟨_, rfl, ?_⟩, ?_⟩
        · intro c isThere
          exact (isParameter_iff c).1 (List.mem_takeWhile_imp isThere)
        · rw [List.cons_append, List.append_assoc, List.singleton_append, ← ends,
            List.takeWhile_append_dropWhile]
      · cases isAfter
    · cases isAfter
  · rintro ⟨body, ⟨parameters, same, areParameters⟩, rfl⟩
    cases (List.cons.inj same).2
    have areDropped : ∀ c ∈ parameters, isParameter c = true := fun c isThere =>
      (isParameter_iff c).2 (areParameters c isThere)
    have ends : (parameters ++ 'm' :: after).dropWhile isParameter = 'm' :: after := by
      rw [List.dropWhile_append_of_pos areDropped, List.dropWhile_cons_of_neg (by decide)]
    rw [List.cons_append, List.append_assoc, List.singleton_append]
    simp only [afterSequence?, ends]

/-! ### Deleting sequences -/

theorem strip_nil : strip [] = [] := by
  rw [strip]

theorem strip_of_after {text after : List Char} (isAfter : afterSequence? text = some after) :
    strip (escape :: text) = strip after := by
  rw [strip, if_pos rfl]
  split
  · rename_i other found
    rw [isAfter] at found
    cases found
    rfl
  · rename_i none
    rw [isAfter] at none
    cases none

theorem strip_of_no_after {text : List Char} (noAfter : afterSequence? text = none) :
    strip (escape :: text) = escape :: strip text := by
  rw [strip, if_pos rfl]
  split
  · rename_i other found
    rw [noAfter] at found
    cases found
  · rfl

theorem strip_of_ne {c : Char} (notEscape : c ≠ escape) (text : List Char) :
    strip (c :: text) = c :: strip text := by
  rw [strip, if_neg notEscape]

theorem strip_sequence {found : List Char} (isSequence : IsSequence found) (rest : List Char) :
    strip (found ++ rest) = strip rest := by
  obtain ⟨body, rfl, -⟩ := isSequence.exists_body
  exact strip_of_after ((afterSequence?_eq_some_iff _ rest).2 ⟨body, isSequence, rfl⟩)

theorem strip_of_no_sequence {c : Char} {rest : List Char}
    (noSequence : ∀ found after, IsSequence found → c :: rest ≠ found ++ after) :
    strip (c :: rest) = c :: strip rest := by
  by_cases isEscape : c = escape
  · subst isEscape
    apply strip_of_no_after
    cases isAfter : afterSequence? rest with
    | none => rfl
    | some after =>
        obtain ⟨body, isSequence, same⟩ := (afterSequence?_eq_some_iff rest after).1 isAfter
        exact absurd (congrArg (escape :: ·) same) (noSequence _ after isSequence)
  · exact strip_of_ne isEscape rest

/-- Deleting leaves one text and no other. -/
theorem stripped_iff (text left : List Char) : Stripped text left ↔ left = strip text := by
  constructor
  · intro stripped
    induction stripped with
    | nil => exact strip_nil.symm
    | sequence isSequence _ ih => rw [strip_sequence isSequence, ih]
    | character noSequence _ ih => rw [strip_of_no_sequence noSequence, ih]
  · rintro rfl
    induction text using strip.induct with
    | case1 =>
        rw [strip_nil]
        exact .nil
    | case2 rest after isAfter ih =>
        rw [strip_of_after isAfter]
        obtain ⟨body, isSequence, rfl⟩ := (afterSequence?_eq_some_iff rest after).1 isAfter
        exact .sequence isSequence ih
    | case3 rest noAfter ih =>
        rw [strip_of_no_after noAfter]
        refine .character ?_ ih
        intro found after isSequence same
        obtain ⟨body, rfl, -⟩ := isSequence.exists_body
        rw [(afterSequence?_eq_some_iff rest after).2 ⟨body, isSequence, (List.cons.inj same).2⟩] at noAfter
        cases noAfter
    | case4 c rest notEscape ih =>
        rw [strip_of_ne notEscape]
        refine .character ?_ ih
        intro found after isSequence same
        obtain ⟨body, rfl, -⟩ := isSequence.exists_body
        exact notEscape (List.cons.inj same).1

/-! ### Parts of a text -/

def Breaks (text : List Char) : Prop := ∀ c ∈ text.head?, ¬GoesOn c

theorem breaks_cons_iff (c : Char) (rest : List Char) : Breaks (c :: rest) ↔ ¬GoesOn c := by
  simp [Breaks]

instance (text : List Char) : Decidable (Breaks text) :=
  match text with
  | [] => .isTrue nofun
  | c :: rest => decidable_of_iff (¬GoesOn c) (breaks_cons_iff c rest).symm

theorem afterSequence?_append (left : List Char) {right : List Char} (breaks : Breaks right) :
    afterSequence? (left ++ right) = (afterSequence? left).map (· ++ right) := by
  cases isAfter : afterSequence? left with
  | some after =>
      obtain ⟨body, isSequence, rfl⟩ := (afterSequence?_eq_some_iff left after).1 isAfter
      exact (afterSequence?_eq_some_iff _ _).2 ⟨body, isSequence, List.append_assoc body after right⟩
  | none =>
      cases isAfterWhole : afterSequence? (left ++ right) with
      | none => rfl
      | some after =>
          obtain ⟨body, isSequence, same⟩ := (afterSequence?_eq_some_iff _ after).1 isAfterWhole
          -- the sequence ends within the left text, or the first character of the right one goes on with it
          rcases List.append_eq_append_iff.1 same with ⟨more, isBody, isRight⟩ | ⟨more, isLeft, -⟩
          · cases more with
            | nil =>
                rw [List.append_nil] at isBody
                rw [← isBody, (afterSequence?_eq_some_iff body []).2 ⟨body, isSequence, (List.append_nil body).symm⟩]
                  at isAfter
                cases isAfter
            | cons c others =>
                obtain ⟨_, sameBody, goOn⟩ := isSequence.exists_body
                cases sameBody
                have isHead : c ∈ right.head? := by
                  rw [isRight]
                  rfl
                exact absurd (goOn c (by rw [isBody]; simp)) (breaks c isHead)
          · rw [(afterSequence?_eq_some_iff left more).2 ⟨body, isSequence, isLeft⟩] at isAfter
            cases isAfter

/-- Sequences are deleted part by part where no part goes on with a sequence of the one before. -/
theorem strip_append (left : List Char) {right : List Char} (breaks : Breaks right) :
    strip (left ++ right) = strip left ++ strip right := by
  induction left using strip.induct with
  | case1 => rw [strip_nil, List.nil_append, List.nil_append]
  | case2 rest after isAfter ih =>
      have isAfterWhole : afterSequence? (rest ++ right) = some (after ++ right) := by
        rw [afterSequence?_append rest breaks, isAfter, Option.map_some]
      rw [List.cons_append, strip_of_after isAfterWhole, strip_of_after isAfter, ih]
  | case3 rest noAfter ih =>
      have noAfterWhole : afterSequence? (rest ++ right) = none := by
        rw [afterSequence?_append rest breaks, noAfter, Option.map_none]
      rw [List.cons_append, strip_of_no_after noAfterWhole, strip_of_no_after noAfter, ih, List.cons_append]
  | case4 c rest notEscape ih =>
      rw [List.cons_append, strip_of_ne notEscape, strip_of_ne notEscape, ih, List.cons_append]

theorem strip_plain_append {left : List Char} (plain : escape ∉ left) (right : List Char) :
    strip (left ++ right) = left ++ strip right := by
  induction left with
  | nil => rfl
  | cons c rest ih =>
      obtain ⟨notEscape, plainBehind⟩ := not_or.1 (mt List.mem_cons.2 plain)
      rw [List.cons_append, strip_of_ne (Ne.symm notEscape), ih plainBehind, List.cons_append]

theorem strip_of_plain {text : List Char} (plain : escape ∉ text) : strip text = text := by
  have whole := strip_plain_append plain []
  rwa [List.append_nil, strip_nil, List.append_nil] at whole

/-! ### Painted texts -/

theorem isSequence_reset : IsSequence reset := by
  refine ⟨['0'], rfl, ?_⟩
  rw [List.forall_mem_singleton]
  decide

theorem isSequence_opening (attributes : List Attribute) : IsSequence (opening attributes) := by
  have ofCode (one : Attribute) : ∀ c ∈ one.code.toList, c.isDigit = true ∨ c = ';' := by
    have digits : one.code.toList.all Char.isDigit = true := by
      cases one <;> decide
    exact fun c isThere => .inl (List.all_eq_true.1 digits c isThere)
  refine ⟨codes attributes, rfl, ?_⟩
  induction attributes with
  | nil => nofun
  | cons first rest ih =>
      cases rest with
      | nil => exact ofCode first
      | cons second others =>
          intro c isThere
          rcases List.mem_append.1 isThere with ofFirst | behind
          · exact ofCode first c ofFirst
          · rcases List.mem_cons.1 behind with same | ofRest
            · exact .inr same
            · exact ih c ofRest

theorem reopen_of_ne (start : List Char) {c : Char} (notEscape : c ≠ escape) (rest : List Char) :
    reopen start (c :: rest) = c :: reopen start rest :=
  reopen.eq_2 start c rest fun _ isEscape => absurd isEscape notEscape

theorem reopen_plain_append (start : List Char) {left : List Char} (plain : escape ∉ left) (right : List Char) :
    reopen start (left ++ right) = left ++ reopen start right := by
  induction left with
  | nil => rfl
  | cons c rest ih =>
      obtain ⟨notEscape, plainBehind⟩ := not_or.1 (mt List.mem_cons.2 plain)
      rw [List.cons_append, reopen_of_ne start (Ne.symm notEscape), ih plainBehind, List.cons_append]

theorem head?_reopen (start text : List Char) : (reopen start text).head? = text.head? := by
  cases text using reopen.induct with
  | case1 rest => rfl
  | case2 c rest isOther => rw [reopen.eq_2 start c rest isOther, List.head?_cons, List.head?_cons]
  | case3 => rfl

theorem exists_of_reopen_eq (start : List Char) {left after : List Char} (plain : escape ∉ left) (text : List Char)
    (same : reopen start text = left ++ after) : ∃ behind, text = left ++ behind := by
  induction left generalizing text with
  | nil => exact ⟨text, rfl⟩
  | cons c rest ih =>
      obtain ⟨notEscape, plainBehind⟩ := not_or.1 (mt List.mem_cons.2 plain)
      have isHead : text.head? = some c := by
        rw [← head?_reopen start, same]
        rfl
      obtain ⟨others, rfl⟩ := List.head?_eq_some_iff.1 isHead
      rw [reopen_of_ne start (Ne.symm notEscape)] at same
      obtain ⟨behind, rfl⟩ := ih plainBehind others (List.cons.inj same).2
      exact ⟨behind, rfl⟩

/-- A sequence of the text is a sequence of it also when attributes are turned on again. -/
theorem afterSequence?_reopen (start text : List Char) :
    afterSequence? (reopen start text) = (afterSequence? text).map (reopen start) := by
  have plainBody {body : List Char} (isSequence : IsSequence (escape :: body)) : escape ∉ body := by
    obtain ⟨_, same, goOn⟩ := isSequence.exists_body
    cases same
    exact fun isThere => not_goesOn_escape (goOn escape isThere)
  cases isAfter : afterSequence? text with
  | some after =>
      obtain ⟨body, isSequence, rfl⟩ := (afterSequence?_eq_some_iff text after).1 isAfter
      exact (afterSequence?_eq_some_iff _ _).2
        ⟨body, isSequence, reopen_plain_append start (plainBody isSequence) after⟩
  | none =>
      cases isAfterWhole : afterSequence? (reopen start text) with
      | none => rfl
      | some after =>
          obtain ⟨body, isSequence, same⟩ := (afterSequence?_eq_some_iff _ after).1 isAfterWhole
          obtain ⟨behind, rfl⟩ := exists_of_reopen_eq start (plainBody isSequence) text same
          rw [(afterSequence?_eq_some_iff _ behind).2 ⟨body, isSequence, rfl⟩] at isAfter
          cases isAfter

theorem strip_reopen {start : List Char} (isSequence : IsSequence start) (text : List Char) :
    strip (reopen start text) = strip text := by
  induction text using strip.induct with
  | case1 => rw [reopen]
  | case2 rest after isAfter ih =>
      by_cases isReset : ∃ behind, rest = '[' :: '0' :: 'm' :: behind
      · obtain ⟨behind, rfl⟩ := isReset
        have isBehind : afterSequence? ('[' :: '0' :: 'm' :: behind) = some behind := rfl
        have sameAfter : behind = after := Option.some.inj (isBehind.symm.trans isAfter)
        subst sameAfter
        change strip (reset ++ start ++ reopen start behind) = _
        rw [List.append_assoc, strip_sequence isSequence_reset, strip_sequence isSequence, ih,
          strip_of_after isBehind]
      · have isOther : ∀ behind, escape = '\x1B' → rest = '[' :: '0' :: 'm' :: behind → False :=
          fun behind _ same => isReset ⟨behind, same⟩
        have isAfterWhole : afterSequence? (reopen start rest) = some (reopen start after) := by
          rw [afterSequence?_reopen, isAfter, Option.map_some]
        rw [reopen.eq_2 start escape rest isOther, strip_of_after isAfterWhole, ih, strip_of_after isAfter]
  | case3 rest noAfter ih =>
      have isOther : ∀ behind, escape = '\x1B' → rest = '[' :: '0' :: 'm' :: behind → False := by
        rintro behind - rfl
        cases noAfter
      have noAfterWhole : afterSequence? (reopen start rest) = none := by
        rw [afterSequence?_reopen, noAfter, Option.map_none]
      rw [reopen.eq_2 start escape rest isOther, strip_of_no_after noAfterWhole, ih, strip_of_no_after noAfter]
  | case4 c rest notEscape ih => rw [reopen_of_ne start notEscape, strip_of_ne notEscape, strip_of_ne notEscape, ih]

theorem breaks_sequence {found : List Char} (isSequence : IsSequence found) (rest : List Char) :
    Breaks (found ++ rest) := by
  obtain ⟨body, rfl, -⟩ := isSequence.exists_body
  exact (breaks_cons_iff escape _).2 not_goesOn_escape

theorem strip_paint (attributes : List Attribute) (text : String) :
    strip (paint true attributes text).toList = strip (paint false attributes text).toList := by
  have painted : (paint true attributes text).toList =
      opening attributes ++ (reopen (opening attributes) text.toList ++ reset) := by
    rw [paint, if_pos rfl, String.toList_ofList, List.append_assoc]
  have resetLeaves : strip reset = [] := (strip_sequence isSequence_reset []).trans strip_nil
  have resetBreaks : Breaks reset := breaks_sequence isSequence_reset []
  rw [painted, strip_sequence (isSequence_opening attributes), strip_append _ resetBreaks,
    strip_reopen (isSequence_opening attributes), resetLeaves, List.append_nil]
  rfl

/-! ### Texts that differ in colours -/

/-- A part of a coloured text, and the same part without colours. -/
structure SameText (colored plain : String) : Prop where
  coloredBreaks : Breaks colored.toList
  plainBreaks : Breaks plain.toList
  same : strip colored.toList = strip plain.toList

theorem SameText.refl {text : String} (breaks : Breaks text.toList) : SameText text text :=
  ⟨breaks, breaks, rfl⟩

theorem Breaks.append {left right : List Char} (leftBreaks : Breaks left) (rightBreaks : Breaks right) :
    Breaks (left ++ right) := by
  cases left with
  | nil => exact rightBreaks
  | cons c rest => exact leftBreaks

theorem SameText.append {colored plain moreColored morePlain : String} (first : SameText colored plain)
    (behind : SameText moreColored morePlain) : SameText (colored ++ moreColored) (plain ++ morePlain) where
  coloredBreaks := by
    rw [String.toList_append]
    exact first.coloredBreaks.append behind.coloredBreaks
  plainBreaks := by
    rw [String.toList_append]
    exact first.plainBreaks.append behind.plainBreaks
  same := by
    rw [String.toList_append, String.toList_append, strip_append _ behind.coloredBreaks,
      strip_append _ behind.plainBreaks, first.same, behind.same]

theorem SameText.join {α : Type} {colored plain : α → String} (items : List α)
    (each : ∀ item ∈ items, SameText (colored item) (plain item)) :
    SameText (String.join (items.map colored)) (String.join (items.map plain)) := by
  induction items with
  | nil => exact SameText.refl nofun
  | cons item rest ih =>
      obtain ⟨ofFirst, ofRest⟩ := List.forall_mem_cons.1 each
      rw [List.map_cons, List.map_cons, String.join_cons, String.join_cons]
      exact ofFirst.append (ih ofRest)

/-- A text that can stand before any other one: it has characters, the first of them cannot go on with a sequence,
and none begins one. -/
def KeepsApart (lead : String) : Prop := lead.toList ≠ [] ∧ Breaks lead.toList ∧ escape ∉ lead.toList

instance (lead : String) : Decidable (KeepsApart lead) :=
  inferInstanceAs (Decidable (lead.toList ≠ [] ∧ Breaks lead.toList ∧ escape ∉ lead.toList))

namespace KeepsApart

variable {lead : String} (apart : KeepsApart lead)

include apart

theorem breaks (text : String) : Breaks (lead ++ text).toList := by
  obtain ⟨some, breaks, -⟩ := apart
  obtain ⟨c, rest, isLead⟩ := List.exists_cons_of_ne_nil some
  rw [String.toList_append, isLead]
  rw [isLead] at breaks
  exact breaks

theorem sameText (text : String) : SameText (lead ++ text) (lead ++ text) :=
  SameText.refl (apart.breaks text)

theorem painted (attributes : List Attribute) (text : String) :
    SameText (lead ++ paint true attributes text) (lead ++ paint false attributes text) := by
  refine ⟨apart.breaks _, apart.breaks _, ?_⟩
  obtain ⟨-, -, plain⟩ := apart
  rw [String.toList_append, String.toList_append, strip_plain_append plain, strip_plain_append plain, strip_paint]

end KeepsApart

theorem sameText_paint (attributes : List Attribute) {text : String} (breaks : Breaks text.toList) :
    SameText (paint true attributes text) (paint false attributes text) := by
  refine ⟨?_, breaks, strip_paint attributes text⟩
  rw [paint, if_pos rfl, String.toList_ofList, List.append_assoc]
  exact breaks_sequence (isSequence_opening attributes) _

/-! ### Texts without escape characters -/

def IsPlain (text : String) : Prop := escape ∉ text.toList

instance (text : String) : Decidable (IsPlain text) := inferInstanceAs (Decidable (escape ∉ text.toList))

theorem isPlain_append (left right : String) : IsPlain (left ++ right) ↔ IsPlain left ∧ IsPlain right := by
  simp [IsPlain]

theorem isPlain_toString (n : Nat) : IsPlain (toString n) := by
  rw [IsPlain, Nat.toString_eq_repr, Nat.toList_repr]
  intro isDigit
  have digit := Nat.isDigit_of_mem_toDigits (by decide) (by decide) isDigit
  revert digit
  decide

theorem isPlain_toString_word (n : UInt32) : IsPlain (toString n) := isPlain_toString n.toNat

theorem isPlain_join {texts : List String} (each : ∀ text ∈ texts, IsPlain text) : IsPlain (String.join texts) := by
  induction texts with
  | nil => exact nofun
  | cons first rest ih =>
      obtain ⟨ofFirst, ofRest⟩ := List.forall_mem_cons.1 each
      rw [String.join_cons, isPlain_append]
      exact ⟨ofFirst, ih ofRest⟩

theorem isPlain_joinWith (separator : String) (plain : IsPlain separator) {texts : List String}
    (each : ∀ text ∈ texts, IsPlain text) : IsPlain (Text.join separator texts) := by
  induction texts with
  | nil => exact nofun
  | cons first rest ih =>
      obtain ⟨ofFirst, ofRest⟩ := List.forall_mem_cons.1 each
      cases rest with
      | nil => exact ofFirst
      | cons second others =>
          change IsPlain (first ++ separator ++ Text.join separator (second :: others))
          rw [isPlain_append, isPlain_append]
          exact ⟨⟨ofFirst, plain⟩, ih ofRest⟩

end Style

namespace Report

open TemplateLint.Style

/-! ### Reports with colours and without -/

theorem keepsApart_blanks : KeepsApart "  " := by
  decide

theorem keepsApart_lineFeed : KeepsApart "\n" := by
  decide

theorem stylishLine_sameText (diagnostic : Diagnostic) :
    SameText (stylishLine true diagnostic) (stylishLine false diagnostic) := by
  have place := keepsApart_blanks.painted [.dimmed]
    (toString diagnostic.shownLine ++ ":" ++ toString diagnostic.shownColumn)
  have label := keepsApart_blanks.painted [color diagnostic.severity] diagnostic.severity.label
  have message := keepsApart_blanks.sameText diagnostic.message
  have line := ((place.append label).append message).append (keepsApart_lineFeed.sameText "")
  simpa only [stylishLine, String.append_assoc, String.append_empty] using line

theorem stylishPart_sameText (report : Report) : SameText (report.stylishPart true) (report.stylishPart false) := by
  have lineFeed := keepsApart_lineFeed.sameText ""
  unfold stylishPart
  split
  · have blank : KeepsApart " " := by decide
    have name := keepsApart_lineFeed.painted [.bold] report.filePath
    have skipped := blank.painted [.dimmed] "(skipped: not a CloudFormation template)"
    simpa only [String.append_assoc, String.append_empty] using (name.append skipped).append lineFeed
  · split
    · exact SameText.refl nofun
    · have name := keepsApart_lineFeed.painted [.bold, .underline] report.filePath
      have lines := SameText.join report.diagnostics fun diagnostic _ => stylishLine_sameText diagnostic
      exact (name.append lineFeed).append lines

theorem summary_sameText (errors warnings infos : Nat) :
    SameText (summary true errors warnings infos) (summary false errors warnings infos) := by
  unfold summary
  dsimp only
  split
  · exact SameText.refl nofun
  · apply sameText_paint
    simp only [String.append_assoc]
    exact keepsApart_lineFeed.breaks _

theorem stylish_sameText (reports : List Report) : SameText (stylish true reports) (stylish false reports) :=
  (SameText.join reports fun report _ => report.stylishPart_sameText).append (summary_sameText _ _ _)

/-! ### Reports without escape characters -/

def IsPlain (report : Report) : Prop :=
  Style.IsPlain report.filePath ∧ ∀ diagnostic ∈ report.diagnostics, Style.IsPlain diagnostic.message

theorem paint_false (attributes : List Attribute) (text : String) : paint false attributes text = text := rfl

theorem stylishLine_isPlain {diagnostic : Diagnostic} (plain : Style.IsPlain diagnostic.message) :
    Style.IsPlain (stylishLine false diagnostic) := by
  have blanks : Style.IsPlain "  " := by decide
  have colon : Style.IsPlain ":" := by decide
  have lineFeed : Style.IsPlain "\n" := by decide
  have label : Style.IsPlain diagnostic.severity.label := by
    cases diagnostic.severity <;> decide
  simp only [stylishLine, paint_false, isPlain_append, isPlain_toString_word, blanks, colon, label, plain, lineFeed,
    and_self]

theorem stylishPart_isPlain {report : Report} (plain : report.IsPlain) :
    Style.IsPlain (report.stylishPart false) := by
  have lineFeed : Style.IsPlain "\n" := by decide
  have blank : Style.IsPlain " " := by decide
  have skipped : Style.IsPlain "(skipped: not a CloudFormation template)" := by decide
  have lines : Style.IsPlain (String.join (report.diagnostics.map (stylishLine false))) := by
    apply isPlain_join
    intro line isLine
    obtain ⟨diagnostic, isOne, rfl⟩ := List.mem_map.1 isLine
    exact stylishLine_isPlain (plain.2 diagnostic isOne)
  unfold stylishPart
  split
  · simp only [paint_false, isPlain_append, plain.1, lineFeed, blank, skipped, and_self]
  · split
    · decide
    · simp only [paint_false, isPlain_append, plain.1, lineFeed, lines, and_self]

theorem plural_isPlain (count : Nat) (word : String) (plain : Style.IsPlain word) :
    Style.IsPlain (plural count word) := by
  have blank : Style.IsPlain " " := by decide
  have ending : Style.IsPlain (if count = 1 then "" else "s") := by
    split
    · decide
    · decide
  simp only [plural, isPlain_append, isPlain_toString, blank, plain, ending, and_self]

theorem summaryParts_isPlain (errors warnings infos : Nat) :
    ∀ part ∈ summaryParts errors warnings infos, Style.IsPlain part := by
  have infoPlain : Style.IsPlain (toString infos ++ " info") := by
    rw [isPlain_append]
    exact ⟨isPlain_toString infos, by decide⟩
  have errorsPlain : Style.IsPlain (plural errors "error") := plural_isPlain errors "error" (by decide)
  have warningsPlain : Style.IsPlain (plural warnings "warning") := plural_isPlain warnings "warning" (by decide)
  intro part isPart
  simp only [summaryParts, List.mem_append, List.mem_ite_nil_right, List.mem_singleton] at isPart
  rcases isPart with (⟨-, rfl⟩ | ⟨-, rfl⟩) | ⟨-, rfl⟩
  · exact errorsPlain
  · exact warningsPlain
  · exact infoPlain

theorem summary_isPlain (errors warnings infos : Nat) : Style.IsPlain (summary false errors warnings infos) := by
  have lineFeed : Style.IsPlain "\n" := by decide
  have opens : Style.IsPlain " (" := by decide
  have closes : Style.IsPlain ")\n" := by decide
  have problems := plural_isPlain (errors + warnings + infos) "problem" (by decide)
  have parts := isPlain_joinWith ", " (by decide) (summaryParts_isPlain errors warnings infos)
  unfold summary
  dsimp only
  split
  · decide
  · simp only [paint_false, isPlain_append, lineFeed, opens, closes, problems, parts, and_self]

theorem stylish_isPlain {reports : List Report} (plain : ∀ report ∈ reports, report.IsPlain) :
    Style.IsPlain (stylish false reports) := by
  rw [stylish, isPlain_append]
  refine ⟨isPlain_join ?_, summary_isPlain _ _ _⟩
  intro part isPart
  obtain ⟨report, isReport, rfl⟩ := List.mem_map.1 isPart
  exact stylishPart_isPlain (plain report isReport)

/-- Deleting the sequences leaves the same text of coloured reports as of plain ones, and it leaves the plain
reports themselves when no name of a file and no message has an escape character. -/
theorem stylish_stripped (reports : List Report) :
    ∃ text, (∀ left, Stripped (stylish true reports).toList left ↔ left = text) ∧
      (∀ left, Stripped (stylish false reports).toList left ↔ left = text) ∧
      ((∀ report ∈ reports, report.IsPlain) → text = (stylish false reports).toList) := by
  refine ⟨strip (stylish false reports).toList, ?_, stripped_iff _, ?_⟩
  · rw [← (stylish_sameText reports).same]
    exact stripped_iff _
  · intro plain
    exact strip_of_plain (stylish_isPlain plain)

def reportWithPieces : Report :=
  ⟨"[1m.yaml", "file:///%5B1m.yaml", false, [⟨⟨⟨4, 2⟩, ⟨4, 9⟩⟩, .warning, "31m [0m", "cfn-lint"⟩]⟩

theorem stylish_stripped_of_pieces :
    (∀ report ∈ [reportWithPieces], report.IsPlain) ∧
    (stylish false [reportWithPieces]).toList =
      "\n[1m.yaml\n  5:3  warning  31m [0m\n\n1 problem (1 warning)\n".toList ∧
    Stripped (stylish true [reportWithPieces]).toList (stylish false [reportWithPieces]).toList := by
  have plain : ∀ report ∈ [reportWithPieces], report.IsPlain := by
    intro report isOne
    rw [List.mem_singleton.1 isOne]
    refine ⟨by decide, ?_⟩
    intro diagnostic isOnly
    rw [List.mem_singleton.1 isOnly]
    decide
  obtain ⟨text, ofColored, -, isPlainText⟩ := stylish_stripped [reportWithPieces]
  exact ⟨plain, by decide +kernel, (ofColored _).2 (isPlainText plain).symm⟩

end Report

end TemplateLint
