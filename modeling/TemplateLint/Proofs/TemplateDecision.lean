import TemplateLint.Proofs.Detection
import TemplateLint.Proofs.Regex.Search

set_option autoImplicit false

/-!
Which documents are templates, said without markers and searches.

The optional parts at the ends of a marker change nothing, because a search may begin and end anywhere.  What is
left of the two markers are two conditions on parts of the text.
-/

namespace TemplateLint

open TemplateLint.Regex (Pattern)

/-! ### Blanks -/

namespace Unicode

theorem blankSet_intervals : blankSet.intervals =
    [(0x9, 0xD), (0x20, 0x20), (0x85, 0x85), (0xA0, 0xA0), (0x1680, 0x1680), (0x2000, 0x200A), (0x2028, 0x2029),
      (0x202F, 0x202F), (0x205F, 0x205F), (0x3000, 0x3000)] := by
  decide +kernel

/-- The table of the property and the rule for blanks have the same characters. -/
theorem contains_blankSet (c : Char) : blankSet.contains c = Text.isBlank c := by
  rw [Bool.eq_iff_iff]
  simp only [CodeSet.contains, CodeSet.containsCode, blankSet_intervals, Text.isBlank, List.any_cons, List.any_nil,
    Bool.or_false, Bool.or_eq_true, Bool.and_eq_true, decide_eq_true_iff, beq_iff_eq]
  omega

end Unicode

namespace Template

variable {before : Option Char} {part after : List Char}

/-! ### Markers -/

theorem matches_optionalQuote_iff :
    optionalQuote.Matches before part after ↔ part = [] ∨ part = ['"'] := by
  rw [optionalQuote, Pattern.matches_optional_iff, Pattern.matches_single_iff]

theorem matches_blanks_iff :
    blanks.Matches before part after ↔ ∀ c ∈ part, Text.isBlank c = true := by
  rw [blanks, Pattern.matches_many_one_iff]
  simp only [Unicode.contains_blankSet]

def versionWord : List Char := "AWSTemplateFormatVersion".toList

/-- The resources, at most one quote, blanks and a colon. -/
def IsResourcesKey (text : List Char) : Prop :=
  ∃ quote space, (quote = [] ∨ quote = ['"']) ∧ (∀ c ∈ space, Text.isBlank c = true) ∧
    text = "Resources".toList ++ quote ++ space ++ [':']

structure HasMarkers (text : String) : Prop where
  version : versionWord <:+: text.toList
  resources : ∃ key, IsResourcesKey key ∧ key <:+: text.toList

theorem matches_quotedWord_iff (word : List Char) :
    Pattern.Matches (.seq optionalQuote (.seq (.literal word) (.seq optionalQuote blanks))) before part after ↔
      ∃ quote ending space, (quote = [] ∨ quote = ['"']) ∧ (ending = [] ∨ ending = ['"']) ∧
        (∀ c ∈ space, Text.isBlank c = true) ∧ part = quote ++ word ++ ending ++ space := by
  simp only [Pattern.matches_seq_iff, Pattern.matches_literal_iff, matches_optionalQuote_iff, matches_blanks_iff]
  constructor
  · rintro ⟨quote, _, rfl, isQuote, _, _, rfl, rfl, ending, space, rfl, isEnding, isSpace⟩
    exact ⟨quote, ending, space, isQuote, isEnding, isSpace, by simp only [List.append_assoc]⟩
  · rintro ⟨quote, ending, space, isQuote, isEnding, isSpace, rfl⟩
    exact ⟨quote, word ++ (ending ++ space), by simp only [List.append_assoc], isQuote, word, ending ++ space, rfl,
      rfl, ending, space, rfl, isEnding, isSpace⟩

/-- The optional parts beside a word do not matter to a search. -/
theorem quotedWord_occurs_iff (word text : List Char) :
    Pattern.Occurs (.seq optionalQuote (.seq (.literal word) (.seq optionalQuote blanks))) text ↔ word <:+: text := by
  constructor
  · rintro ⟨left, part, right, rfl, isMatch⟩
    obtain ⟨quote, ending, space, -, -, -, rfl⟩ := (matches_quotedWord_iff word).1 isMatch
    exact ⟨left ++ quote, ending ++ space ++ right, by simp only [List.append_assoc]⟩
  · rintro ⟨left, right, rfl⟩
    refine ⟨left, word, right, rfl, (matches_quotedWord_iff word).2 ⟨[], [], [], .inl rfl, .inl rfl, nofun, ?_⟩⟩
    rw [List.append_nil, List.append_nil, List.nil_append]

theorem versionMarker_occurs_iff (text : List Char) : versionMarker.Occurs text ↔ versionWord <:+: text :=
  quotedWord_occurs_iff versionWord text

theorem matches_resourcesMarker_iff :
    resourcesMarker.Matches before part after ↔
      ∃ lineFeed quote key, (lineFeed = [] ∨ lineFeed = ['\n']) ∧ (quote = [] ∨ quote = ['"']) ∧
        IsResourcesKey key ∧ part = lineFeed ++ quote ++ key := by
  simp only [resourcesMarker, Pattern.matches_seq_iff, Pattern.matches_literal_iff, Pattern.matches_optional_iff,
    Pattern.matches_single_iff, matches_optionalQuote_iff, matches_blanks_iff]
  constructor
  · rintro ⟨lineFeed, _, rfl, isLineFeed, quote, _, rfl, isQuote, _, _, rfl, rfl, ending, _, rfl, isEnding, space, _,
      rfl, isSpace, rfl⟩
    exact ⟨lineFeed, quote, _, isLineFeed, isQuote, ⟨ending, space, isEnding, isSpace, rfl⟩,
      by simp only [List.append_assoc]⟩
  · rintro ⟨lineFeed, quote, _, isLineFeed, isQuote, ⟨ending, space, isEnding, isSpace, rfl⟩, rfl⟩
    exact ⟨lineFeed, _, by simp only [List.append_assoc], isLineFeed, quote, _, rfl, isQuote, _, _, rfl, rfl, ending, _,
      rfl, isEnding, space, _, rfl, isSpace, rfl⟩

theorem resourcesMarker_occurs_iff (text : List Char) :
    resourcesMarker.Occurs text ↔ ∃ key, IsResourcesKey key ∧ key <:+: text := by
  constructor
  · rintro ⟨left, part, right, rfl, isMatch⟩
    obtain ⟨lineFeed, quote, key, -, -, isKey, rfl⟩ := matches_resourcesMarker_iff.1 isMatch
    exact ⟨key, isKey, left ++ lineFeed ++ quote, right, by simp only [List.append_assoc]⟩
  · rintro ⟨key, isKey, left, right, rfl⟩
    exact ⟨left, key, right, rfl, matches_resourcesMarker_iff.2 ⟨[], [], key, .inl rfl, .inl rfl, isKey, rfl⟩⟩

theorem isStandard_iff (text : String) : isStandard text = true ↔ HasMarkers text := by
  rw [isStandard, Bool.and_eq_true, Pattern.isMatch, Pattern.isMatch, Pattern.occursIn_iff, Pattern.occursIn_iff,
    versionMarker_occurs_iff, resourcesMarker_occurs_iff]
  exact ⟨fun both => ⟨both.1, both.2⟩, fun markers => ⟨markers.version, markers.resources⟩⟩

theorem isStandard_eq_false_iff (text : String) : isStandard text = false ↔ ¬ HasMarkers text := by
  rw [← isStandard_iff, Bool.not_eq_true]

/-! ### Patterns of the settings -/

def IsReadable (written : String) : Prop :=
  ∃ pattern, Regex.compile? written = some pattern

def Finds (document written : String) : Prop :=
  ∃ pattern, Regex.compile? written = some pattern ∧ pattern.Occurs document.toList

def FirstFinding (document : String) (texts : List String) (written : String) : Prop :=
  ∃ earlier later, texts = earlier ++ written :: later ∧ Finds document written ∧
    ∀ other ∈ earlier, ¬ Finds document other

theorem compile_ok_iff (texts : List String) (compiled : List Pattern) :
    compile texts = .ok compiled ↔
      List.Forall₂ (fun text pattern => Regex.compile? text = some pattern) texts compiled := by
  have read (text : String) (pattern : Pattern) :
      readPattern text = .ok pattern ↔ Regex.compile? text = some pattern := by
    unfold readPattern
    cases Regex.compile? text with
    | none => exact ⟨nofun, nofun⟩
    | some found => rw [Except.ok.injEq, Option.some.injEq]
  rw [compile_eq_mapM, mapM_ok_iff_forall₂]
  simp only [read]

theorem finds_iff_of_compile {written : String} {pattern : Pattern}
    (writes : Regex.compile? written = some pattern) (document : String) :
    Finds document written ↔ pattern.isMatch document = true := by
  rw [Pattern.isMatch, Pattern.occursIn_iff]
  constructor
  · rintro ⟨other, writesOther, occurs⟩
    cases writes.symm.trans writesOther
    exact occurs
  · intro occurs
    exact ⟨pattern, writes, occurs⟩

theorem isReadable_of_forall₂ {texts : List String} {compiled : List Pattern}
    (each : List.Forall₂ (fun text pattern => Regex.compile? text = some pattern) texts compiled) :
    ∀ written ∈ texts, IsReadable written := by
  induction each with
  | nil => exact nofun
  | cons writes _ ih => exact List.forall_mem_cons.2 ⟨⟨_, writes⟩, ih⟩

theorem firstMatch?_cases {texts : List String} {compiled : List Pattern}
    (each : List.Forall₂ (fun text pattern => Regex.compile? text = some pattern) texts compiled)
    (document : String) :
    (firstMatch? document compiled = none ∧ ∀ written ∈ texts, ¬ Finds document written) ∨
      ∃ index, firstMatch? document compiled = some index ∧ FirstFinding document texts (texts.getD index "") := by
  induction each with
  | nil => exact .inl ⟨rfl, nofun⟩
  | @cons written pattern texts compiled writes _ ih =>
      have finds := finds_iff_of_compile writes document
      unfold firstMatch? at ih ⊢
      rw [List.findIdx?_cons]
      by_cases isMatch : pattern.isMatch document = true
      · rw [if_pos isMatch]
        exact .inr ⟨0, rfl, [], texts, rfl, finds.2 isMatch, nofun⟩
      · have findsNothing : ¬ Finds document written := mt finds.1 isMatch
        rw [if_neg isMatch]
        rcases ih with ⟨none, noneFinds⟩ | ⟨index, isIndex, earlier, later, split, isFirst, before⟩
        · rw [none]
          exact .inl ⟨rfl, List.forall_mem_cons.2 ⟨findsNothing, noneFinds⟩⟩
        · rw [isIndex]
          refine .inr ⟨index + 1, rfl, written :: earlier, later, ?_, isFirst,
            List.forall_mem_cons.2 ⟨findsNothing, before⟩⟩
          rw [List.getD_cons_succ, List.cons_append, ← split]

theorem FirstUnreadable.mem {texts : List String} {written : String} (first : FirstUnreadable texts written) :
    written ∈ texts ∧ ¬ IsReadable written := by
  obtain ⟨earlier, later, rfl, unreadable, -⟩ := first
  refine ⟨List.mem_append_right _ List.mem_cons_self, ?_⟩
  rintro ⟨pattern, writes⟩
  rw [unreadable] at writes
  cases writes

theorem FirstFinding.mem {document written : String} {texts : List String}
    (first : FirstFinding document texts written) : written ∈ texts ∧ Finds document written := by
  obtain ⟨earlier, later, rfl, finds, -⟩ := first
  exact ⟨List.mem_append_right _ List.mem_cons_self, finds⟩

/-! ### The decision -/

inductive Judged (document : String) (patterns : List String) : Except Failure Verdict → Prop where
  | standard (markers : HasMarkers document) : Judged document patterns (.ok .standard)
  | refused (noMarkers : ¬ HasMarkers document) {written : String} (first : FirstUnreadable patterns written) :
      Judged document patterns (.error (.invalidPattern written))
  | custom (noMarkers : ¬ HasMarkers document) (readable : ∀ written ∈ patterns, IsReadable written)
      {written : String} (first : FirstFinding document patterns written) :
      Judged document patterns (.ok (.custom written))
  | notTemplate (noMarkers : ¬ HasMarkers document) (readable : ∀ written ∈ patterns, IsReadable written)
      (nothing : ∀ written ∈ patterns, ¬ Finds document written) : Judged document patterns (.ok .notTemplate)

theorem judged_judge (document : String) (patterns : List String) :
    Judged document patterns (judge document patterns) := by
  unfold judge
  cases standard : isStandard document with
  | true => exact .standard ((isStandard_iff document).1 standard)
  | false =>
      have noMarkers := (isStandard_eq_false_iff document).1 standard
      rw [if_neg Bool.false_ne_true]
      cases compiles : compile patterns with
      | error failure =>
          obtain ⟨written, first, rfl⟩ := (compile_error_iff patterns failure).1 compiles
          exact .refused noMarkers first
      | ok compiled =>
          have each := (compile_ok_iff patterns compiled).1 compiles
          dsimp only
          have readable := isReadable_of_forall₂ each
          rcases firstMatch?_cases each document with ⟨none, nothing⟩ | ⟨index, isIndex, first⟩
          · rw [none]
            exact .notTemplate noMarkers readable nothing
          · rw [isIndex]
            exact .custom noMarkers readable first

namespace Judged

variable {document : String} {patterns : List String} {result : Except Failure Verdict}

theorem accepts_iff (judged : Judged document patterns result) :
    (∃ verdict, result = .ok verdict ∧ verdict.isTemplate = true) ↔
      HasMarkers document ∨
        ¬ HasMarkers document ∧ (∀ written ∈ patterns, IsReadable written) ∧
          ∃ written ∈ patterns, Finds document written := by
  cases judged with
  | standard markers => exact ⟨fun _ => .inl markers, fun _ => ⟨.standard, rfl, rfl⟩⟩
  | refused noMarkers first =>
      obtain ⟨isPattern, unreadable⟩ := first.mem
      constructor
      · rintro ⟨verdict, impossible, -⟩
        cases impossible
      · rintro (markers | ⟨-, readable, -⟩)
        · exact absurd markers noMarkers
        · exact absurd (readable _ isPattern) unreadable
  | custom noMarkers readable first =>
      exact ⟨fun _ => .inr ⟨noMarkers, readable, _, first.mem⟩, fun _ => ⟨_, rfl, rfl⟩⟩
  | notTemplate noMarkers readable nothing =>
      constructor
      · rintro ⟨verdict, same, accepted⟩
        cases same
        cases accepted
      · rintro (markers | ⟨-, -, written, isPattern, finds⟩)
        · exact absurd markers noMarkers
        · exact absurd finds (nothing written isPattern)

theorem refuses_iff (judged : Judged document patterns result) :
    (∃ failure, result = .error failure) ↔
      ¬ HasMarkers document ∧ ∃ written ∈ patterns, ¬ IsReadable written := by
  cases judged with
  | standard markers => exact ⟨nofun, fun both => absurd markers both.1⟩
  | refused noMarkers first => exact ⟨fun _ => ⟨noMarkers, _, first.mem⟩, fun _ => ⟨_, rfl⟩⟩
  | custom noMarkers readable first =>
      exact ⟨nofun, fun ⟨_, written, isPattern, unreadable⟩ => absurd (readable written isPattern) unreadable⟩
  | notTemplate noMarkers readable nothing =>
      exact ⟨nofun, fun ⟨_, written, isPattern, unreadable⟩ => absurd (readable written isPattern) unreadable⟩

theorem rejects_iff (judged : Judged document patterns result) :
    (∃ verdict, result = .ok verdict ∧ verdict.isTemplate = false) ↔
      ¬ HasMarkers document ∧ (∀ written ∈ patterns, IsReadable written) ∧
        ∀ written ∈ patterns, ¬ Finds document written := by
  cases judged with
  | standard markers =>
      constructor
      · rintro ⟨verdict, same, rejected⟩
        cases same
        cases rejected
      · rintro ⟨noMarkers, -⟩
        exact absurd markers noMarkers
  | refused noMarkers first =>
      obtain ⟨isPattern, unreadable⟩ := first.mem
      exact ⟨nofun, fun ⟨_, readable, _⟩ => absurd (readable _ isPattern) unreadable⟩
  | custom noMarkers readable first =>
      obtain ⟨isPattern, finds⟩ := first.mem
      constructor
      · rintro ⟨verdict, same, rejected⟩
        cases same
        cases rejected
      · rintro ⟨-, -, nothing⟩
        exact absurd finds (nothing _ isPattern)
  | notTemplate noMarkers readable nothing =>
      exact ⟨fun _ => ⟨noMarkers, readable, nothing⟩, fun _ => ⟨.notTemplate, rfl, rfl⟩⟩

end Judged

/-- What the three kinds of answers say about a document and its patterns. -/
structure Decides (document : String) (patterns : List String) (result : Except Failure Verdict) : Prop where
  accepts : (∃ verdict, result = .ok verdict ∧ verdict.isTemplate = true) ↔
    HasMarkers document ∨
      ¬ HasMarkers document ∧ (∀ written ∈ patterns, IsReadable written) ∧
        ∃ written ∈ patterns, Finds document written
  refuses : (∃ failure, result = .error failure) ↔
    ¬ HasMarkers document ∧ ∃ written ∈ patterns, ¬ IsReadable written
  namesFirst : ∀ failure, result = .error failure ↔
    ¬ HasMarkers document ∧ ∃ written, FirstUnreadable patterns written ∧ failure = .invalidPattern written
  rejects : (∃ verdict, result = .ok verdict ∧ verdict.isTemplate = false) ↔
    ¬ HasMarkers document ∧ (∀ written ∈ patterns, IsReadable written) ∧
      ∀ written ∈ patterns, ¬ Finds document written

/-- The markers decide before any pattern is read, and a pattern that cannot be read counts before any pattern
that occurs. -/
theorem judge_decides (document : String) (patterns : List String) :
    Decides document patterns (judge document patterns) where
  accepts := (judged_judge document patterns).accepts_iff
  refuses := (judged_judge document patterns).refuses_iff
  namesFirst := by
    intro failure
    rw [judge_error_iff, isStandard_eq_false_iff, compile_error_iff]
  rejects := (judged_judge document patterns).rejects_iff

example : judge "Resources\u2003:xAWSTemplateFormatVersion" ["("] = .ok .standard := by decide +kernel

example : judge "Resources\"\":AWSTemplateFormatVersion" ["", "("] = .error (.invalidPattern "(") := by
  decide +kernel

end Template

end TemplateLint
