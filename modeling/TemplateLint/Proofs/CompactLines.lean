import TemplateLint.Proofs.Formats
import TemplateLint.Proofs.ShownPlaces

set_option autoImplicit false

/-!
Compact reports, read line by line.

Names of files and messages stand in a compact report as they are.  So it has one line for every diagnostic exactly
as long as none of them has a line feed, and a line feed in a message comes from the linter.
-/

namespace TemplateLint

open TemplateLint.Regex (Pattern)

variable {σ : Type}

/-! ### Line feeds -/

namespace Text

def lineFeeds (text : String) : Nat := text.toList.count '\n'

theorem lineFeeds_eq_zero_iff (text : String) : lineFeeds text = 0 ↔ '\n' ∉ text.toList :=
  List.count_eq_zero

theorem lineFeeds_append (left right : String) : lineFeeds (left ++ right) = lineFeeds left + lineFeeds right := by
  rw [lineFeeds, String.toList_append, List.count_append]
  rfl

theorem lineFeeds_toString (n : UInt32) : lineFeeds (toString n) = 0 := by
  change lineFeeds (toString n.toNat) = 0
  rw [lineFeeds_eq_zero_iff, Nat.toString_eq_repr, Nat.toList_repr]
  intro isDigit
  have digit := Nat.isDigit_of_mem_toDigits (by decide) (by decide) isDigit
  revert digit
  decide

def ofLines (lines : List String) : String :=
  String.join (lines.map (· ++ "\n"))

theorem lineFeeds_ofLines_cons (line : String) (rest : List String) :
    lineFeeds (ofLines (line :: rest)) = lineFeeds line + 1 + lineFeeds (ofLines rest) := by
  have first : lineFeeds (line ++ "\n") = lineFeeds line + 1 := lineFeeds_append line "\n"
  rw [ofLines, List.map_cons, String.join_cons, lineFeeds_append, first]
  rfl

theorem length_le_lineFeeds_ofLines (lines : List String) : lines.length ≤ lineFeeds (ofLines lines) := by
  induction lines with
  | nil => exact Nat.zero_le _
  | cons line rest ih =>
      rw [lineFeeds_ofLines_cons, List.length_cons]
      omega

theorem lineFeeds_ofLines_iff (lines : List String) :
    lineFeeds (ofLines lines) = lines.length ↔ ∀ line ∈ lines, '\n' ∉ line.toList := by
  induction lines with
  | nil => exact ⟨fun _ => nofun, fun _ => rfl⟩
  | cons line rest ih =>
      -- the lines behind have enough line feeds on their own, so none is left for the first one
      have enough := length_le_lineFeeds_ofLines rest
      rw [List.forall_mem_cons, ← ih, ← lineFeeds_eq_zero_iff, lineFeeds_ofLines_cons, List.length_cons]
      omega

end Text

open Text (lineFeeds lineFeeds_append lineFeeds_toString lineFeeds_eq_zero_iff ofLines)

/-! ### Lines of reports -/

def Diagnostic.lineHead (filePath : String) (diagnostic : Diagnostic) : String :=
  filePath ++ ":" ++ toString (diagnostic.range.start.line.toNat + 1) ++ ":" ++
    toString (diagnostic.range.start.character.toNat + 1) ++ ":"

/-- The text is one line for every entry, in order. -/
def LineOriented (entries : List (String × Diagnostic)) (text : String) : Prop :=
  ∃ lines, text = ofLines lines ∧ (∀ line ∈ lines, '\n' ∉ line.toList) ∧
    List.Forall₂ (fun entry line => ∃ rest, line = entry.2.lineHead entry.1 ++ rest) entries lines

def OnOneLine (entry : String × Diagnostic) : Prop :=
  '\n' ∉ entry.1.toList ∧ '\n' ∉ entry.2.message.toList

namespace Report

theorem lineFeeds_compactBody (entry : String × Diagnostic) :
    lineFeeds (compactBody entry) = lineFeeds entry.1 + lineFeeds entry.2.message := by
  have label : lineFeeds entry.2.severity.label = 0 := by
    cases entry.2.severity with
    | error => rfl
    | warning => rfl
    | information => rfl
  have colon : lineFeeds ":" = 0 := rfl
  have colonBlank : lineFeeds ": " = 0 := rfl
  have blank : lineFeeds " " = 0 := rfl
  simp only [compactBody, lineFeeds_append, lineFeeds_toString, label, colon, colonBlank, blank]
  omega

theorem onOneLine_iff (entry : String × Diagnostic) : '\n' ∉ (compactBody entry).toList ↔ OnOneLine entry := by
  rw [← lineFeeds_eq_zero_iff, lineFeeds_compactBody, OnOneLine, ← lineFeeds_eq_zero_iff, ← lineFeeds_eq_zero_iff]
  omega

theorem compact_eq_ofLines (reports : List Report) :
    compact reports = ofLines ((reports.flatMap located).map compactBody) := by
  rw [compact, join_of_lines compactPart_eq_join, ofLines, List.map_map]
  rfl

theorem compactBody_eq_lineHead_append {entry : String × Diagnostic} {place : LinePosition}
    (shown : entry.2.ShownAt place) :
    compactBody entry = entry.2.lineHead entry.1 ++ (" " ++ entry.2.severity.label ++ " " ++ entry.2.message) := by
  have colonBlank : ": " = ":" ++ " " := rfl
  rw [compactBody, Diagnostic.lineHead, shown.line, shown.column, shown.lineNext, shown.columnNext, colonBlank]
  simp only [String.append_assoc]
  rfl

theorem lineOriented_compact_iff {reports : List Report}
    (shown : ∀ entry ∈ reports.flatMap located, ∃ place, entry.2.ShownAt place) :
    LineOriented (reports.flatMap located) (compact reports) ↔ ∀ entry ∈ reports.flatMap located, OnOneLine entry := by
  rw [compact_eq_ofLines]
  generalize reports.flatMap located = entries at shown
  constructor
  · rintro ⟨lines, same, single, heads⟩
    -- as many lines as entries, so as many line feeds, and none is left for the inside of a line
    have counted : lineFeeds (ofLines (entries.map compactBody)) = (entries.map compactBody).length := by
      rw [same, (Text.lineFeeds_ofLines_iff lines).2 single, List.length_map, heads.length_eq]
    have each := (Text.lineFeeds_ofLines_iff _).1 counted
    intro entry isEntry
    exact (onOneLine_iff entry).1 (each _ (List.mem_map_of_mem isEntry))
  · intro each
    refine ⟨entries.map compactBody, rfl, ?_, ?_⟩
    · rw [List.forall_mem_map]
      exact fun entry isEntry => (onOneLine_iff entry).2 (each entry isEntry)
    · rw [List.forall₂_map_right_iff, List.forall₂_same]
      intro entry isEntry
      obtain ⟨place, shownAt⟩ := shown entry isEntry
      exact ⟨_, compactBody_eq_lineHead_append shownAt⟩

end Report

/-! ### Lines of checks -/

def RunOutput.kept (patterns : List Pattern) : RunOutput → List Finding
  | .startFailed => []
  | .errorOutput _ _ => []
  | .completed text _ =>
      match parseFindings text with
      | .error _ => []
      | .ok findings => findings.filter fun finding => ¬ finding.MatchedBy patterns

/-- The diagnostics of a run are one that speaks of the linter, or those of the findings. -/
theorem interpret_cases {patterns : List Pattern} {output : RunOutput} {diagnostics : List Diagnostic}
    (succeeds : (interpret output patterns).1 = .ok diagnostics) :
    (output.kept patterns = [] ∧
      ∃ text ∈ [startFailureText, errorOutputText], diagnostics = [Diagnostic.synthetic text]) ∨
      List.Forall₂ (fun finding diagnostic => diagnostic.StandsFor finding) (output.kept patterns) diagnostics := by
  cases output with
  | startFailed =>
      cases succeeds
      exact .inl ⟨rfl, startFailureText, List.mem_cons_self, rfl⟩
  | errorOutput text code =>
      cases succeeds
      exact .inl ⟨rfl, errorOutputText, List.mem_cons_of_mem _ List.mem_cons_self, rfl⟩
  | completed text code =>
      cases parsed : parseFindings text with
      | error failure =>
          rw [interpret_of_no_parse parsed] at succeeds
          cases succeeds
      | ok findings =>
          rw [interpret_of_parse parsed, diagnosticsOf_ok_iff, keptFindings_eq_filter] at succeeds
          rw [RunOutput.kept, parsed]
          exact .inr succeeds

theorem Check.run_shownAt {host : Host σ} {settings : Settings} {projectRoot : Path} {isForced : Bool}
    {paths : List Path} {world : World σ} {check : Check}
    (checked : (run host settings projectRoot isForced paths world).1 = .ok check) :
    ∀ entry ∈ check.reports.flatMap Report.located, ∃ place, entry.2.ShownAt place := by
  obtain ⟨placesOf, told⟩ := run_toldAt checked
  intro entry isEntry
  obtain ⟨report, isReport, isLocated⟩ := List.mem_flatMap.1 isEntry
  obtain ⟨diagnostic, isDiagnostic, rfl⟩ := List.mem_map.1 isLocated
  obtain ⟨places, -, toldAt⟩ := exists_item_of_mem told isReport
  obtain ⟨place, -, shown⟩ := exists_item_of_mem toldAt.shownAt isDiagnostic
  exact ⟨place, shown⟩

theorem Diagnostic.StandsFor.lineFeed_iff {diagnostic : Diagnostic} {finding : Finding}
    (stands : diagnostic.StandsFor finding) :
    '\n' ∈ diagnostic.message.toList ↔ '\n' ∈ finding.rule.id.toList ∨ '\n' ∈ finding.message.toList := by
  rw [stands.message]
  simp only [String.toList_append, List.mem_append]
  have source : '\n' ∉ "[cfn-lint] ".toList := by decide
  have colon : '\n' ∉ ": ".toList := by decide
  simp only [source, colon, false_or, or_false]

theorem interpret_lineFeed_iff {patterns : List Pattern} {output : RunOutput} {diagnostics : List Diagnostic}
    (succeeds : (interpret output patterns).1 = .ok diagnostics) :
    (∃ diagnostic ∈ diagnostics, '\n' ∈ diagnostic.message.toList) ↔
      ∃ finding ∈ output.kept patterns, '\n' ∈ finding.rule.id.toList ∨ '\n' ∈ finding.message.toList := by
  rcases interpret_cases succeeds with ⟨nothing, text, isText, rfl⟩ | each
  · have single : ∀ text ∈ [startFailureText, errorOutputText], '\n' ∉ (Diagnostic.synthetic text).message.toList := by
      decide +kernel
    rw [nothing]
    constructor
    · rintro ⟨diagnostic, isDiagnostic, hasLineFeed⟩
      cases List.mem_singleton.1 isDiagnostic
      exact absurd hasLineFeed (single text isText)
    · rintro ⟨finding, isFinding, -⟩
      cases isFinding
  · clear succeeds
    generalize output.kept patterns = findings at each ⊢
    induction each with
    | nil => exact ⟨nofun, nofun⟩
    | cons stands _ ih =>
        rw [List.exists_mem_cons_iff, List.exists_mem_cons_iff, ih, stands.lineFeed_iff]

/-- The compact report of a check has one line for every diagnostic exactly when neither the messages nor the names
of the files that they are about have a line feed.  A message has one only where a rule or a message of the linter
has it. -/
theorem Check.compact_lineOriented_iff :
    (∀ (host : Host σ) settings projectRoot isForced paths world check,
      (run host settings projectRoot isForced paths world).1 = .ok check → ∀ isColored,
        (LineOriented (check.reports.flatMap Report.located) (check.output isColored .compact) ↔
          ∀ entry ∈ check.reports.flatMap Report.located, OnOneLine entry)) ∧
    (∀ patterns output diagnostics, (interpret output patterns).1 = .ok diagnostics →
      ((∃ diagnostic ∈ diagnostics, '\n' ∈ diagnostic.message.toList) ↔
        ∃ finding ∈ output.kept patterns, '\n' ∈ finding.rule.id.toList ∨ '\n' ∈ finding.message.toList)) := by
  constructor
  · intro host settings projectRoot isForced paths world check checked isColored
    exact Report.lineOriented_compact_iff (run_shownAt checked)
  · intro patterns output diagnostics succeeds
    exact interpret_lineFeed_iff succeeds

/-! ### A linter that says one thing -/

def findingOutput (message : String) : String :=
  "[[\"\",\"Error\",[[3,5],[3,9]],\"" ++ message ++ "\",[\"E0\"]]]"

def findingHost (message : String) : Host Unit where
  entry _ _ := .file (Text.Utf8.bytes "AWSTemplateFormatVersion: 1\nResources:\n")
  start _ _ := (.finished ⟨Text.Utf8.bytes (findingOutput message), [], some 2⟩, ())
  currentDirectory := Path.ofString "/work"
  home := none

def findingCheck (message : String) : Check where
  reports := [⟨"a.yaml", "file:///work/a.yaml", false,
    [⟨⟨⟨2, 4⟩, ⟨2, 8⟩⟩, .error, "[cfn-lint] E0: " ++ message, "cfn-lint"⟩]⟩]

theorem Check.compact_lineOriented_of_boom :
    (run (findingHost "boom") Settings.empty (Path.ofString "/") false [Path.ofString "a.yaml"] ⟨(), []⟩).1 =
      .ok (findingCheck "boom") ∧
    (findingCheck "boom").output false .compact = "a.yaml:3:5: error [cfn-lint] E0: boom\n" ∧
    LineOriented ((findingCheck "boom").reports.flatMap Report.located)
      ((findingCheck "boom").output false .compact) ∧
    ∀ finding ∈ (RunOutput.completed (findingOutput "boom") (some 2)).kept [],
      '\n' ∉ finding.rule.id.toList ∧ '\n' ∉ finding.message.toList := by
  have checked : (run (findingHost "boom") Settings.empty (Path.ofString "/") false [Path.ofString "a.yaml"]
      ⟨(), []⟩).1 = .ok (findingCheck "boom") := by
    decide +kernel
  have told : (interpret (.completed (findingOutput "boom") (some 2)) []).1 =
      .ok [⟨⟨⟨2, 4⟩, ⟨2, 8⟩⟩, .error, "[cfn-lint] E0: boom", "cfn-lint"⟩] := by
    decide +kernel
  obtain ⟨lineOriented_iff, lineFeed_iff⟩ := @compact_lineOriented_iff Unit
  refine ⟨checked, by decide +kernel, ?_, ?_⟩
  · refine (lineOriented_iff _ _ _ _ _ _ _ checked false).2 ?_
    unfold OnOneLine
    decide +kernel
  · intro finding isKept
    rw [← not_or]
    intro hasLineFeed
    have inMessage := (lineFeed_iff _ _ _ told).2 ⟨finding, isKept, hasLineFeed⟩
    revert inMessage
    decide +kernel

/-- A message of two lines makes two lines of one diagnostic. -/
theorem Check.compact_of_two_lines :
    ∃ check, (run (findingHost "first\\nsecond") Settings.empty (Path.ofString "/") false [Path.ofString "a.yaml"]
      ⟨(), []⟩).1 = .ok check ∧
    check.output false .compact = "a.yaml:3:5: error [cfn-lint] E0: first\nsecond\n" ∧
    ¬ LineOriented (check.reports.flatMap Report.located) (check.output false .compact) := by
  refine ⟨findingCheck "first\nsecond", by decide +kernel, by decide +kernel, ?_⟩
  rintro ⟨lines, same, single, heads⟩
  have length : lines.length = 1 := heads.length_eq.symm
  have twice : lineFeeds ((findingCheck "first\nsecond").output false .compact) = 2 := by decide +kernel
  rw [same, (Text.lineFeeds_ofLines_iff lines).2 single, length] at twice
  cases twice

end TemplateLint
