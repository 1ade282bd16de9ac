import TemplateLint.Proofs.Check
import TemplateLint.Proofs.Interpretation

set_option autoImplicit false

/-!
The places that reports for people name.

Places count from one in what the linter prints, from zero in diagnostics, and from one again in reports.  On the
way there zero and one become the same, so no diagnostic starts on the last line that 32 bits can count, and the
one that is added in the end always fits.
-/

namespace TemplateLint

open TemplateLint.Regex (Pattern)
open TemplateLint.Style (paint)

variable {σ : Type}

/-! ### Places -/

def firstPlace : LinePosition := ⟨1, 1⟩

def LinePosition.shown (place : LinePosition) : LinePosition :=
  ⟨max 1 place.line, max 1 place.column⟩

def LinePosition.text (place : LinePosition) : String :=
  toString place.line ++ ":" ++ toString place.column

def RunOutput.places (patterns : List Pattern) : RunOutput → List LinePosition
  | .startFailed => [firstPlace]
  | .errorOutput _ _ => [firstPlace]
  | .completed text _ =>
      match parseFindings text with
      | .error _ => []
      | .ok findings =>
          (findings.filter fun finding => ¬ finding.MatchedBy patterns).map fun finding =>
            finding.location.start.shown

/-- A diagnostic is shown at a place, and what is added to its line and its character on the way fits 32 bits. -/
structure Diagnostic.ShownAt (diagnostic : Diagnostic) (place : LinePosition) : Prop where
  lineBelow : diagnostic.range.start.line < 4294967295
  lineNext : diagnostic.range.start.line.toNat + 1 = place.line.toNat
  columnNext : diagnostic.range.start.character.toNat + 1 = place.column.toNat
  line : diagnostic.shownLine = place.line
  column : diagnostic.shownColumn = place.column

/-- A word that counts up to another one has not wrapped. -/
theorem add_one_eq_of_toNat {n next : UInt32} (counts : n.toNat + 1 = next.toNat) : n + 1 = next := by
  have noWrap : (n.toNat + 1) % 2 ^ 32 = next.toNat := by
    rw [counts, Nat.mod_eq_of_lt next.toNat_lt]
  exact UInt32.toNat_inj.1 ((UInt32.toNat_add n 1).trans noWrap)

theorem lt_last_of_toNat {n next : UInt32} (counts : n.toNat + 1 = next.toNat) : n < 4294967295 := by
  have bound : next.toNat < 2 ^ 32 := next.toNat_lt
  rw [UInt32.lt_iff_toNat_lt]
  change n.toNat < 4294967295
  omega

namespace Diagnostic

theorem shownAt_of_start {diagnostic : Diagnostic} {place : LinePosition}
    (line : diagnostic.range.start.line.toNat + 1 = place.line.toNat)
    (character : diagnostic.range.start.character.toNat + 1 = place.column.toNat) :
    diagnostic.ShownAt place where
  lineBelow := lt_last_of_toNat line
  lineNext := line
  columnNext := character
  line := add_one_eq_of_toNat line
  column := by
    have notLast : diagnostic.range.start.character ≠ 4294967295 :=
      UInt32.ne_of_lt (lt_last_of_toNat character)
    rw [shownColumn, if_neg notLast]
    exact add_one_eq_of_toNat character

theorem StandsFor.shownAt {diagnostic : Diagnostic} {finding : Finding} (stands : diagnostic.StandsFor finding) :
    diagnostic.ShownAt finding.location.start.shown := by
  obtain ⟨startLine, startCharacter, -⟩ := stands
  apply shownAt_of_start
  · have shownLine : finding.location.start.shown.line.toNat = max 1 finding.location.start.line.toNat :=
      UInt32.toNat_max _ _
    omega
  · have shownColumn : finding.location.start.shown.column.toNat = max 1 finding.location.start.column.toNat :=
      UInt32.toNat_max _ _
    omega

theorem synthetic_shownAt (text : String) : (synthetic text).ShownAt firstPlace :=
  shownAt_of_start rfl rfl

end Diagnostic

/-- The diagnostics of a run are shown where the linter saw what they speak of, in its order. -/
theorem interpret_shownAt {patterns : List Pattern} {output : RunOutput} {diagnostics : List Diagnostic}
    (succeeds : (interpret output patterns).1 = .ok diagnostics) :
    List.Forall₂ (fun place diagnostic => diagnostic.ShownAt place) (output.places patterns) diagnostics := by
  cases output with
  | startFailed =>
      cases succeeds
      exact .cons (Diagnostic.synthetic_shownAt _) .nil
  | errorOutput text code =>
      cases succeeds
      exact .cons (Diagnostic.synthetic_shownAt _) .nil
  | completed text code =>
      unfold RunOutput.places
      dsimp only
      cases parsed : parseFindings text with
      | error failure =>
          rw [interpret_of_no_parse parsed] at succeeds
          cases succeeds
      | ok findings =>
          rw [interpret_of_parse parsed, diagnosticsOf_ok_iff, keptFindings_eq_filter] at succeeds
          rw [List.forall₂_map_left_iff]
          exact succeeds.imp fun _ _ stands => stands.shownAt

/-! ### Reports that name places -/

theorem map_eq_zipWith_of_forall₂ {α β γ : Type} {holds : α → β → Prop} {places : List α} {items : List β}
    (each : List.Forall₂ holds places items) {plain : β → γ} {placed : α → β → γ}
    (agree : ∀ place item, holds place item → plain item = placed place item) :
    items.map plain = List.zipWith placed places items := by
  induction each with
  | nil => rfl
  | cons first _ ih => rw [List.map_cons, List.zipWith_cons_cons, agree _ _ first, ih]

namespace Report

/-- Where the diagnostics of a report are to be shown: a skipped file has none, and those of a checked file are
those of its run. -/
inductive ToldAt (report : Report) : List LinePosition → Prop where
  | skipped (isSkipped : report.skipped = true) (nothing : report.diagnostics = []) : report.ToldAt []
  | checked {patterns : List Pattern} {output : RunOutput} (isChecked : report.skipped = false)
      (read : (interpret output patterns).1 = .ok report.diagnostics) : report.ToldAt (output.places patterns)

theorem ToldAt.shownAt {report : Report} {places : List LinePosition} (told : report.ToldAt places) :
    List.Forall₂ (fun place diagnostic => diagnostic.ShownAt place) places report.diagnostics := by
  cases told with
  | skipped isSkipped nothing =>
      rw [nothing]
      exact .nil
  | checked isChecked read => exact interpret_shownAt read

def compactLineAt (filePath : String) (place : LinePosition) (diagnostic : Diagnostic) : String :=
  filePath ++ ":" ++ place.text ++ ": " ++ diagnostic.severity.label ++ " " ++ diagnostic.message ++ "\n"

def compactPartAt (places : List LinePosition) (report : Report) : String :=
  String.join (List.zipWith (compactLineAt report.filePath) places report.diagnostics)

def stylishLineAt (isColored : Bool) (place : LinePosition) (diagnostic : Diagnostic) : String :=
  "  " ++ paint isColored [.dimmed] place.text ++ "  " ++
    paint isColored [color diagnostic.severity] diagnostic.severity.label ++ "  " ++ diagnostic.message ++ "\n"

def stylishHeading (isColored : Bool) (report : Report) : String :=
  if report.skipped then
    "\n" ++ paint isColored [.bold] report.filePath ++ " " ++
      paint isColored [.dimmed] "(skipped: not a CloudFormation template)" ++ "\n"
  else if report.diagnostics.isEmpty then ""
  else "\n" ++ paint isColored [.bold, .underline] report.filePath ++ "\n"

def stylishPartAt (isColored : Bool) (places : List LinePosition) (report : Report) : String :=
  report.stylishHeading isColored ++
    String.join (List.zipWith (stylishLineAt isColored) places report.diagnostics)

theorem compactLine_eq {diagnostic : Diagnostic} {place : LinePosition} (shown : diagnostic.ShownAt place)
    (filePath : String) : compactLine filePath diagnostic = compactLineAt filePath place diagnostic := by
  rw [compactLine, compactLineAt, shown.line, shown.column, LinePosition.text]
  simp only [String.append_assoc]

theorem stylishLine_eq {diagnostic : Diagnostic} {place : LinePosition} (shown : diagnostic.ShownAt place)
    (isColored : Bool) : stylishLine isColored diagnostic = stylishLineAt isColored place diagnostic := by
  rw [stylishLine, stylishLineAt, shown.line, shown.column]
  rfl

variable {report : Report} {places : List LinePosition}

theorem compactPart_eq (told : report.ToldAt places) : report.compactPart = compactPartAt places report := by
  have lines : report.diagnostics.map (compactLine report.filePath) =
      List.zipWith (compactLineAt report.filePath) places report.diagnostics :=
    map_eq_zipWith_of_forall₂ told.shownAt fun _ _ shown => compactLine_eq shown report.filePath
  rw [compactPart, lines, compactPartAt]

theorem stylishPart_eq (told : report.ToldAt places) (isColored : Bool) :
    report.stylishPart isColored = stylishPartAt isColored places report := by
  have lines : report.diagnostics.map (stylishLine isColored) =
      List.zipWith (stylishLineAt isColored) places report.diagnostics :=
    map_eq_zipWith_of_forall₂ told.shownAt fun _ _ shown => stylishLine_eq shown isColored
  rw [stylishPartAt, ← lines, stylishPart, stylishHeading]
  cases told with
  | skipped isSkipped nothing =>
      rw [if_pos isSkipped, if_pos isSkipped, nothing]
      exact String.append_empty.symm
  | checked isChecked read =>
      have notSkipped : ¬ report.skipped = true := ne_true_of_eq_false isChecked
      rw [if_neg notSkipped, if_neg notSkipped]
      split
      · rename_i isEmpty
        rw [List.isEmpty_iff.1 isEmpty]
        rfl
      · rfl

variable {reports : List Report} {placesOf : List (List LinePosition)}

theorem format_compact_eq (told : List.Forall₂ (fun places report => report.ToldAt places) placesOf reports)
    (isColored : Bool) :
    format isColored reports .compact = String.join (List.zipWith compactPartAt placesOf reports) := by
  have parts : reports.map compactPart = List.zipWith compactPartAt placesOf reports :=
    map_eq_zipWith_of_forall₂ told fun _ _ told => compactPart_eq told
  rw [format, compact, parts]

theorem format_stylish_eq (told : List.Forall₂ (fun places report => report.ToldAt places) placesOf reports)
    (isColored : Bool) :
    format isColored reports .stylish =
      String.join (List.zipWith (stylishPartAt isColored) placesOf reports) ++
        summary isColored (total reports .error) (total reports .warning) (total reports .information) := by
  have parts : reports.map (stylishPart isColored) = List.zipWith (stylishPartAt isColored) placesOf reports :=
    map_eq_zipWith_of_forall₂ told fun _ _ told => stylishPart_eq told isColored
  rw [format, stylish, parts]

end Report

/-! ### Checks -/

theorem exists_interpret_of_lintFile {host : Host σ} {settings : Settings} {path directory : Path}
    {world : World σ} {diagnostics : List Diagnostic}
    (linted : (lintFile host settings path directory world).1 = .ok diagnostics) :
    ∃ patterns output, (interpret output patterns).1 = .ok diagnostics := by
  cases planned : Plan.make settings path directory with
  | error failure =>
      rw [lintFile_of_no_plan host settings path directory world failure planned] at linted
      cases linted
  | ok plan =>
      rw [(lintFile_of_plan host settings path directory world plan planned).1] at linted
      cases ended : (host.start plan.command world.state).1 with
      | lost =>
          rw [ended] at linted
          cases linted
      | notStarted reason =>
          rw [ended] at linted
          exact ⟨plan.ignored, .startFailed, linted⟩
      | finished process =>
          rw [ended] at linted
          exact ⟨plan.ignored, .ofProcess process, linted⟩

namespace Check

variable {host : Host σ} {settings : Settings} {projectRoot : Path} {isForced : Bool}

theorem exists_toldAt {state : σ} {path : Path} {report : Report}
    (found : finding host settings projectRoot isForced state path = .ok report) :
    ∃ places, report.ToldAt places := by
  unfold finding at found
  split at found
  · cases found
  · obtain ⟨diagnostics, surveyed, rfl⟩ := (map_ok_iff _ _ _).1 found
    cases diagnostics with
    | none => exact ⟨[], .skipped rfl rfl⟩
    | some diagnostics =>
        unfold survey at surveyed
        split at surveyed
        · cases surveyed
        · cases surveyed
        · obtain ⟨linted, isLinted, same⟩ := (map_ok_iff _ _ _).1 surveyed
          cases same
          obtain ⟨patterns, output, read⟩ := exists_interpret_of_lintFile isLinted
          exact ⟨output.places patterns, .checked rfl read⟩

theorem run_toldAt {paths : List Path} {world : World σ} {check : Check}
    (checked : (run host settings projectRoot isForced paths world).1 = .ok check) :
    ∃ placesOf, List.Forall₂ (fun places report => report.ToldAt places) placesOf check.reports := by
  have each := run_forall₂ host settings projectRoot isForced paths world checked
  clear checked
  generalize check.reports = reports at each
  induction each with
  | nil => exact ⟨[], .nil⟩
  | cons first _ ih =>
      obtain ⟨state, found⟩ := first
      obtain ⟨places, told⟩ := exists_toldAt found
      obtain ⟨others, toldOthers⟩ := ih
      exact ⟨places :: others, .cons told toldOthers⟩

end Check

/-- No diagnostic of a run starts on the last line of 32 bits, so the lines of reports do not wrap.  A report for
people names for each diagnostic the place that the linter printed, with zeros made ones, and the first place
where the linter did not print any.  All reports of a check are such reports. -/
theorem interpret_places_shown :
    (∀ patterns output diagnostics, (interpret output patterns).1 = .ok diagnostics →
      List.Forall₂ (fun place diagnostic => diagnostic.ShownAt place) (output.places patterns) diagnostics) ∧
    (∀ placesOf reports, List.Forall₂ (fun places report => Report.ToldAt report places) placesOf reports →
      ∀ isColored,
        Report.format isColored reports .compact =
            String.join (List.zipWith Report.compactPartAt placesOf reports) ∧
          Report.format isColored reports .stylish =
            String.join (List.zipWith (Report.stylishPartAt isColored) placesOf reports) ++
              Report.summary isColored (Report.total reports .error) (Report.total reports .warning)
                (Report.total reports .information)) ∧
    (∀ (host : Host σ) settings projectRoot isForced paths world check,
      (Check.run host settings projectRoot isForced paths world).1 = .ok check →
        ∃ placesOf, List.Forall₂ (fun places report => Report.ToldAt report places) placesOf check.reports) := by
  refine ⟨?interpreted, ?formatted, ?checked⟩
  case interpreted =>
    intro patterns output diagnostics succeeds
    exact interpret_shownAt succeeds
  case formatted =>
    intro placesOf reports told isColored
    exact ⟨Report.format_compact_eq told isColored, Report.format_stylish_eq told isColored⟩
  case checked =>
    intro host settings projectRoot isForced paths world check checked
    exact Check.run_toldAt checked

/-! ### The first and the last numbers of 32 bits -/

def extremeOutput : RunOutput :=
  .completed ("[[\"\",\"Error\",[[4294967295,0],[0,0]],\"boom\",[\"E0\"]]," ++
    "[\"\",\"Warning\",[[0,4294967295],[0,0]],\"long\",[\"W0\"]]]") (some 6)

def extremeDiagnostics : List Diagnostic := [
  ⟨⟨⟨4294967294, 0⟩, ⟨0, 0⟩⟩, .error, "[cfn-lint] E0: boom", "cfn-lint"⟩,
  ⟨⟨⟨0, 4294967294⟩, ⟨0, 0⟩⟩, .warning, "[cfn-lint] W0: long", "cfn-lint"⟩]

def extremeReports : List Report := [
  ⟨"/a.yaml", "file:///a.yaml", false, extremeDiagnostics⟩,
  ⟨"/b.yaml", "file:///b.yaml", false, [Diagnostic.synthetic errorOutputText]⟩,
  ⟨"/c.yaml", "file:///c.yaml", true, []⟩]

theorem interpret_places_shown_extreme :
    (interpret extremeOutput []).1 = .ok extremeDiagnostics ∧
    List.Forall₂ (fun place diagnostic => diagnostic.ShownAt place) [⟨4294967295, 1⟩, ⟨1, 4294967295⟩]
      extremeDiagnostics ∧
    Report.format false extremeReports .compact =
      "/a.yaml:4294967295:1: error [cfn-lint] E0: boom\n" ++
        "/a.yaml:1:4294967295: warning [cfn-lint] W0: long\n" ++
        "/b.yaml:1:1: error [cfn-lint] Error occurred. See the log for details\n" ∧
    Report.format false extremeReports .stylish =
      "\n/a.yaml\n  4294967295:1  error  [cfn-lint] E0: boom\n" ++
        "  1:4294967295  warning  [cfn-lint] W0: long\n" ++
        "\n/b.yaml\n  1:1  error  [cfn-lint] Error occurred. See the log for details\n" ++
        "\n/c.yaml (skipped: not a CloudFormation template)\n" ++
        "\n3 problems (2 errors, 1 warning)\n" := by
  have read : (interpret extremeOutput []).1 = .ok extremeDiagnostics := by decide +kernel
  have places : extremeOutput.places [] = [⟨4294967295, 1⟩, ⟨1, 4294967295⟩] := by decide +kernel
  have told : List.Forall₂ (fun places report => Report.ToldAt report places)
      [extremeOutput.places [], [firstPlace], []] extremeReports :=
    .cons (.checked rfl read)
      (.cons (.checked rfl (show (interpret (.errorOutput "" none) []).1 = _ from rfl)) (.cons (.skipped rfl rfl) .nil))
  obtain ⟨interpreted, formatted, -⟩ := @interpret_places_shown Unit
  have shown := interpreted [] extremeOutput extremeDiagnostics read
  obtain ⟨compact, stylish⟩ := formatted _ _ told false
  rw [places] at shown compact stylish
  refine ⟨read, shown, ?_, ?_⟩
  · rw [compact]
    decide +kernel
  · rw [stylish]
    decide +kernel

end TemplateLint
