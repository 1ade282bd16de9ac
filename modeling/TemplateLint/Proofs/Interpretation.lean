import TemplateLint.Linting
import TemplateLint.Proofs.Diagnosis
import TemplateLint.Proofs.FirstFailure

set_option autoImplicit false

/-!
What a run of the linter means.

A linter that did not start or that complained is one diagnostic of its own.  Otherwise the output decides: the
findings that a pattern matches are dropped first, and only then each of the others becomes a diagnostic.  So an
unknown level does harm only where no pattern matches, and one more pattern can take diagnostics away but never
the list.
-/

namespace TemplateLint

open TemplateLint.Regex (Pattern)

/-! ### Dropped findings -/

def Finding.MatchedBy (patterns : List Pattern) (finding : Finding) : Prop :=
  ∃ pattern ∈ patterns, pattern.isMatch finding.message = true

instance (patterns : List Pattern) : DecidablePred (Finding.MatchedBy patterns) :=
  fun _ => inferInstanceAs (Decidable (∃ _ ∈ _, _))

theorem keptFindings_eq_filter (findings : List Finding) (patterns : List Pattern) :
    keptFindings findings patterns = findings.filter fun finding => ¬ finding.MatchedBy patterns := by
  unfold keptFindings
  apply List.filter_congr
  intro finding _
  rw [Bool.eq_iff_iff, Bool.not_eq_true', decide_eq_true_iff, List.any_eq_false]
  constructor
  · rintro noneMatches ⟨pattern, isPattern, isMatch⟩
    exact noneMatches pattern isPattern isMatch
  · intro unmatched pattern isPattern isMatch
    exact unmatched ⟨pattern, isPattern, isMatch⟩

theorem keptFindings_of_same_mem {patterns others : List Pattern}
    (same : ∀ pattern, pattern ∈ others ↔ pattern ∈ patterns) (findings : List Finding) :
    keptFindings findings others = keptFindings findings patterns := by
  rw [keptFindings_eq_filter, keptFindings_eq_filter]
  apply List.filter_congr
  intro finding _
  have matched_iff : finding.MatchedBy others ↔ finding.MatchedBy patterns := by
    unfold Finding.MatchedBy
    simp only [same]
  rw [decide_eq_decide, matched_iff]

/-- One more pattern drops what it matches of the findings that are left. -/
theorem keptFindings_of_more {pattern : Pattern} {patterns more : List Pattern}
    (added : ∀ other, other ∈ more ↔ other = pattern ∨ other ∈ patterns) (findings : List Finding) :
    keptFindings findings more =
      (keptFindings findings patterns).filter fun finding => !pattern.isMatch finding.message := by
  rw [keptFindings_eq_filter, keptFindings_eq_filter, List.filter_filter]
  apply List.filter_congr
  intro finding _
  have matched_iff : finding.MatchedBy more ↔
      pattern.isMatch finding.message = true ∨ finding.MatchedBy patterns := by
    unfold Finding.MatchedBy
    simp only [added, or_and_right, exists_or, exists_eq_left]
  rw [Bool.eq_iff_iff, Bool.and_eq_true, Bool.not_eq_true', decide_eq_true_iff, decide_eq_true_iff,
    matched_iff, not_or, Bool.not_eq_true]

/-! ### Diagnostics of findings -/

theorem diagnosticsOf_eq_mapM (findings : List Finding) :
    diagnosticsOf findings = findings.mapM Finding.diagnostic := by
  induction findings with
  | nil => rfl
  | cons finding rest ih =>
      rw [List.mapM_cons, ← ih, diagnosticsOf]
      cases finding.diagnostic with
      | error failure => rfl
      | ok diagnostic =>
          cases diagnosticsOf rest with
          | error failure => rfl
          | ok others => rfl

theorem diagnosticsOf_ok_iff (findings : List Finding) (diagnostics : List Diagnostic) :
    diagnosticsOf findings = .ok diagnostics ↔
      List.Forall₂ (fun finding diagnostic => diagnostic.StandsFor finding) findings diagnostics := by
  rw [diagnosticsOf_eq_mapM, mapM_ok_iff_forall₂]
  simp only [Finding.diagnostic_ok_iff]

theorem diagnosticsOf_error_iff (findings : List Finding) (failure : Failure) :
    diagnosticsOf findings = .error failure ↔
      ∃ earlier finding later, findings = earlier ++ finding :: later ∧
        (¬ finding.HasKnownLevel ∧ failure = .unsupportedSeverity finding.level) ∧
          ∀ other ∈ earlier, other.HasKnownLevel := by
  rw [diagnosticsOf_eq_mapM, mapM_error_iff]
  simp only [Finding.diagnostic_error_iff, Finding.exists_diagnostic_iff]

/-! ### Runs -/

/-- What comes of a run when the findings that a pattern matches are to be dropped. -/
inductive RunOutput.Means (patterns : List Pattern) : RunOutput → Except Failure (List Diagnostic) → Prop where
  | notStarted : RunOutput.Means patterns .startFailed (.ok [Diagnostic.synthetic startFailureText])
  | complained {text : String} {code : Option Nat} :
      RunOutput.Means patterns (.errorOutput text code) (.ok [Diagnostic.synthetic errorOutputText])
  | silent {text : String} {code : Option Nat} (blank : Text.allBlank text.toList = true) :
      RunOutput.Means patterns (.completed text code) (.ok [])
  | garbled {text : String} {code : Option Nat}
      (speaks : Text.allBlank text.toList = false)
      (unread : (Json.parse? text).bind findings? = none) :
      RunOutput.Means patterns (.completed text code) (.error .invalidOutput)
  | told {text : String} {code : Option Nat} {findings : List Finding} {diagnostics : List Diagnostic}
      (speaks : Text.allBlank text.toList = false)
      (read : (Json.parse? text).bind findings? = some findings)
      (each : List.Forall₂ (fun finding diagnostic => diagnostic.StandsFor finding)
        (findings.filter fun finding => ¬ finding.MatchedBy patterns) diagnostics) :
      RunOutput.Means patterns (.completed text code) (.ok diagnostics)
  | unknownLevel {text : String} {code : Option Nat} {findings earlier later : List Finding} {finding : Finding}
      (speaks : Text.allBlank text.toList = false)
      (read : (Json.parse? text).bind findings? = some findings)
      (split : (findings.filter fun finding => ¬ finding.MatchedBy patterns) = earlier ++ finding :: later)
      (known : ∀ other ∈ earlier, other.HasKnownLevel) (unknown : ¬ finding.HasKnownLevel) :
      RunOutput.Means patterns (.completed text code) (.error (.unsupportedSeverity finding.level))

theorem parseFindings_of_blank {text : String} (blank : Text.allBlank text.toList = true) :
    parseFindings text = .ok [] := by
  unfold parseFindings
  rw [if_pos blank]

theorem parseFindings_of_unread {text : String} (speaks : Text.allBlank text.toList = false)
    (unread : (Json.parse? text).bind findings? = none) : parseFindings text = .error .invalidOutput := by
  unfold parseFindings
  rw [speaks, unread]
  rfl

theorem parseFindings_of_read {text : String} {findings : List Finding}
    (speaks : Text.allBlank text.toList = false) (read : (Json.parse? text).bind findings? = some findings) :
    parseFindings text = .ok findings := by
  unfold parseFindings
  rw [speaks, read]
  rfl

theorem interpret_of_parse {text : String} {findings : List Finding} (parsed : parseFindings text = .ok findings)
    (code : Option Nat) (patterns : List Pattern) :
    (interpret (.completed text code) patterns).1 = diagnosticsOf (keptFindings findings patterns) := by
  unfold interpret
  dsimp only
  rw [parsed]

theorem interpret_of_no_parse {text : String} {failure : Failure} (refused : parseFindings text = .error failure)
    (code : Option Nat) (patterns : List Pattern) :
    (interpret (.completed text code) patterns).1 = .error failure := by
  unfold interpret
  dsimp only
  rw [refused]

theorem means_interpret (patterns : List Pattern) (output : RunOutput) :
    output.Means patterns (interpret output patterns).1 := by
  cases output with
  | startFailed => exact .notStarted
  | errorOutput text code => exact .complained
  | completed text code =>
      cases speaks : Text.allBlank text.toList with
      | true =>
          rw [interpret_of_parse (parseFindings_of_blank speaks)]
          exact .silent speaks
      | false =>
          cases read : (Json.parse? text).bind findings? with
          | none =>
              rw [interpret_of_no_parse (parseFindings_of_unread speaks read)]
              exact .garbled speaks read
          | some findings =>
              rw [interpret_of_parse (parseFindings_of_read speaks read), keptFindings_eq_filter]
              -- levels are looked at only now, so those of dropped findings do not count
              cases told : diagnosticsOf (findings.filter fun finding => ¬ finding.MatchedBy patterns) with
              | ok diagnostics => exact .told speaks read ((diagnosticsOf_ok_iff _ _).1 told)
              | error failure =>
                  obtain ⟨earlier, finding, later, split, ⟨unknown, rfl⟩, known⟩ :=
                    (diagnosticsOf_error_iff _ _).1 told
                  exact .unknownLevel speaks read split known unknown

theorem interpret_of_means {patterns : List Pattern} {output : RunOutput}
    {result : Except Failure (List Diagnostic)} (means : output.Means patterns result) :
    (interpret output patterns).1 = result := by
  cases means with
  | notStarted => rfl
  | complained => rfl
  | silent blank => exact interpret_of_parse (parseFindings_of_blank blank) _ patterns
  | garbled speaks unread => exact interpret_of_no_parse (parseFindings_of_unread speaks unread) _ patterns
  | told speaks read each =>
      rw [interpret_of_parse (parseFindings_of_read speaks read), keptFindings_eq_filter]
      exact (diagnosticsOf_ok_iff _ _).2 each
  | unknownLevel speaks read split known unknown =>
      rw [interpret_of_parse (parseFindings_of_read speaks read), keptFindings_eq_filter]
      exact (diagnosticsOf_error_iff _ _).2 ⟨_, _, _, split, ⟨unknown, rfl⟩, known⟩

/-! ### Other patterns -/

theorem interpret_of_same_mem {patterns others : List Pattern}
    (same : ∀ pattern, pattern ∈ others ↔ pattern ∈ patterns) (output : RunOutput) :
    interpret output others = interpret output patterns := by
  unfold interpret
  simp only [keptFindings_of_same_mem same]

theorem forall₂_filter_zip {α β : Type} {holds : α → β → Prop} {items : List α} {values : List β}
    (each : List.Forall₂ holds items values) (keeps : α → Bool) :
    List.Forall₂ holds (items.filter keeps)
      (((items.zip values).filter fun pair => keeps pair.1).map Prod.snd) := by
  induction each with
  | nil => exact .nil
  | @cons item value rest others holdsFirst _ ih =>
      rw [List.zip_cons_cons, List.filter_cons, List.filter_cons]
      cases keeps item with
      | true => exact .cons holdsFirst ih
      | false => exact ih

theorem map_snd_filter_zip_sublist {α β : Type} {items : List α} {values : List β}
    (fits : values.length ≤ items.length) (keeps : α × β → Bool) :
    (((items.zip values).filter keeps).map Prod.snd).Sublist values := by
  have fewerPairs : ((items.zip values).filter keeps).Sublist (items.zip values) := List.filter_sublist
  have fewerValues := fewerPairs.map Prod.snd
  rwa [List.map_snd_zip fits] at fewerValues

def unmatchedBy (pattern : Pattern) (patterns : List Pattern) (diagnostics : List Diagnostic) :
    RunOutput → List Diagnostic
  | .startFailed => diagnostics
  | .errorOutput _ _ => diagnostics
  | .completed text _ =>
      match parseFindings text with
      | .error _ => []
      | .ok findings =>
          let kept := findings.filter fun finding => ¬ finding.MatchedBy patterns
          ((kept.zip diagnostics).filter fun told => !pattern.isMatch told.1.message).map Prod.snd

theorem interpret_of_more {pattern : Pattern} {patterns more : List Pattern}
    (added : ∀ other, other ∈ more ↔ other = pattern ∨ other ∈ patterns) {output : RunOutput}
    {diagnostics : List Diagnostic} (succeeds : (interpret output patterns).1 = .ok diagnostics) :
    (interpret output more).1 = .ok (unmatchedBy pattern patterns diagnostics output) ∧
      (unmatchedBy pattern patterns diagnostics output).Sublist diagnostics := by
  cases output with
  | startFailed => exact ⟨succeeds, .refl _⟩
  | errorOutput text code => exact ⟨succeeds, .refl _⟩
  | completed text code =>
      unfold unmatchedBy
      dsimp only
      cases parsed : parseFindings text with
      | error failure =>
          rw [interpret_of_no_parse parsed] at succeeds
          cases succeeds
      | ok findings =>
          rw [interpret_of_parse parsed, diagnosticsOf_ok_iff, keptFindings_eq_filter] at succeeds
          rw [interpret_of_parse parsed, keptFindings_of_more added, diagnosticsOf_ok_iff, keptFindings_eq_filter]
          have sameLength := succeeds.length_eq
          exact ⟨forall₂_filter_zip succeeds _, map_snd_filter_zip_sublist (Nat.le_of_eq sameLength.symm) _⟩

/-! ### Processes -/

theorem RunOutput.ofProcess_of_complaint {process : ProcessOutput} (complains : process.stderr ≠ []) :
    ofProcess process = .errorOutput (Text.Utf8.stringLossy process.stderr) process.code := by
  have notEmpty : ¬ process.stderr.isEmpty = true := fun isEmpty => complains (List.isEmpty_iff.1 isEmpty)
  unfold ofProcess
  rw [if_neg notEmpty]

theorem RunOutput.ofProcess_of_quiet {process : ProcessOutput} (quiet : process.stderr = []) :
    ofProcess process = .completed (Text.Utf8.stringLossy process.stdout) process.code := by
  unfold ofProcess
  rw [quiet]
  rfl

/-- Every run has the one meaning that its output and the patterns give it.  A process that wrote to its error
output is not listened to any further, and the exit code never counts.  Of the patterns it only counts which there
are, and one more of them takes away the diagnostics of the findings that it matches. -/
theorem interpret_meaning (patterns : List Pattern) :
    (∀ output result, (interpret output patterns).1 = result ↔ output.Means patterns result) ∧
    (∀ process : ProcessOutput, process.stderr ≠ [] →
      (interpret (.ofProcess process) patterns).1 = .ok [Diagnostic.synthetic errorOutputText]) ∧
    (∀ (process : ProcessOutput) (code : Option Nat), process.stderr = [] →
      interpret (.ofProcess process) patterns =
        interpret (.completed (Text.Utf8.stringLossy process.stdout) code) patterns) ∧
    (∀ others, (∀ pattern, pattern ∈ others ↔ pattern ∈ patterns) →
      ∀ output, interpret output others = interpret output patterns) ∧
    (∀ pattern more, (∀ other, other ∈ more ↔ other = pattern ∨ other ∈ patterns) →
      ∀ output diagnostics, (interpret output patterns).1 = .ok diagnostics →
        (interpret output more).1 = .ok (unmatchedBy pattern patterns diagnostics output) ∧
          (unmatchedBy pattern patterns diagnostics output).Sublist diagnostics) := by
  refine ⟨?meaning, ?complaint, ?quiet, ?sameMembers, ?oneMore⟩
  case meaning =>
    intro output result
    constructor
    · rintro rfl
      exact means_interpret patterns output
    · exact interpret_of_means
  case complaint =>
    intro process complains
    rw [RunOutput.ofProcess_of_complaint complains]
    rfl
  case quiet =>
    intro process code quiet
    rw [RunOutput.ofProcess_of_quiet quiet]
    rfl
  case sameMembers =>
    intro others same output
    exact interpret_of_same_mem same output
  case oneMore =>
    intro pattern more added output diagnostics succeeds
    exact interpret_of_more added succeeds

/-! ### A finding of an unknown level -/

def mixedOutput : String :=
  "[[\"\",\"Error\",[[3,5],[3,9]],\"boom\",[\"E0\"]]," ++
    "[\"\",\"Style\",[[4,1],[4,9]],\"long\",[\"W0\"]]," ++
    "[\"\",\"Informational\",[[0,1],[1,5]],\"bare\",[\"I0\"]]]"

def mixedProcess : ProcessOutput := ⟨Text.Utf8.bytes mixedOutput, [], some 6⟩

def boomDiagnostic : Diagnostic :=
  ⟨⟨⟨2, 4⟩, ⟨2, 8⟩⟩, .error, "[cfn-lint] E0: boom", "cfn-lint"⟩

def bareDiagnostic : Diagnostic :=
  ⟨⟨⟨0, 0⟩, ⟨0, 4⟩⟩, .information, "[cfn-lint] I0: bare", "cfn-lint"⟩

def longPattern : Pattern := Pattern.literal "long".toList

def barePattern : Pattern := Pattern.literal "bare".toList

theorem interpret_mixedProcess :
    (interpret (.ofProcess mixedProcess) []).1 = .error (.unsupportedSeverity "Style") ∧
    (interpret (.ofProcess mixedProcess) [longPattern]).1 = .ok [boomDiagnostic, bareDiagnostic] ∧
    (interpret (.ofProcess mixedProcess) [longPattern, longPattern]).1 = .ok [boomDiagnostic, bareDiagnostic] ∧
    (interpret (.ofProcess mixedProcess) [barePattern, longPattern]).1 = .ok [boomDiagnostic] ∧
    (interpret (.ofProcess { mixedProcess with stderr := [33] }) [longPattern]).1 =
      .ok [Diagnostic.synthetic errorOutputText] := by
  have printed : RunOutput.ofProcess mixedProcess = .completed mixedOutput (some 6) := by decide +kernel
  have fails : (interpret (.completed mixedOutput (some 6)) []).1 = .error (.unsupportedSeverity "Style") := by
    decide +kernel
  have succeeds : (interpret (.completed mixedOutput (some 6)) [longPattern]).1 =
      .ok [boomDiagnostic, bareDiagnostic] := by
    decide +kernel
  have isFewer : unmatchedBy barePattern [longPattern] [boomDiagnostic, bareDiagnostic]
      (.completed mixedOutput (some 6)) = [boomDiagnostic] := by
    decide +kernel
  have sameTwice : ∀ pattern, pattern ∈ [longPattern, longPattern] ↔ pattern ∈ [longPattern] := by
    intro pattern
    simp only [List.mem_cons, or_self_left]
  have added : ∀ other, other ∈ [barePattern, longPattern] ↔ other = barePattern ∨ other ∈ [longPattern] :=
    fun _ => List.mem_cons
  obtain ⟨_, complaint, _, sameMembers, oneMore⟩ := interpret_meaning [longPattern]
  have fewer := (oneMore barePattern _ added _ _ succeeds).1
  rw [isFewer] at fewer
  rw [printed, sameMembers _ sameTwice]
  exact ⟨fails, succeeds, succeeds, fewer, complaint _ (List.cons_ne_nil _ _)⟩

end TemplateLint
