import TemplateLint.Finding

set_option autoImplicit false

/-!
The diagnostic of one finding.

There is one exactly when the level of the finding is known.  Its lines and columns count from zero: each is
brought to zero on its own, and what is zero already stays zero.  So line 0 and line 1 become the same line, and
only there can the ends of a range change their order.
-/

namespace TemplateLint

/-! ### Counting from zero -/

theorem Position.toNat_zeroBased (n : UInt32) : (zeroBased n).toNat = max n.toNat 1 - 1 := by
  unfold zeroBased
  split
  · rename_i isZero
    rw [isZero]
    rfl
  · rename_i isPositive
    have isPositiveNat : n.toNat ≠ 0 := fun isZero => isPositive (UInt32.toNat_inj.1 isZero)
    have isAtLeastOne : (1 : UInt32) ≤ n := by
      rw [UInt32.le_iff_toNat_le]
      change 1 ≤ n.toNat
      omega
    have difference : (n - 1).toNat = n.toNat - 1 := UInt32.toNat_sub_of_le n 1 isAtLeastOne
    omega

/-! ### Levels -/

def levelSeverities : List (String × Severity) :=
  [("Error", .error), ("Warning", .warning), ("Informational", .information)]

theorem Level.mem_levelSeverities_iff (word : String) (severity : Severity) :
    (word, severity) ∈ levelSeverities ↔ ∃ level : Level, word = level.name ∧ severity = level.severity := by
  constructor
  · intro isPair
    simp only [levelSeverities, List.mem_cons, Prod.mk.injEq, List.not_mem_nil, or_false] at isPair
    rcases isPair with isError | isWarning | isInformational
    · exact ⟨.error, isError⟩
    · exact ⟨.warning, isWarning⟩
    · exact ⟨.informational, isInformational⟩
  · rintro ⟨level, rfl, rfl⟩
    cases level with
    | error => decide
    | warning => decide
    | informational => decide

theorem Level.parse_name (level : Level) : parse level.name = .ok level := by
  cases level with
  | error => rfl
  | warning => rfl
  | informational => rfl

/-- Only the exact words are levels. -/
theorem Level.parse_cases (word : String) :
    (∃ level, word = level.name ∧ parse word = .ok level) ∨
      (∀ level : Level, word ≠ level.name) ∧ parse word = .error (.unsupportedSeverity word) := by
  by_cases isName : ∃ level : Level, word = level.name
  · obtain ⟨level, rfl⟩ := isName
    exact .inl ⟨level, rfl, level.parse_name⟩
  · have isOther : ∀ level : Level, word ≠ level.name := fun level same => isName ⟨level, same⟩
    refine .inr ⟨isOther, ?_⟩
    have notError : word ≠ "Error" := isOther .error
    have notWarning : word ≠ "Warning" := isOther .warning
    have notInformational : word ≠ "Informational" := isOther .informational
    unfold parse ofName?
    rw [if_neg notError, if_neg notWarning, if_neg notInformational]

/-! ### Findings -/

def Finding.HasKnownLevel (finding : Finding) : Prop :=
  finding.level ∈ levelSeverities.map Prod.fst

instance (finding : Finding) : Decidable finding.HasKnownLevel :=
  inferInstanceAs (Decidable (_ ∈ _))

theorem Finding.hasKnownLevel_iff (finding : Finding) :
    finding.HasKnownLevel ↔ ∃ level : Level, finding.level = level.name := by
  constructor
  · intro known
    obtain ⟨⟨word, severity⟩, isPair, isLevel⟩ := List.mem_map.1 known
    obtain ⟨level, isName, _⟩ := (Level.mem_levelSeverities_iff word severity).1 isPair
    cases isLevel
    exact ⟨level, isName⟩
  · rintro ⟨level, isName⟩
    have isPair := (Level.mem_levelSeverities_iff finding.level level.severity).2 ⟨level, isName, rfl⟩
    exact List.mem_map_of_mem isPair

/-- What a diagnostic has to say for a finding. -/
structure Diagnostic.StandsFor (diagnostic : Diagnostic) (finding : Finding) : Prop where
  startLine : diagnostic.range.start.line.toNat = max finding.location.start.line.toNat 1 - 1
  startCharacter : diagnostic.range.start.character.toNat = max finding.location.start.column.toNat 1 - 1
  stopLine : diagnostic.range.stop.line.toNat = max finding.location.stop.line.toNat 1 - 1
  stopCharacter : diagnostic.range.stop.character.toNat = max finding.location.stop.column.toNat 1 - 1
  severity : (finding.level, diagnostic.severity) ∈ levelSeverities
  message : diagnostic.message = "[cfn-lint] " ++ finding.rule.id ++ ": " ++ finding.message
  source : diagnostic.source = "cfn-lint"

theorem Finding.message_text (finding : Finding) :
    sourced (finding.rule.id ++ ": " ++ finding.message) =
      "[cfn-lint] " ++ finding.rule.id ++ ": " ++ finding.message := by
  unfold sourced diagnosticSource
  rw [← String.append_assoc, ← String.append_assoc]
  rfl

theorem LinePosition.position_eq_iff (place : LinePosition) (position : Position) :
    place.position = position ↔
      position.line.toNat = max place.line.toNat 1 - 1 ∧
        position.character.toNat = max place.column.toNat 1 - 1 := by
  obtain ⟨line, character⟩ := position
  rw [← Position.toNat_zeroBased, ← Position.toNat_zeroBased, UInt32.toNat_inj, UInt32.toNat_inj]
  unfold position Position.ofOneBased
  rw [Position.mk.injEq]
  constructor
  · rintro ⟨sameLine, sameCharacter⟩
    exact ⟨sameLine.symm, sameCharacter.symm⟩
  · rintro ⟨sameLine, sameCharacter⟩
    exact ⟨sameLine.symm, sameCharacter.symm⟩

theorem Finding.diagnostic_ok_iff (finding : Finding) (diagnostic : Diagnostic) :
    finding.diagnostic = .ok diagnostic ↔ diagnostic.StandsFor finding := by
  unfold Finding.diagnostic
  rcases Level.parse_cases finding.level with ⟨level, isName, parsed⟩ | ⟨isOther, parsed⟩
  · rw [parsed]
    constructor
    · intro same
      cases same
      obtain ⟨startLine, startCharacter⟩ := (finding.location.start.position_eq_iff _).1 rfl
      obtain ⟨stopLine, stopCharacter⟩ := (finding.location.stop.position_eq_iff _).1 rfl
      have severity := (Level.mem_levelSeverities_iff finding.level level.severity).2 ⟨level, isName, rfl⟩
      exact ⟨startLine, startCharacter, stopLine, stopCharacter, severity, finding.message_text, rfl⟩
    · intro stands
      have startsAt := (finding.location.start.position_eq_iff _).2 ⟨stands.startLine, stands.startCharacter⟩
      have stopsAt := (finding.location.stop.position_eq_iff _).2 ⟨stands.stopLine, stands.stopCharacter⟩
      obtain ⟨other, isOther, ofOther⟩ := (Level.mem_levelSeverities_iff _ _).1 stands.severity
      have sameLevel : level = other := by
        rw [isOther, other.parse_name] at parsed
        exact (Except.ok.inj parsed).symm
      have hasMessage := finding.message_text.trans stands.message.symm
      have hasSource := stands.source
      obtain ⟨⟨start, stop⟩, severity, message, source⟩ := diagnostic
      dsimp only at startsAt stopsAt ofOther hasMessage hasSource ⊢
      rw [startsAt, stopsAt, hasMessage, ofOther, hasSource, sameLevel]
      rfl
  · rw [parsed]
    constructor
    · exact nofun
    · intro stands
      obtain ⟨level, isName, _⟩ := (Level.mem_levelSeverities_iff _ _).1 stands.severity
      exact absurd isName (isOther level)

theorem Finding.diagnostic_error_iff (finding : Finding) (failure : Failure) :
    finding.diagnostic = .error failure ↔
      ¬ finding.HasKnownLevel ∧ failure = .unsupportedSeverity finding.level := by
  unfold diagnostic
  rw [hasKnownLevel_iff]
  rcases Level.parse_cases finding.level with ⟨level, isName, parsed⟩ | ⟨isOther, parsed⟩
  · rw [parsed]
    constructor
    · exact nofun
    · rintro ⟨unknown, _⟩
      exact absurd ⟨level, isName⟩ unknown
  · rw [parsed]
    constructor
    · intro same
      cases same
      refine ⟨?_, rfl⟩
      rintro ⟨level, isName⟩
      exact isOther level isName
    · rintro ⟨_, rfl⟩
      rfl

theorem Finding.exists_diagnostic_iff (finding : Finding) :
    (∃ diagnostic, finding.diagnostic = .ok diagnostic) ↔ finding.HasKnownLevel := by
  constructor
  · rintro ⟨diagnostic, isOk⟩
    exact List.mem_map_of_mem ((finding.diagnostic_ok_iff diagnostic).1 isOk).severity
  · intro known
    cases told : finding.diagnostic with
    | ok diagnostic => exact ⟨diagnostic, rfl⟩
    | error failure => exact absurd known ((finding.diagnostic_error_iff failure).1 told).1

/-- A finding ends before the last character that can be counted, and what is said about the linter ends there. -/
theorem Finding.diagnostic_ne_synthetic (finding : Finding) (text : String) :
    finding.diagnostic ≠ .ok (Diagnostic.synthetic text) := by
  intro isSynthetic
  have stopsAt := ((finding.diagnostic_ok_iff _).1 isSynthetic).stopCharacter
  have bound := finding.location.stop.column.toNat_lt
  change 4294967295 = _ at stopsAt
  omega

/-! ### Order -/

theorem Position.order_isLE_iff (left right : Position) :
    (left.order right).isLE = true ↔
      left.line.toNat < right.line.toNat ∨
        left.line.toNat = right.line.toNat ∧ left.character.toNat ≤ right.character.toNat := by
  unfold order
  rw [Ordering.isLE_then_iff_or, Std.compare_eq_lt, Std.LawfulEqCmp.compare_eq_iff_eq, Std.isLE_compare,
    UInt32.lt_iff_toNat_lt, ← UInt32.toNat_inj, UInt32.le_iff_toNat_le]

def LinePosition.AtMost (left right : LinePosition) : Prop :=
  left.line < right.line ∨ left.line = right.line ∧ left.column ≤ right.column

instance (left right : LinePosition) : Decidable (left.AtMost right) :=
  inferInstanceAs (Decidable (_ ∨ _ ∧ _))

theorem LinePosition.atMost_iff (left right : LinePosition) :
    left.AtMost right ↔
      left.line.toNat < right.line.toNat ∨
        left.line.toNat = right.line.toNat ∧ left.column.toNat ≤ right.column.toNat := by
  unfold AtMost
  rw [UInt32.lt_iff_toNat_lt, ← UInt32.toNat_inj, UInt32.le_iff_toNat_le]

/-- The lines are told apart only by the first being 0 and the second 1, and the columns are the other way
round, also when column 0 counts as column 1. -/
def Location.FoldsBack (location : Location) : Prop :=
  location.start.line = 0 ∧ location.stop.line = 1 ∧
    location.stop.column < location.start.column ∧ 1 < location.start.column

instance (location : Location) : Decidable location.FoldsBack :=
  inferInstanceAs (Decidable (_ ∧ _ ∧ _ ∧ _))

theorem Location.foldsBack_iff (location : Location) :
    location.FoldsBack ↔
      location.start.line.toNat = 0 ∧ location.stop.line.toNat = 1 ∧
        location.stop.column.toNat < location.start.column.toNat ∧ 1 < location.start.column.toNat := by
  unfold FoldsBack
  rw [← UInt32.toNat_inj, ← UInt32.toNat_inj, UInt32.lt_iff_toNat_lt, UInt32.lt_iff_toNat_lt]
  rfl

/-- Counting from zero keeps the order of two places unless the second folds back behind the first. -/
theorem Location.position_order_iff (location : Location) (inOrder : location.start.AtMost location.stop) :
    (location.start.position.order location.stop.position).isLE = true ↔ ¬ location.FoldsBack := by
  rw [LinePosition.atMost_iff] at inOrder
  rw [Position.order_isLE_iff, foldsBack_iff]
  simp only [LinePosition.position, Position.ofOneBased, Position.toNat_zeroBased]
  -- lines that differ stay different, unless they are 0 and 1
  omega

/-- The range of a finding with a known level keeps the order of its ends, unless it folds back. -/
theorem Finding.range_inOrder_iff (finding : Finding) (known : finding.HasKnownLevel)
    (inOrder : finding.location.start.AtMost finding.location.stop) :
    ∃ diagnostic, finding.diagnostic = .ok diagnostic ∧
      ((diagnostic.range.start.order diagnostic.range.stop).isLE = true ↔ ¬ finding.location.FoldsBack) := by
  obtain ⟨diagnostic, isOk⟩ := finding.exists_diagnostic_iff.2 known
  have stands := (finding.diagnostic_ok_iff diagnostic).1 isOk
  have startsAt := (finding.location.start.position_eq_iff _).2 ⟨stands.startLine, stands.startCharacter⟩
  have stopsAt := (finding.location.stop.position_eq_iff _).2 ⟨stands.stopLine, stands.stopCharacter⟩
  refine ⟨diagnostic, isOk, ?_⟩
  rw [← startsAt, ← stopsAt]
  exact finding.location.position_order_iff inOrder

def findingAt (start stop : LinePosition) : Finding :=
  ⟨"stack.yaml", "Error", ⟨start, stop, []⟩, "boom", ⟨"E0000", "", "", ""⟩⟩

theorem Finding.range_inOrder_between_first_lines :
    let finding := findingAt ⟨0, 1⟩ ⟨1, 0⟩
    finding.HasKnownLevel ∧ finding.location.start.AtMost finding.location.stop ∧
      ∃ diagnostic, finding.diagnostic = .ok diagnostic ∧
        (diagnostic.range.start.order diagnostic.range.stop).isLE = true := by
  intro finding
  have known : finding.HasKnownLevel := by decide
  have inOrder : finding.location.start.AtMost finding.location.stop := by decide
  obtain ⟨diagnostic, isOk, order_iff⟩ := range_inOrder_iff finding known inOrder
  exact ⟨known, inOrder, diagnostic, isOk, order_iff.2 (by decide)⟩

theorem Finding.range_out_of_order :
    let finding := findingAt ⟨0, 5⟩ ⟨1, 1⟩
    finding.HasKnownLevel ∧ finding.location.start.AtMost finding.location.stop ∧
      ∃ diagnostic, finding.diagnostic = .ok diagnostic ∧
        (diagnostic.range.start.order diagnostic.range.stop).isLE = false := by
  intro finding
  exact ⟨by decide, by decide, _, rfl, by decide⟩

end TemplateLint
