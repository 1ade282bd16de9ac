import TemplateLint.Proofs.ShownCommand

set_option autoImplicit false

/-!
What has to be in order before the linter is started.

The patterns of messages are read first, in their own order, and then the settings that are passed on, in the
order of the table.  The first of them that is not in order is reported; nothing has been started then, whatever
arguments earlier rows have already given.
-/

namespace TemplateLint

variable {σ : Type}

def FlagRow.Fits (settings : Settings) (row : FlagRow) : Prop :=
  ∀ value ∈ settings.get? row.key, value.shape = row.shape.shape

instance (settings : Settings) : DecidablePred (FlagRow.Fits settings) :=
  fun row => inferInstanceAs (Decidable (∀ value ∈ settings.get? row.key, value.shape = row.shape.shape))

def Settings.PatternsReadable (settings : Settings) : Prop :=
  ∀ text ∈ settings.ignorePatterns, ∃ pattern, Regex.compile? text = some pattern

structure Settings.InOrder (settings : Settings) : Prop where
  readable : settings.PatternsReadable
  fitting : ∀ row ∈ flagTable, row.Fits settings

inductive Settings.RefusedWith (settings : Settings) : Failure → Prop where
  | unreadable {text : String} (first : Template.FirstUnreadable settings.ignorePatterns text) :
      RefusedWith settings (.invalidPattern text)
  | misfit {earlier later : List FlagRow} {row : FlagRow} {value : SettingValue}
      (readable : settings.PatternsReadable) (split : flagTable = earlier ++ row :: later)
      (before : ∀ other ∈ earlier, other.Fits settings) (present : settings.get? row.key = some value)
      (misfits : value.shape ≠ row.shape.shape) :
      RefusedWith settings (.unsupportedShape row.key row.shape.shape value.shape)

/-! ### Single checks -/

theorem Template.exists_compile_iff (texts : List String) :
    (∃ compiled, compile texts = .ok compiled) ↔
      ∀ text ∈ texts, ∃ pattern, Regex.compile? text = some pattern := by
  rw [compile_eq_mapM, exists_mapM_ok_iff]
  simp only [readPattern_ok_iff]

theorem FlagRow.shape_of_argumentsFor {row : FlagRow} {value : SettingValue} {arguments : List String}
    (isOk : row.argumentsFor value = .ok arguments) : value.shape = row.shape.shape := by
  apply Decidable.byContradiction
  intro misfits
  rw [row.argumentsFor_of_misfit value misfits] at isOk
  cases isOk

theorem FlagRow.exists_arguments_iff (row : FlagRow) (settings : Settings) :
    (∃ arguments, row.arguments settings = .ok arguments) ↔ row.Fits settings := by
  unfold arguments Fits
  cases settings.get? row.key with
  | none => exact ⟨fun _ => nofun, fun _ => ⟨[], rfl⟩⟩
  | some value =>
      constructor
      · rintro ⟨arguments, isOk⟩ other isThere
        cases isThere
        exact shape_of_argumentsFor isOk
      · intro fits
        exact row.argumentsFor_of_fit value (fits value rfl)

theorem exists_flagArguments_iff (settings : Settings) (rows : List FlagRow) :
    (∃ arguments, flagArguments settings rows = .ok arguments) ↔ ∀ row ∈ rows, row.Fits settings := by
  rw [flagArguments_eq_mapM, exists_map_ok_iff, exists_mapM_ok_iff]
  simp only [FlagRow.exists_arguments_iff]

theorem Invocation.exists_make_iff (settings : Settings) (path directory : Path) :
    (∃ invocation, make settings path directory = .ok invocation) ↔
      ∃ arguments, flagArguments settings flagTable = .ok arguments := by
  unfold make linterArguments
  cases flagArguments settings flagTable with
  | error failure => exact ⟨nofun, nofun⟩
  | ok flags => exact ⟨fun _ => ⟨flags, rfl⟩, fun _ => ⟨_, rfl⟩⟩

/-! ### The whole plan -/

theorem Plan.exists_make_iff_inOrder (settings : Settings) (path directory : Path) :
    (∃ plan, make settings path directory = .ok plan) ↔ settings.InOrder := by
  rw [exists_make_iff, Template.exists_compile_iff, Invocation.exists_make_iff, exists_flagArguments_iff]
  constructor
  · rintro ⟨readable, fitting⟩
    exact ⟨readable, fitting⟩
  · rintro ⟨readable, fitting⟩
    exact ⟨readable, fitting⟩

theorem Plan.make_error_cases (settings : Settings) (path directory : Path) (failure : Failure) :
    make settings path directory = .error failure ↔
      Template.compile settings.ignorePatterns = .error failure ∨
        (∃ ignored, Template.compile settings.ignorePatterns = .ok ignored) ∧
          Invocation.make settings path directory = .error failure := by
  unfold make
  cases Template.compile settings.ignorePatterns with
  | error cause => simp
  | ok ignored =>
      cases Invocation.make settings path directory with
      | error cause => simp
      | ok invocation => simp

theorem Plan.make_error_iff (settings : Settings) (path directory : Path) (failure : Failure) :
    make settings path directory = .error failure ↔ settings.RefusedWith failure := by
  rw [make_error_cases, Template.exists_compile_iff, Template.compile_error_iff, Invocation.make_error_iff,
    flagArguments_error_iff]
  simp only [FlagRow.exists_arguments_iff]
  constructor
  · rintro (⟨text, first, rfl⟩ | ⟨readable, earlier, row, later, split, ⟨value, present, misfits, rfl⟩, before⟩)
    · exact .unreadable first
    · exact .misfit readable split before present misfits
  · intro refused
    cases refused with
    | unreadable first => exact .inl ⟨_, first, rfl⟩
    | misfit readable split before present misfits =>
        exact .inr ⟨readable, _, _, _, split, ⟨_, present, misfits, rfl⟩, before⟩

theorem Settings.exists_refusedWith_iff (settings : Settings) :
    (∃ failure, settings.RefusedWith failure) ↔ ¬ settings.InOrder := by
  -- a plan is made or refused, whatever the file is
  let path := Path.ofString ""
  rw [← Plan.exists_make_iff_inOrder settings path path]
  simp only [← Plan.make_error_iff settings path path]
  cases Plan.make settings path path with
  | error failure => simp
  | ok plan => simp

/-! ### Starting -/

def startedFor (host : Host σ) (settings : Settings) (path directory : Path) (world : World σ) : List Command :=
  (lintFile host.recorded settings path directory ⟨(world.state, []), world.log⟩).2.state.2

theorem startedFor_of_plan (host : Host σ) {settings : Settings} {path directory : Path} (world : World σ)
    {plan : Plan} (planned : Plan.make settings path directory = .ok plan) :
    startedFor host settings path directory world = [plan.command] := by
  obtain ⟨-, ended⟩ := lintFile_of_plan host.recorded settings path directory
    ⟨(world.state, []), world.log⟩ plan planned
  rw [startedFor, ended]
  rfl

theorem startedFor_of_no_plan (host : Host σ) {settings : Settings} {path directory : Path} (world : World σ)
    {failure : Failure} (refused : Plan.make settings path directory = .error failure) :
    startedFor host settings path directory world = [] := by
  rw [startedFor, lintFile_of_no_plan _ _ _ _ _ _ refused]

theorem startedFor_ne_nil_iff (host : Host σ) (settings : Settings) (path directory : Path) (world : World σ) :
    startedFor host settings path directory world ≠ [] ↔ settings.InOrder := by
  rw [← Plan.exists_make_iff_inOrder settings path directory]
  cases planned : Plan.make settings path directory with
  | error failure =>
      rw [startedFor_of_no_plan host world planned]
      exact ⟨fun isSome => absurd rfl isSome, nofun⟩
  | ok plan =>
      rw [startedFor_of_plan host world planned]
      exact ⟨fun _ => ⟨plan, rfl⟩, fun _ => List.cons_ne_nil _ _⟩

/-- The linter is started just when every pattern of messages can be read and every setting that is passed on has
the shape of its row.  Otherwise the machine and the log stay as they are, and the failure names the first pattern
of the list that cannot be read or, when all can, the first row of the table that misfits. -/
theorem lintFile_starts_iff_inOrder (host : Host σ) (settings : Settings) (path directory : Path)
    (world : World σ) :
    (startedFor host settings path directory world ≠ [] ↔ settings.InOrder) ∧
    (¬ settings.InOrder → ∃ failure, settings.RefusedWith failure) ∧
    ∀ failure, settings.RefusedWith failure →
      lintFile host settings path directory world = (.error failure, world) := by
  refine ⟨startedFor_ne_nil_iff host settings path directory world,
    (Settings.exists_refusedWith_iff settings).2, ?_⟩
  intro failure refused
  exact lintFile_of_no_plan host settings path directory world failure
    ((Plan.make_error_iff settings path directory failure).2 refused)

/-- Two rows misfit, behind one that has given arguments.  In the order of their names the second one comes first. -/
def settingsWithMisfits : Settings := Settings.ofList [
  ("regions", .stringList ["us-east-1"]), ("ignoreRules", .boolean true), ("customRules", .string "rules")]

def settingsWithBrokenPatterns : Settings :=
  settingsWithMisfits.set "ignoreRulesRegExps" (.stringList ["", "(", "["])

theorem settingsWithMisfits_refused :
    settingsWithMisfits.RefusedWith (.unsupportedShape "ignoreRules" .stringList .boolean) := by
  have noPatterns : settingsWithMisfits.ignorePatterns = [] := by decide +kernel
  have readable : settingsWithMisfits.PatternsReadable := by
    intro text isText
    rw [noPatterns] at isText
    cases isText
  have split : flagTable =
      flagTable.take 3 ++ ⟨"ignoreRules", .items, "--ignore-checks"⟩ :: flagTable.drop 4 := rfl
  have before : ∀ other ∈ flagTable.take 3, other.Fits settingsWithMisfits := by decide +kernel
  have present : settingsWithMisfits.get? "ignoreRules" = some (.boolean true) := by decide +kernel
  exact .misfit readable split before present (by decide)

theorem settingsWithBrokenPatterns_refused :
    settingsWithBrokenPatterns.RefusedWith (.invalidPattern "(") := by
  have patterns : settingsWithBrokenPatterns.ignorePatterns = ["", "(", "["] := by decide +kernel
  have unreadable : Regex.compile? "(" = none := by decide +kernel
  have readable : (Regex.compile? "").isSome = true := by decide +kernel
  refine .unreadable ⟨[""], ["["], patterns, unreadable, ?_⟩
  intro other isOther
  cases List.mem_singleton.1 isOther
  exact Option.isSome_iff_exists.1 readable

theorem lintFile_starts_nothing_with_misfits :
    settingsWithMisfits.RefusedWith (.unsupportedShape "ignoreRules" .stringList .boolean) ∧
    lintFile Check.complainingHost settingsWithMisfits (Path.ofString "/a.yaml") (Path.ofString "/") ⟨(), []⟩ =
      (.error (.unsupportedShape "ignoreRules" .stringList .boolean), ⟨(), []⟩) ∧
    settingsWithBrokenPatterns.RefusedWith (.invalidPattern "(") ∧
    lintFile Check.complainingHost settingsWithBrokenPatterns (Path.ofString "/a.yaml") (Path.ofString "/") ⟨(), []⟩ =
      (.error (.invalidPattern "("), ⟨(), []⟩) ∧
    ¬ settingsWithMisfits.InOrder ∧
    startedFor Check.complainingHost settingsWithMisfits (Path.ofString "/a.yaml") (Path.ofString "/") ⟨(), []⟩ = [] ∧
    Settings.empty.InOrder ∧
    startedFor Check.complainingHost Settings.empty (Path.ofString "/a.yaml") (Path.ofString "/") ⟨(), []⟩ ≠ [] := by
  obtain ⟨starts_iff, -, refuses⟩ :=
    lintFile_starts_iff_inOrder Check.complainingHost settingsWithMisfits (Path.ofString "/a.yaml") (Path.ofString "/")
      ⟨(), []⟩
  obtain ⟨-, -, refusesPattern⟩ :=
    lintFile_starts_iff_inOrder Check.complainingHost settingsWithBrokenPatterns (Path.ofString "/a.yaml")
      (Path.ofString "/") ⟨(), []⟩
  obtain ⟨startsEmpty_iff, -, -⟩ :=
    lintFile_starts_iff_inOrder Check.complainingHost Settings.empty (Path.ofString "/a.yaml") (Path.ofString "/")
      ⟨(), []⟩
  have notInOrder : ¬ settingsWithMisfits.InOrder :=
    (Settings.exists_refusedWith_iff _).1 ⟨_, settingsWithMisfits_refused⟩
  have emptyInOrder : Settings.empty.InOrder := ⟨nofun, by decide +kernel⟩
  exact ⟨settingsWithMisfits_refused, refuses _ settingsWithMisfits_refused,
    settingsWithBrokenPatterns_refused, refusesPattern _ settingsWithBrokenPatterns_refused, notInOrder,
    Decidable.not_not.1 (mt starts_iff.1 notInOrder), emptyInOrder, startsEmpty_iff.2 emptyInOrder⟩

end TemplateLint
