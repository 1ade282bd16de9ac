import TemplateLint.Program
import TemplateLint.Proofs.Interpretation
import TemplateLint.Proofs.ShownCommand

set_option autoImplicit false

/-!
The verdict on the health of the linter, against the checks that report that it did not start.

The verdict starts the program in the current directory, a check starts it in the project root.  Where both
directories let the program start, or neither does, the verdict speaks for the checks.
-/

namespace TemplateLint

variable {σ τ : Type}

/-! ### Diagnostics of findings are never about the linter -/

theorem synthetic_notMem_diagnosticsOf {findings : List Finding} {diagnostics : List Diagnostic}
    (read : diagnosticsOf findings = .ok diagnostics) (text : String) :
    Diagnostic.synthetic text ∉ diagnostics := by
  rw [diagnosticsOf_eq_mapM, mapM_ok_iff_forall₂] at read
  intro isDiagnostic
  obtain ⟨finding, -, same⟩ := exists_item_of_mem read isDiagnostic
  exact finding.diagnostic_ne_synthetic text same

/-! ### Diagnostics of a linter that did not start -/

def startFailure : Diagnostic := Diagnostic.synthetic startFailureText

theorem startFailure_notMem_interpret (output : ProcessOutput) (ignored : List Regex.Pattern)
    {diagnostics : List Diagnostic} (read : (interpret (.ofProcess output) ignored).1 = .ok diagnostics) :
    startFailure ∉ diagnostics := by
  by_cases quiet : output.stderr = []
  · rw [RunOutput.ofProcess_of_quiet quiet] at read
    cases parsed : parseFindings (Text.Utf8.stringLossy output.stdout) with
    | error failure =>
        rw [interpret_of_no_parse parsed] at read
        cases read
    | ok findings =>
        rw [interpret_of_parse parsed] at read
        exact synthetic_notMem_diagnosticsOf read startFailureText
  · rw [RunOutput.ofProcess_of_complaint quiet] at read
    cases read
    decide

theorem Plan.startFailure_mem_iff (plan : Plan) (launch : Launch) {diagnostics : List Diagnostic}
    (read : plan.reading launch = .ok diagnostics) :
    startFailure ∈ diagnostics ↔ ∃ reason, launch = .notStarted reason := by
  cases launch with
  | notStarted reason =>
      cases read
      exact ⟨fun _ => ⟨reason, rfl⟩, fun _ => List.mem_singleton_self _⟩
  | lost => cases read
  | finished output =>
      refine ⟨fun isThere => absurd isThere ?_, nofun⟩
      exact startFailure_notMem_interpret output plan.ignored read

/-! ### Directories in which programs start -/

def Command.runsIn (currentDirectory : Path) (command : Command) : Path :=
  match command.directory with
  | none => currentDirectory
  | some directory => currentDirectory.join directory

/-- Whether a command starts is decided by its program and the directory in which it runs. -/
def Host.StartsBy (host : Host σ) (canStart : String → Path → Bool) : Prop :=
  ∀ command state, (∃ reason, (host.start command state).1 = .notStarted reason) ↔
    canStart command.program (command.runsIn host.currentDirectory) = false

def Settings.program (settings : Settings) : String :=
  ((splitLinter? settings.linterPath).getD (defaultLinter, [])).1

theorem Plan.command_of_make {settings : Settings} {path directory : Path} {plan : Plan}
    (planned : make settings path directory = .ok plan) :
    plan.command.program = settings.program ∧ plan.command.directory = some directory := by
  obtain ⟨ignored, invocation, -, made, rfl⟩ := (make_ok_iff _ _ _ _).1 planned
  unfold Invocation.make at made
  cases arguments : linterArguments settings path with
  | error failure =>
      rw [arguments] at made
      cases made
  | ok arguments =>
      rw [arguments] at made
      cases made
      exact ⟨rfl, rfl⟩

section

variable {host : Host σ} {canStart : String → Path → Bool} (decides : host.StartsBy canStart)

include decides

theorem Plan.notStarted_iff {settings : Settings} {path directory : Path} {plan : Plan}
    (planned : make settings path directory = .ok plan) (state : σ) :
    (∃ reason, (host.start plan.command state).1 = .notStarted reason) ↔
      canStart settings.program (host.currentDirectory.join directory) = false := by
  obtain ⟨isProgram, inDirectory⟩ := command_of_make planned
  rw [decides, isProgram, Command.runsIn, inDirectory]

/-! ### What checks report -/

theorem startFailure_mem_survey_iff {settings : Settings} {projectRoot : Path} {isForced : Bool}
    {document : Document} {state : σ} {diagnostics : List Diagnostic}
    (surveyed : (survey host settings projectRoot isForced document state).1 = .ok (some diagnostics)) :
    startFailure ∈ diagnostics ↔
      canStart settings.program (host.currentDirectory.join projectRoot) = false := by
  unfold survey at surveyed
  generalize isCandidate settings isForced document = candidate at surveyed
  match candidate, surveyed with
  | .ok true, surveyed =>
      obtain ⟨found, read, same⟩ := (map_ok_iff _ _ _).1 surveyed
      cases same
      cases planned : Plan.make settings document.path projectRoot with
      | error failure =>
          rw [lintFile_of_no_plan host settings _ _ ⟨state, []⟩ failure planned] at read
          cases read
      | ok plan =>
          rw [(lintFile_of_plan host settings _ _ ⟨state, []⟩ plan planned).1] at read
          rw [plan.startFailure_mem_iff _ read, Plan.notStarted_iff decides planned]

theorem Check.startFailure_mem_iff {settings : Settings} {projectRoot : Path} {isForced : Bool} {state : σ}
    {path : Path} {report : Report} (found : finding host settings projectRoot isForced state path = .ok report) :
    startFailure ∈ report.diagnostics ↔ report.skipped = false ∧
      canStart settings.program (host.currentDirectory.join projectRoot) = false := by
  unfold finding at found
  generalize (host.entry state path).text? = content at found
  cases content with
  | none => cases found
  | some text =>
      obtain ⟨diagnostics, surveyed, rfl⟩ := (map_ok_iff _ _ _).1 found
      cases diagnostics with
      | none => exact ⟨nofun, nofun⟩
      | some diagnostics =>
          refine (startFailure_mem_survey_iff decides surveyed).trans ?_
          exact (and_iff_right rfl).symm

/-! ### What the verdict says -/

theorem Inspection.canStart_of_working {settings : Settings} {state : σ}
    (works : (examine host settings state).1.isWorking = true) :
    canStart settings.program host.currentDirectory = true := by
  unfold examine at works
  unfold Settings.program
  dsimp only at works
  cases words : splitLinter? settings.linterPath with
  | none =>
      rw [words] at works
      cases works
  | some both =>
      obtain ⟨program, first⟩ := both
      rw [words] at works
      dsimp only at works
      have starts := decides (versionCommand program first) state
      unfold isAvailable at works
      generalize host.start (versionCommand program first) state = started at starts works
      obtain ⟨launch, after⟩ := started
      cases launch with
      | notStarted reason => cases works
      | lost => cases works
      | finished output =>
          change canStart program host.currentDirectory = true
          cases inDirectory : canStart program host.currentDirectory with
          | true => rfl
          | false => exact nomatch starts.2 inDirectory

/-- After the verdict that the linter works its program starts in the current directory.  A check then reports
that the linter did not start for just those files that are not skipped when the program does not start in the
project root, so it never does when the project root is the current directory. -/
theorem Check.startFailure_after_working_iff {settings : Settings} {projectRoot : Path} {isForced : Bool}
    {paths : List Path} {state : σ} {world : World σ} {check : Check}
    (works : (Inspection.examine host settings state).1.isWorking = true)
    (checked : (run host settings projectRoot isForced paths world).1 = .ok check) :
    canStart settings.program host.currentDirectory = true ∧
    (∀ report ∈ check.reports, startFailure ∈ report.diagnostics ↔
      report.skipped = false ∧ canStart settings.program (host.currentDirectory.join projectRoot) = false) ∧
    (host.currentDirectory.join projectRoot = host.currentDirectory →
      ∀ report ∈ check.reports, startFailure ∉ report.diagnostics) := by
  have starts := Inspection.canStart_of_working decides works
  have reported : ∀ report ∈ check.reports, startFailure ∈ report.diagnostics ↔ report.skipped = false ∧
      canStart settings.program (host.currentDirectory.join projectRoot) = false := by
    intro report isReport
    obtain ⟨path, -, earlier, found⟩ := exists_finding_of_mem checked isReport
    exact Check.startFailure_mem_iff decides found
  refine ⟨starts, reported, ?_⟩
  intro sameDirectory report isReport isThere
  obtain ⟨-, notInRoot⟩ := (reported report isReport).1 isThere
  rw [sameDirectory, starts] at notInRoot
  cases notInRoot

end

/-! ### Two projects with one setting -/

/-- The linter is installed in the first of two projects; a relative path leads to it from there alone. -/
def startsInFirst (program : String) (directory : Path) : Bool :=
  [Path.ofString "/first", Path.ofString "/second"].contains directory &&
    directory.join (Path.ofString program) == Path.ofString "/first/bin/cfn-lint"

def twoProjects : Host Unit where
  entry _ path :=
    if path = Path.ofString "/second/.cfn-lint-bridge.toml" then
      .file (Text.Utf8.bytes "[cfnlint]\npath = 'bin/cfn-lint'\n")
    else if path = Path.ofString "stack.yaml" then
      .file (Text.Utf8.bytes "AWSTemplateFormatVersion: 1\nResources:\n")
    else .absent
  start command _ :=
    if startsInFirst command.program (command.runsIn (Path.ofString "/first")) then
      let answer := if command.arguments.contains "--version" then "cfn-lint 9.9\n" else "[]\n"
      (.finished ⟨Text.Utf8.bytes answer, [], some 0⟩, ())
    else (.notStarted "No such file or directory (os error 2)", ())
  currentDirectory := Path.ofString "/first"
  home := none

theorem twoProjects_startsBy : twoProjects.StartsBy startsInFirst := by
  intro command state
  change (∃ reason, (ite (startsInFirst _ _ = true) _ _ : Launch × Unit).1 = _) ↔ _
  split
  · rename_i starts
    constructor
    · rintro ⟨reason, same⟩
      cases same
    · intro fails
      exact nomatch starts.symm.trans fails
  · rename_i fails
    exact ⟨fun _ => Bool.eq_false_iff.2 fails, fun _ => ⟨_, rfl⟩⟩

def settingsOfSecond : Settings := Settings.ofList [("path", .string "bin/cfn-lint")]

theorem Check.startFailure_in_second_project :
    let report := ⟨"stack.yaml", "file:///first/stack.yaml", false, [startFailure]⟩
    twoProjects.StartsBy startsInFirst ∧
    (Inspection.examine twoProjects settingsOfSecond ()).1.isWorking = true ∧
    (run twoProjects settingsOfSecond (Path.ofString "/second") false [Path.ofString "stack.yaml"] ⟨(), []⟩).1 =
      .ok ⟨[report]⟩ ∧
    startsInFirst settingsOfSecond.program (Path.ofString "/first") = true ∧
    startsInFirst settingsOfSecond.program (Path.ofString "/second") = false := by
  intro report
  have works : (Inspection.examine twoProjects settingsOfSecond ()).1.isWorking = true := by
    decide +kernel
  have checked : (run twoProjects settingsOfSecond (Path.ofString "/second") false [Path.ofString "stack.yaml"]
      ⟨(), []⟩).1 = .ok ⟨[report]⟩ := by
    decide +kernel
  obtain ⟨starts, reported, -⟩ := startFailure_after_working_iff twoProjects_startsBy works checked
  have isThere : startFailure ∈ report.diagnostics := List.mem_singleton_self _
  exact ⟨twoProjects_startsBy, works, checked, starts, ((reported report List.mem_cons_self).1 isThere).2⟩

/-- In the first project the linter of the second one is said to work, and no check there can start it. -/
theorem Program.doctor_good_beside_startFailure :
    twoProjects.StartsBy startsInFirst ∧
    (run twoProjects false ["doctor", "--project-root", "/second"] ()).1.code = 0 ∧
    (run twoProjects false ["lint", "--project-root", "/second", "--format", "compact", "stack.yaml"] ()).1.output =
      "stack.yaml:1:1: error " ++ startFailure.message ++ "\n" :=
  ⟨twoProjects_startsBy, by decide +kernel, by decide +kernel⟩

end TemplateLint
