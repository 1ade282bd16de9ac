import TemplateLint.Linting

set_option autoImplicit false

/-!
One run of the linter: what is planned before anything is started, and how the end of the process is read.

Neither depends on the machine or on the log.  The machine comes in only once, when the planned command is
started.
-/

namespace TemplateLint

open TemplateLint.Regex (Pattern)

variable {σ : Type}

structure Plan where
  command : Command
  ignored : List Pattern

def Plan.make (settings : Settings) (path directory : Path) : Except Failure Plan :=
  match Template.compile settings.ignorePatterns with
  | .error failure => .error failure
  | .ok ignored =>
      match Invocation.make settings path directory with
      | .error failure => .error failure
      | .ok invocation => .ok ⟨invocation.command, ignored⟩

def Plan.reading (plan : Plan) : Launch → Except Failure (List Diagnostic)
  | .notStarted _ => (interpret .startFailed plan.ignored).1
  | .lost => .error .io
  | .finished output => (interpret (RunOutput.ofProcess output) plan.ignored).1

theorem execute_spec (host : Host σ) (invocation : Invocation) (world : World σ) :
    (execute host invocation world).2.state = (host.start invocation.command world.state).2 ∧
      (execute host invocation world).1 =
        match (host.start invocation.command world.state).1 with
        | .notStarted _ => .ok .startFailed
        | .lost => .error .io
        | .finished output => .ok (RunOutput.ofProcess output) := by
  simp only [execute, World.state_note]
  cases (host.start invocation.command world.state).1 with
  | notStarted reason => exact ⟨rfl, rfl⟩
  | lost => exact ⟨rfl, rfl⟩
  | finished output => exact ⟨rfl, rfl⟩

/-- Nothing happens without a plan. -/
theorem lintFile_of_no_plan (host : Host σ) (settings : Settings) (path directory : Path) (world : World σ)
    (failure : Failure) (refused : Plan.make settings path directory = .error failure) :
    lintFile host settings path directory world = (.error failure, world) := by
  unfold Plan.make at refused
  unfold lintFile
  cases compiled : Template.compile settings.ignorePatterns with
  | error cause =>
      rw [compiled] at refused
      cases refused
      rfl
  | ok ignored =>
      cases made : Invocation.make settings path directory with
      | error cause =>
          rw [compiled, made] at refused
          cases refused
          rfl
      | ok invocation =>
          rw [compiled, made] at refused
          cases refused

/-- With a plan the command is started once, and its end decides. -/
theorem lintFile_of_plan (host : Host σ) (settings : Settings) (path directory : Path) (world : World σ)
    (plan : Plan) (planned : Plan.make settings path directory = .ok plan) :
    (lintFile host settings path directory world).1 =
        plan.reading (host.start plan.command world.state).1 ∧
      (lintFile host settings path directory world).2.state = (host.start plan.command world.state).2 := by
  unfold Plan.make at planned
  unfold lintFile
  cases compiled : Template.compile settings.ignorePatterns with
  | error cause =>
      rw [compiled] at planned
      cases planned
  | ok ignored =>
      cases made : Invocation.make settings path directory with
      | error cause =>
          rw [compiled, made] at planned
          cases planned
      | ok invocation =>
          rw [compiled, made] at planned
          cases planned
          obtain ⟨ended, result⟩ := execute_spec host invocation world
          dsimp only [Plan.reading]
          generalize execute host invocation world = executed at ended result ⊢
          generalize host.start invocation.command world.state = started at ended result ⊢
          obtain ⟨launch, state⟩ := started
          obtain ⟨output, after⟩ := executed
          cases launch with
          | notStarted reason =>
              cases result
              exact ⟨rfl, ended⟩
          | lost =>
              cases result
              exact ⟨rfl, ended⟩
          | finished output =>
              cases result
              dsimp only
              cases (interpret (RunOutput.ofProcess output) ignored).1 with
              | error failure => exact ⟨rfl, ended⟩
              | ok diagnostics => exact ⟨rfl, ended⟩

/-- What is found in a file depends on the state of the machine and not on what the log says so far. -/
theorem lintFile_of_same_state (host : Host σ) (settings : Settings) (path directory : Path)
    (left right : World σ) (same : left.state = right.state) :
    (lintFile host settings path directory left).1 = (lintFile host settings path directory right).1 ∧
      (lintFile host settings path directory left).2.state =
        (lintFile host settings path directory right).2.state := by
  cases planned : Plan.make settings path directory with
  | error failure =>
      rw [lintFile_of_no_plan host settings path directory left failure planned,
        lintFile_of_no_plan host settings path directory right failure planned]
      exact ⟨rfl, same⟩
  | ok plan =>
      obtain ⟨leftResult, leftState⟩ := lintFile_of_plan host settings path directory left plan planned
      obtain ⟨rightResult, rightState⟩ := lintFile_of_plan host settings path directory right plan planned
      rw [leftResult, leftState, rightResult, rightState, same]
      exact ⟨rfl, rfl⟩

/-! ### Steady hosts -/

/-- On a steady host the settings, the path and the project root decide what is found in a file; neither the
state of the machine nor the log does. -/
def Host.Steady (host : Host σ) : Prop :=
  ∃ found : Settings → Path → Path → Except Failure (List Diagnostic),
    ∀ settings path projectRoot world,
      (lintFile host settings path projectRoot world).1 = found settings path projectRoot

/-- A host is steady when every command ends in the same way each time. -/
theorem Host.steady_of_start (host : Host σ) (launch : Command → Launch)
    (starts : ∀ command state, (host.start command state).1 = launch command) : host.Steady := by
  refine ⟨fun settings path projectRoot =>
    (Plan.make settings path projectRoot).bind fun plan => plan.reading (launch plan.command), ?_⟩
  intro settings path projectRoot world
  dsimp only
  cases planned : Plan.make settings path projectRoot with
  | error failure =>
      rw [lintFile_of_no_plan host settings path projectRoot world failure planned]
      rfl
  | ok plan =>
      rw [(lintFile_of_plan host settings path projectRoot world plan planned).1, starts]
      rfl

end TemplateLint
