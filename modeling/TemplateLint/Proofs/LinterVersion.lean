import TemplateLint.Inspection
import TemplateLint.Proofs.LinterWords

set_option autoImplicit false

/-!
The verdict on the linter, against the end of the process that is asked for its version.

The process is started twice, and the second end decides once the first has been seen.  The verdict is about the
process except where it succeeds without a word: a version that is missing counts there as a failure.
-/

namespace TemplateLint

def Launch.HasEnded (launch : Launch) : Prop := ∃ output, launch = .finished output

/-! ### The first words of a process -/

namespace ProcessOutput

def lines (output : ProcessOutput) : List (List Char) :=
  Text.lines (Text.Utf8.decodeLossy output.stdout) ++ Text.lines (Text.Utf8.decodeLossy output.stderr)

/-- A text is what trimming leaves of the first line that is not blank. -/
def SaysFirst (output : ProcessOutput) (text : String) : Prop :=
  ∃ earlier line later, output.lines = earlier ++ line :: later ∧
    (∀ other ∈ earlier, Text.allBlank other = true) ∧ Text.allBlank line = false ∧
    text = String.ofList (Text.trim line)

def IsSilent (output : ProcessOutput) : Prop :=
  Text.allBlank (Text.Utf8.decodeLossy output.stdout) = true ∧
    Text.allBlank (Text.Utf8.decodeLossy output.stderr) = true

theorem isSilent_iff_lines (output : ProcessOutput) :
    output.IsSilent ↔ ∀ line ∈ output.lines, Text.allBlank line = true := by
  rw [IsSilent, lines, List.forall_mem_append]
  exact and_congr (Text.lines_blank_iff _).symm (Text.lines_blank_iff _).symm

end ProcessOutput

namespace Inspection

theorem isEmpty_trim (line : List Char) : (Text.trim line).isEmpty = Text.allBlank line := by
  rw [Bool.eq_iff_iff, List.isEmpty_iff, Text.trim_eq_nil_iff]

theorem firstLine?_eq_find? (output : ProcessOutput) :
    firstLine? output =
      (output.lines.find? fun line => !Text.allBlank line).map fun line => String.ofList (Text.trim line) := by
  have sameTest : (fun line => !line.isEmpty) ∘ Text.trim = fun line => !Text.allBlank line := by
    funext line
    simp only [Function.comp_apply, isEmpty_trim]
  rw [firstLine?, ← ProcessOutput.lines, List.find?_map, sameTest, Option.map_map]
  rfl

theorem firstLine?_eq_some_iff (output : ProcessOutput) (text : String) :
    firstLine? output = some text ↔ output.SaysFirst text := by
  rw [firstLine?_eq_find?, Option.map_eq_some_iff]
  constructor
  · rintro ⟨line, found, rfl⟩
    obtain ⟨speaks, earlier, later, split, before⟩ := List.find?_eq_some_iff_append.1 found
    exact ⟨earlier, line, later, split, by simpa using before, by simpa using speaks, rfl⟩
  · rintro ⟨earlier, line, later, split, before, speaks, rfl⟩
    refine ⟨line, List.find?_eq_some_iff_append.2 ⟨?_, earlier, later, split, ?_⟩, rfl⟩
    · simpa using speaks
    · simpa using before

theorem firstLine?_eq_none_iff (output : ProcessOutput) : firstLine? output = none ↔ output.IsSilent := by
  rw [firstLine?_eq_find?, Option.map_eq_none_iff, List.find?_eq_none, output.isSilent_iff_lines]
  simp

/-! ### The verdict of two launches -/

def verdict (linter : String) : Launch → Launch → Health
  | .finished _, .finished output =>
      if output.isSuccess then (firstLine? output).elim (.unsuccessful linter) (.working linter)
      else .unsuccessful linter
  | .finished _, _ => .unsuccessful linter
  | _, _ => .unstartable linter

variable {σ : Type}

theorem examine_eq_verdict (host : Host σ) (settings : Settings) (state : σ) {program : String}
    {first : List String} (splits : splitLinter? settings.linterPath = some (program, first)) :
    let probe := host.start (versionCommand program first) state
    (examine host settings state).1 =
      verdict settings.linterPath probe.1 (host.start (versionCommand program first) probe.2).1 := by
  intro probe
  unfold examine isAvailable version?
  dsimp only
  rw [splits]
  dsimp only [probe]
  rcases host.start (versionCommand program first) state with ⟨launch, after⟩
  cases launch with
  | notStarted reason => rfl
  | lost => rfl
  | finished seen =>
      dsimp only
      rcases host.start (versionCommand program first) after with ⟨answer, ended⟩
      cases answer with
      | notStarted reason => rfl
      | lost => rfl
      | finished output =>
          dsimp only [verdict]
          cases output.isSuccess with
          | false => rfl
          | true =>
              cases firstLine? output with
              | none => rfl
              | some text => rfl

/-! ### What the verdict has to tell -/

/-- What a verdict has to tell: the linter works just when the process starts and then ends with success, its
first line that is not blank is named, and failure is told only of a process that ended without success. -/
structure Health.Tells (linter : String) (probe answer : Launch) (health : Health) : Prop where
  working_iff : health.isWorking = true ↔
    probe.HasEnded ∧ ∃ output, answer = .finished output ∧ output.isSuccess = true
  version : health.isWorking = true →
    ∃ output version, answer = .finished output ∧ output.SaysFirst version ∧
      health.message = "✓ " ++ version ++ " (" ++ linter ++ ")"
  unsuccessful : health.message = "✗ '" ++ linter ++ " --version' did not exit successfully" →
    probe.HasEnded ∧ ∃ output, answer = .finished output ∧ output.isSuccess = false

def SucceedsSilently (launch : Launch) : Prop :=
  ∃ output, launch = .finished output ∧ output.isSuccess = true ∧ output.IsSilent

theorem succeedsSilently_finished_iff (output : ProcessOutput) :
    SucceedsSilently (.finished output) ↔ output.isSuccess = true ∧ output.IsSilent := by
  simp [SucceedsSilently]

section

variable (linter : String) {probe answer : Launch}

theorem Health.message_unstartable_ne :
    (unstartable linter).message ≠ "✗ '" ++ linter ++ " --version' did not exit successfully" := by
  change "✗ unable to start '" ++ linter ++ "'. Is cfn-lint installed correctly? (pip install cfn-lint)" ≠ _
  simp [← String.toList_inj]

theorem Health.message_working_ne (version : String) :
    (working linter version).message ≠ "✗ '" ++ linter ++ " --version' did not exit successfully" := by
  change "✓ " ++ version ++ " (" ++ linter ++ ")" ≠ _
  simp [← String.toList_inj]

theorem Health.tells_unstartable (unseen : ¬probe.HasEnded) : (unstartable linter).Tells linter probe answer where
  working_iff := ⟨nofun, fun both => absurd both.1 unseen⟩
  version := nofun
  unsuccessful := fun same => absurd same (message_unstartable_ne linter)

theorem Health.tells_unsuccessful_iff (seen : probe.HasEnded) :
    (unsuccessful linter).Tells linter probe answer ↔
      ∃ output, answer = .finished output ∧ output.isSuccess = false := by
  constructor
  · intro tells
    exact (tells.unsuccessful rfl).2
  · rintro ⟨output, rfl, fails⟩
    refine ⟨⟨nofun, ?_⟩, nofun, fun _ => ⟨seen, output, rfl, fails⟩⟩
    rintro ⟨-, other, same, succeeds⟩
    cases same
    rw [fails] at succeeds
    cases succeeds

theorem Health.tells_working (seen : probe.HasEnded) {output : ProcessOutput} {version : String}
    (succeeds : output.isSuccess = true) (said : output.SaysFirst version) :
    (working linter version).Tells linter probe (.finished output) where
  working_iff := ⟨fun _ => ⟨seen, output, rfl, succeeds⟩, fun _ => rfl⟩
  version := fun _ => ⟨output, version, rfl, said, rfl⟩
  unsuccessful := fun same => absurd same (message_working_ne linter version)

theorem verdict_tells_iff_of_seen (first : ProcessOutput) (answer : Launch) :
    (verdict linter (.finished first) answer).Tells linter (.finished first) answer ↔
      answer.HasEnded ∧ ¬SucceedsSilently answer := by
  have seen : (Launch.finished first).HasEnded := ⟨first, rfl⟩
  cases answer with
  | notStarted reason => simp [verdict, Health.tells_unsuccessful_iff linter seen, Launch.HasEnded]
  | lost => simp [verdict, Health.tells_unsuccessful_iff linter seen, Launch.HasEnded]
  | finished output =>
      rw [and_iff_right ⟨output, rfl⟩, succeedsSilently_finished_iff, verdict]
      cases succeeds : output.isSuccess with
      | false => simp [Health.tells_unsuccessful_iff linter seen, succeeds]
      | true =>
          -- success without a word is the one end of which the verdict tells what is not so
          cases said : firstLine? output with
          | none =>
              have silent := (firstLine?_eq_none_iff output).1 said
              simp [Health.tells_unsuccessful_iff linter seen, succeeds, silent]
          | some text =>
              have speaks : ¬output.IsSilent := by
                rw [← firstLine?_eq_none_iff, said]
                nofun
              have tells := Health.tells_working linter seen succeeds ((firstLine?_eq_some_iff output text).1 said)
              exact ⟨fun _ both => speaks both.2, fun _ => tells⟩

theorem verdict_tells_iff (probe answer : Launch) :
    (verdict linter probe answer).Tells linter probe answer ↔
      ¬(probe.HasEnded ∧ (¬answer.HasEnded ∨ SucceedsSilently answer)) := by
  by_cases seen : probe.HasEnded
  · rw [and_iff_right seen, not_or, Classical.not_not]
    obtain ⟨first, rfl⟩ := seen
    exact verdict_tells_iff_of_seen linter first answer
  · have unstartable : verdict linter probe answer = .unstartable linter := by
      cases probe with
      | notStarted reason => rfl
      | lost => rfl
      | finished output => exact absurd ⟨output, rfl⟩ seen
    rw [unstartable]
    exact ⟨fun _ both => seen both.1, fun _ => Health.tells_unstartable linter seen⟩

end

/-- The verdict tells of the process what it has to, except where the process starts and either succeeds without
a word or does not come to an end when it is started again. -/
theorem examine_tells_iff (host : Host σ) (settings : Settings) (state : σ) :
    ∃ program first, splitLinter? settings.linterPath = some (program, first) ∧
      let probe := host.start (versionCommand program first) state
      let answer := (host.start (versionCommand program first) probe.2).1
      (examine host settings state).1.Tells settings.linterPath probe.1 answer ↔
        ¬(probe.1.HasEnded ∧ (¬answer.HasEnded ∨ SucceedsSilently answer)) := by
  obtain ⟨program, first, splits⟩ := settings.exists_splitLinter
  refine ⟨program, first, splits, ?_⟩
  intro probe answer
  rw [examine_eq_verdict host settings state splits]
  exact verdict_tells_iff settings.linterPath probe.1 answer

/-! ### A linter without a word -/

def silentHost : Host Unit where
  entry _ _ := .absent
  start _ _ := (.finished ⟨[], [], some 0⟩, ())
  currentDirectory := Path.ofString "/"
  home := none

/-- The linter ends with success both times, and it is told that it did not. -/
theorem unsuccessful_of_silent_success :
    let ending : Launch := .finished ⟨[], [], some 0⟩
    (∀ command, (silentHost.start command ()).1 = ending) ∧
    (examine silentHost Settings.empty ()).1 = .unsuccessful "cfn-lint" ∧
    (examine silentHost Settings.empty ()).1.message = "✗ 'cfn-lint --version' did not exit successfully" ∧
    ¬(examine silentHost Settings.empty ()).1.Tells "cfn-lint" ending ending := by
  intro ending
  have told : (examine silentHost Settings.empty ()).1 = .unsuccessful "cfn-lint" := by
    decide +kernel
  refine ⟨fun _ => rfl, told, by rw [told]; rfl, ?_⟩
  rw [told]
  intro tells
  have isWorking := tells.working_iff.2 ⟨⟨_, rfl⟩, _, rfl, rfl⟩
  cases isWorking

end Inspection

end TemplateLint
