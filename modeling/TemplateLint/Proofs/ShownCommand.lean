import TemplateLint.Proofs.Detection

set_option autoImplicit false

/-!
The command line that is shown for a file, against the commands that checks start.

The shown line is planned without the file: neither its text, nor the patterns of messages, nor the machine has
a part in it.  A check that gets as far as a command starts the one whose line is shown.
-/

namespace TemplateLint

variable {σ τ : Type}

/-! ### Settings that are passed on with a wrong shape -/

theorem FlagRow.argumentsFor_of_fit (row : FlagRow) (value : SettingValue)
    (fits : value.shape = row.shape.shape) : ∃ arguments, row.argumentsFor value = .ok arguments := by
  obtain ⟨key, shape, flag⟩ := row
  cases shape with
  | items =>
      cases value with
      | stringList items => exact ⟨_, rfl⟩
      | _ => cases fits
  | switch =>
      cases value with
      | boolean isOn => exact ⟨_, rfl⟩
      | _ => cases fits
  | text =>
      cases value with
      | string text => exact ⟨_, rfl⟩
      | _ => cases fits

theorem FlagRow.argumentsFor_of_misfit (row : FlagRow) (value : SettingValue)
    (misfits : value.shape ≠ row.shape.shape) :
    row.argumentsFor value = .error (.unsupportedShape row.key row.shape.shape value.shape) := by
  obtain ⟨key, shape, flag⟩ := row
  cases shape with
  | items =>
      cases value with
      | stringList items => exact absurd rfl misfits
      | _ => rfl
  | switch =>
      cases value with
      | boolean isOn => exact absurd rfl misfits
      | _ => rfl
  | text =>
      cases value with
      | string text => exact absurd rfl misfits
      | _ => rfl

theorem FlagRow.argumentsFor_error_iff (row : FlagRow) (value : SettingValue) (failure : Failure) :
    row.argumentsFor value = .error failure ↔
      value.shape ≠ row.shape.shape ∧ failure = .unsupportedShape row.key row.shape.shape value.shape := by
  by_cases fits : value.shape = row.shape.shape
  · obtain ⟨arguments, isOk⟩ := row.argumentsFor_of_fit value fits
    rw [isOk]
    exact ⟨nofun, fun both => absurd fits both.1⟩
  · rw [row.argumentsFor_of_misfit value fits, Except.error.injEq, eq_comm]
    exact (and_iff_right fits).symm

def FlagRow.Misfits (settings : Settings) (row : FlagRow) (failure : Failure) : Prop :=
  ∃ value, settings.get? row.key = some value ∧ value.shape ≠ row.shape.shape ∧
    failure = .unsupportedShape row.key row.shape.shape value.shape

theorem FlagRow.arguments_error_iff (row : FlagRow) (settings : Settings) (failure : Failure) :
    row.arguments settings = .error failure ↔ row.Misfits settings failure := by
  unfold arguments Misfits
  cases settings.get? row.key with
  | none => exact ⟨nofun, fun ⟨_, isThere, _⟩ => nomatch isThere⟩
  | some value =>
      dsimp only
      rw [argumentsFor_error_iff]
      constructor
      · intro misfits
        exact ⟨value, rfl, misfits⟩
      · rintro ⟨_, isThere, misfits⟩
        cases isThere
        exact misfits

theorem flagArguments_eq_mapM (settings : Settings) (rows : List FlagRow) :
    flagArguments settings rows = (rows.mapM fun row : FlagRow => row.arguments settings).map List.flatten := by
  induction rows with
  | nil => rfl
  | cons row rest ih =>
      rw [List.mapM_cons, flagArguments, ih]
      cases row.arguments settings with
      | error failure => rfl
      | ok arguments =>
          cases rest.mapM fun row : FlagRow => row.arguments settings with
          | error failure => rfl
          | ok others => rfl

/-- Passing settings on fails with the first row, in the order of the table, that misfits. -/
theorem flagArguments_error_iff (settings : Settings) (rows : List FlagRow) (failure : Failure) :
    flagArguments settings rows = .error failure ↔
      ∃ earlier row later, rows = earlier ++ row :: later ∧ row.Misfits settings failure ∧
        ∀ other ∈ earlier, ∃ arguments, other.arguments settings = .ok arguments := by
  rw [flagArguments_eq_mapM, map_error_iff, mapM_error_iff]
  simp only [FlagRow.arguments_error_iff]

theorem Invocation.make_error_iff (settings : Settings) (path directory : Path) (failure : Failure) :
    make settings path directory = .error failure ↔ flagArguments settings flagTable = .error failure := by
  unfold make linterArguments
  cases flagArguments settings flagTable with
  | error cause =>
      dsimp only
      rw [Except.error.injEq, Except.error.injEq]
  | ok flags => exact ⟨nofun, nofun⟩

/-! ### Planned commands -/

theorem Plan.make_ok_iff (settings : Settings) (path directory : Path) (plan : Plan) :
    make settings path directory = .ok plan ↔
      ∃ ignored invocation, Template.compile settings.ignorePatterns = .ok ignored ∧
        Invocation.make settings path directory = .ok invocation ∧ ⟨invocation.command, ignored⟩ = plan := by
  unfold make
  cases Template.compile settings.ignorePatterns with
  | error failure => exact ⟨nofun, fun ⟨_, _, compiled, _⟩ => nomatch compiled⟩
  | ok ignored =>
      cases Invocation.make settings path directory with
      | error failure => exact ⟨nofun, fun ⟨_, _, _, made, _⟩ => nomatch made⟩
      | ok invocation =>
          dsimp only
          constructor
          · intro same
            exact ⟨ignored, invocation, rfl, rfl, Except.ok.inj same⟩
          · rintro ⟨_, _, compiled, made, rfl⟩
            cases compiled
            cases made
            rfl

theorem Plan.exists_make_iff (settings : Settings) (path directory : Path) :
    (∃ plan, make settings path directory = .ok plan) ↔
      (∃ ignored, Template.compile settings.ignorePatterns = .ok ignored) ∧
        ∃ invocation, Invocation.make settings path directory = .ok invocation := by
  simp only [make_ok_iff]
  constructor
  · rintro ⟨plan, ignored, invocation, compiled, made, -⟩
    exact ⟨⟨ignored, compiled⟩, invocation, made⟩
  · rintro ⟨⟨ignored, compiled⟩, invocation, made⟩
    exact ⟨_, ignored, invocation, compiled, made, rfl⟩

theorem planned_cases (settings : Settings) (projectRoot : Path) (isForced : Bool) (document : Document) :
    planned settings projectRoot isForced document = [] ∨
      ∃ plan, Plan.make settings document.path projectRoot = .ok plan ∧
        planned settings projectRoot isForced document = [plan.command] := by
  unfold planned
  split
  · rename_i plan _ isPlan
    exact .inr ⟨plan, isPlan, rfl⟩
  · exact .inl rfl

theorem planned_ne_nil_iff (settings : Settings) (projectRoot : Path) (isForced : Bool) (document : Document) :
    planned settings projectRoot isForced document ≠ [] ↔
      isCandidate settings isForced document = .ok true ∧
        ∃ plan, Plan.make settings document.path projectRoot = .ok plan := by
  unfold planned
  split
  · rename_i plan candidate isPlan
    exact ⟨fun _ => ⟨candidate, plan, isPlan⟩, fun _ => List.cons_ne_nil _ _⟩
  · rename_i noPlan
    refine ⟨fun isSome => absurd rfl isSome, ?_⟩
    rintro ⟨candidate, plan, isPlan⟩
    exact (noPlan plan candidate isPlan).elim

/-! ### The line that is shown -/

namespace Inspection

/-- A command is the one whose line is shown for a file. -/
def Shows (currentDirectory : Path) (settings : Settings) (projectRoot path : Path) (command : Command) : Prop :=
  ∃ invocation : Invocation, commandLine currentDirectory settings path projectRoot = .ok invocation.display ∧
    command.program = invocation.program ∧ command.arguments = invocation.arguments ∧
    command.directory = some invocation.directory ∧ invocation.directory = projectRoot

theorem commandLine_error_iff (currentDirectory : Path) (settings : Settings) (path projectRoot : Path)
    (failure : Failure) :
    commandLine currentDirectory settings path projectRoot = .error failure ↔
      flagArguments settings flagTable = .error failure := by
  unfold commandLine
  rw [map_error_iff, Invocation.make_error_iff]

theorem exists_commandLine_iff (currentDirectory : Path) (settings : Settings) (path projectRoot : Path)
    (text : String) :
    (∃ line, commandLine currentDirectory settings path projectRoot = .ok line) ↔
      ∃ invocation, Invocation.make settings (Document.ofFile currentDirectory path text).path projectRoot =
        .ok invocation := by
  unfold commandLine
  exact exists_map_ok_iff _ _

theorem shows_of_plan {currentDirectory projectRoot path : Path} {settings : Settings} {plan : Plan}
    (text : String)
    (planned : Plan.make settings (Document.ofFile currentDirectory path text).path projectRoot = .ok plan) :
    Shows currentDirectory settings projectRoot path plan.command := by
  obtain ⟨ignored, invocation, -, made, rfl⟩ := (Plan.make_ok_iff _ _ _ _).1 planned
  -- the path of a document does not depend on its text, and the line is planned for the empty one
  have shown : commandLine currentDirectory settings path projectRoot = .ok invocation.display :=
    (map_ok_iff _ _ _).2 ⟨invocation, made, rfl⟩
  exact ⟨invocation, shown, rfl, rfl, rfl, (Invocation.arguments_of_make made).1⟩

end Inspection

/-! ### Commands that checks of files start -/

namespace Check

open Inspection (Shows commandLine)

theorem file_commands [Sink τ] (host : Host σ) (isForced : Bool) (engine : Engine τ) (path : Path)
    (state : σ) (commands : List Command) (log : List LogRecord) :
    (file host.recorded isForced engine path ⟨(state, commands), log⟩).2.2.state.2 =
      commands ++
        match (host.entry state path).text? with
        | none => []
        | some text => planned engine.settings engine.projectRoot isForced
            (Document.ofFile host.currentDirectory path text) := by
  cases readable : (host.entry state path).text? with
  | none =>
      have unread : file host.recorded isForced engine path ⟨(state, commands), log⟩ =
          (.error .io, engine, ⟨(state, commands), log⟩) := by
        simp only [file, Host.recorded, readable]
      rw [unread]
      exact (List.append_nil commands).symm
  | some text =>
      have recordedReadable : (host.recorded.entry (state, commands) path).text? = some text := readable
      obtain ⟨-, -, ended⟩ :=
        file_of_text host.recorded isForced engine path ⟨(state, commands), log⟩ recordedReadable
      rw [ended, survey_recorded]
      rfl

theorem file_shows [Sink τ] (host : Host σ) (isForced : Bool) (engine : Engine τ) (path : Path)
    (state : σ) (commands : List Command) (log : List LogRecord) :
    let after := (file host.recorded isForced engine path ⟨(state, commands), log⟩).2.2.state.2
    after = commands ∨ ∃ command, after = commands ++ [command] ∧
      Shows host.currentDirectory engine.settings engine.projectRoot path command := by
  intro after
  have started : after = _ := file_commands host isForced engine path state commands log
  rw [started]
  cases (host.entry state path).text? with
  | none => exact .inl (List.append_nil commands)
  | some text =>
      dsimp only
      rcases planned_cases engine.settings engine.projectRoot isForced
          (Document.ofFile host.currentDirectory path text) with nothing | ⟨plan, isPlan, isOne⟩
      · rw [nothing]
        exact .inl (List.append_nil commands)
      · rw [isOne]
        exact .inr ⟨plan.command, rfl, Inspection.shows_of_plan text isPlan⟩

theorem files_shows [Sink τ] (host : Host σ) (isForced : Bool) (paths : List Path) (engine : Engine τ)
    (world : World (σ × List Command)) :
    ∃ checked more, checked.Sublist paths ∧
      (files host.recorded isForced paths engine world).2.2.state.2 = world.state.2 ++ more ∧
      List.Forall₂ (Shows host.currentDirectory engine.settings engine.projectRoot) checked more := by
  -- settings and project root stay as they are, so every file is measured against the same line
  induction paths generalizing engine world with
  | nil => exact ⟨[], [], .slnil, (List.append_nil _).symm, .nil⟩
  | cons path rest ih =>
      obtain ⟨-, sameSettings, sameRoot⟩ := file_spec host.recorded isForced engine path world
      have shows := file_shows host isForced engine path world.state.1 world.state.2 world.log
      rw [files]
      change _ = _ ∨ ∃ command, _ at shows
      generalize file host.recorded isForced engine path world = found at sameSettings sameRoot shows ⊢
      obtain ⟨result, after, ended⟩ := found
      dsimp only at sameSettings sameRoot shows
      have first : ∃ checked more, checked.Sublist [path] ∧ ended.state.2 = world.state.2 ++ more ∧
          List.Forall₂ (Shows host.currentDirectory engine.settings engine.projectRoot) checked more := by
        rcases shows with same | ⟨command, isOne, shown⟩
        · exact ⟨[], [], List.nil_sublist _, same.trans (List.append_nil _).symm, .nil⟩
        · exact ⟨[path], [command], List.Sublist.refl _, isOne, .cons shown .nil⟩
      obtain ⟨checked, more, within, extended, shown⟩ := first
      cases result with
      | error failure =>
          exact ⟨checked, more, within.trans (List.singleton_sublist.2 List.mem_cons_self), extended, shown⟩
      | ok report =>
          obtain ⟨laterChecked, laterMore, laterWithin, laterExtended, laterShown⟩ := ih after ended
          rw [sameSettings, sameRoot] at laterShown
          refine ⟨checked ++ laterChecked, more ++ laterMore, within.append laterWithin, ?_,
            List.rel_append shown laterShown⟩
          rw [← List.append_assoc, ← extended]
          exact laterExtended

theorem files_single_world [Sink τ] (host : Host σ) (isForced : Bool) (path : Path) (engine : Engine τ)
    (world : World σ) :
    (files host isForced [path] engine world).2.2 = (file host isForced engine path world).2.2 := by
  rw [files]
  rcases file host isForced engine path world with ⟨result, after, ended⟩
  cases result with
  | error failure => rfl
  | ok report => rfl

theorem started_single (host : Host σ) (settings : Settings) (projectRoot : Path) (isForced : Bool) (path : Path)
    (world : World σ) :
    started host settings projectRoot isForced [path] world =
      match (host.entry world.state path).text? with
      | none => []
      | some text => planned settings projectRoot isForced (Document.ofFile host.currentDirectory path text) := by
  let fresh := Engine.start settings projectRoot Collection.empty world
  have commands := file_commands host isForced fresh.1 path world.state [] fresh.2.log
  have isLast : started host settings projectRoot isForced [path] world =
      (file host.recorded isForced fresh.1 path ⟨(world.state, []), fresh.2.log⟩).2.2.state.2 :=
    congrArg (fun ended : World (σ × List Command) => ended.state.2)
      (files_single_world host.recorded isForced path fresh.1 ⟨(world.state, []), fresh.2.log⟩)
  rw [isLast, commands]
  exact List.nil_append _

theorem started_shows (host : Host σ) (settings : Settings) (projectRoot : Path) (isForced : Bool)
    (paths : List Path) (world : World σ) :
    ∃ checked : List Path, checked.Sublist paths ∧
      List.Forall₂ (Shows host.currentDirectory settings projectRoot) checked
        (started host settings projectRoot isForced paths world) := by
  let fresh := Engine.start settings projectRoot Collection.empty world
  obtain ⟨checked, more, within, extended, shows⟩ :=
    files_shows host isForced paths fresh.1 ⟨(world.state, []), fresh.2.log⟩
  have isMore : started host settings projectRoot isForced paths world = more := extended
  rw [isMore]
  exact ⟨checked, within, shows⟩

theorem started_of_no_line (host : Host σ) (settings : Settings) (projectRoot : Path) (isForced : Bool)
    (paths : List Path) (world : World σ) {failure : Failure}
    (refused : flagArguments settings flagTable = .error failure) :
    started host settings projectRoot isForced paths world = [] := by
  obtain ⟨checked, -, shows⟩ := started_shows host settings projectRoot isForced paths world
  generalize started host settings projectRoot isForced paths world = commands at shows ⊢
  cases shows with
  | nil => rfl
  | cons shown others =>
      obtain ⟨invocation, line, -⟩ := shown
      rw [(Inspection.commandLine_error_iff _ _ _ _ _).2 refused] at line
      cases line

theorem started_single_ne_nil_iff (host : Host σ) (settings : Settings) (projectRoot : Path) (isForced : Bool)
    (path : Path) (world : World σ) :
    started host settings projectRoot isForced [path] world ≠ [] ↔
      ∃ text, (host.entry world.state path).text? = some text ∧
        isCandidate settings isForced (Document.ofFile host.currentDirectory path text) = .ok true ∧
        (∃ ignored, Template.compile settings.ignorePatterns = .ok ignored) ∧
        ∃ line, commandLine host.currentDirectory settings path projectRoot = .ok line := by
  rw [started_single]
  cases (host.entry world.state path).text? with
  | none => exact ⟨fun isSome => absurd rfl isSome, fun ⟨_, readable, _⟩ => nomatch readable⟩
  | some text =>
      dsimp only
      rw [planned_ne_nil_iff, Plan.exists_make_iff, ← Inspection.exists_commandLine_iff]
      constructor
      · intro wanted
        exact ⟨text, rfl, wanted⟩
      · rintro ⟨_, same, wanted⟩
        cases same
        exact wanted

/-- Every command that a check starts is the one whose line is shown for the file that is checked with it, one
command for each file.  When no line can be shown, since a setting that is passed on has a wrong shape, nothing is
started for any file.  For a file alone a command is started just when the file is to be checked, the patterns of
messages can be read and a line is shown. -/
theorem started_as_shown (host : Host σ) (settings : Settings) (projectRoot : Path) (isForced : Bool)
    (world : World σ) :
    (∀ paths, ∃ checked : List Path, checked.Sublist paths ∧
      List.Forall₂ (Shows host.currentDirectory settings projectRoot) checked
        (started host settings projectRoot isForced paths world)) ∧
    (∀ path failure, commandLine host.currentDirectory settings path projectRoot = .error failure →
      (∃ row ∈ flagTable, row.Misfits settings failure) ∧
        ∀ paths, started host settings projectRoot isForced paths world = []) ∧
    ∀ path, started host settings projectRoot isForced [path] world ≠ [] ↔
      ∃ text, (host.entry world.state path).text? = some text ∧
        isCandidate settings isForced (Document.ofFile host.currentDirectory path text) = .ok true ∧
        (∃ ignored, Template.compile settings.ignorePatterns = .ok ignored) ∧
        ∃ line, commandLine host.currentDirectory settings path projectRoot = .ok line := by
  refine ⟨fun paths => started_shows host settings projectRoot isForced paths world, ?_,
    fun path => started_single_ne_nil_iff host settings projectRoot isForced path world⟩
  intro path failure refused
  have noFlags := (Inspection.commandLine_error_iff _ _ _ _ _).1 refused
  obtain ⟨earlier, row, later, split, misfits, -⟩ := (flagArguments_error_iff _ _ _).1 noFlags
  have isRow : row ∈ flagTable := by
    rw [split]
    exact List.mem_append_right earlier List.mem_cons_self
  exact ⟨⟨row, isRow, misfits⟩,
    fun paths => started_of_no_line host settings projectRoot isForced paths world noFlags⟩

/-- One region is no list of regions, so even a forced check starts nothing. -/
def settingsWithOneRegion : Settings := Settings.ofList [("regions", .string "us-east-1")]

def plainCommand : Command :=
  ⟨"cfn-lint", ["--format", "json", "--", "/work/a.yaml"], some (Path.ofString "/")⟩

theorem started_nothing_with_one_region :
    commandLine (Path.ofString "/work") settingsWithOneRegion (Path.ofString "a.yaml") (Path.ofString "/") =
      .error (.unsupportedShape "regions" .stringList .string) ∧
    started complainingHost settingsWithOneRegion (Path.ofString "/") true [Path.ofString "a.yaml"] ⟨(), []⟩ = [] ∧
    started complainingHost Settings.empty (Path.ofString "/") true [Path.ofString "a.yaml"] ⟨(), []⟩ ≠ [] ∧
    started complainingHost Settings.empty (Path.ofString "/") true [Path.ofString "a.yaml"] ⟨(), []⟩ =
      [plainCommand] ∧
    commandLine (Path.ofString "/work") Settings.empty (Path.ofString "a.yaml") (Path.ofString "/") =
      .ok "cfn-lint --format json -- /work/a.yaml" ∧
    Shows (Path.ofString "/work") Settings.empty (Path.ofString "/") (Path.ofString "a.yaml") plainCommand := by
  have refused : commandLine (Path.ofString "/work") settingsWithOneRegion (Path.ofString "a.yaml")
      (Path.ofString "/") = .error (.unsupportedShape "regions" .stringList .string) := by
    decide +kernel
  have readable : (complainingHost.entry () (Path.ofString "a.yaml")).text? =
      some "AWSTemplateFormatVersion: 1\nResources:\n" := by
    decide +kernel
  have shown : commandLine (Path.ofString "/work") Settings.empty (Path.ofString "a.yaml")
      (Path.ofString "/") = .ok "cfn-lint --format json -- /work/a.yaml" := by
    decide +kernel
  obtain ⟨-, nothing, -⟩ :=
    started_as_shown complainingHost settingsWithOneRegion (Path.ofString "/") true ⟨(), []⟩
  obtain ⟨shows, -, something⟩ := started_as_shown complainingHost Settings.empty (Path.ofString "/") true ⟨(), []⟩
  have isPlain : started complainingHost Settings.empty (Path.ofString "/") true [Path.ofString "a.yaml"] ⟨(), []⟩ =
      [plainCommand] := by
    decide +kernel
  have plainShown : Shows (Path.ofString "/work") Settings.empty (Path.ofString "/") (Path.ofString "a.yaml")
      plainCommand := by
    obtain ⟨checked, isPart, each⟩ := shows [Path.ofString "a.yaml"]
    rw [isPlain] at each
    obtain ⟨path, isChecked, isShown⟩ := exists_item_of_mem each (List.mem_singleton_self plainCommand)
    rwa [List.mem_singleton.1 (isPart.subset isChecked)] at isShown
  exact ⟨refused, (nothing _ _ refused).2 _,
    (something (Path.ofString "a.yaml")).2 ⟨_, readable, rfl, ⟨[], rfl⟩, _, shown⟩, isPlain, shown, plainShown⟩

end Check

end TemplateLint
