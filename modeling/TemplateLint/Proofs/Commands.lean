import TemplateLint.Inspection
import TemplateLint.Proofs.Check
import TemplateLint.Proofs.Uri

set_option autoImplicit false

/-!
The commands with which files are checked, and the file that each of them names.

A command is planned from the path that is left in the URI of a document.  It names the file that was read just
when the URI keeps the path.
-/

namespace TemplateLint

variable {σ τ : Type}

/-! ### Planned commands -/

def Passes (directory : Path) (passed : String) (command : Command) : Prop :=
  command.directory = some directory ∧ ∃ front, command.arguments = front ++ ["--", passed]

theorem Invocation.arguments_of_make {settings : Settings} {path directory : Path} {invocation : Invocation}
    (made : Invocation.make settings path directory = .ok invocation) :
    invocation.directory = directory ∧ ∃ front, invocation.arguments = front ++ ["--", path.display] := by
  unfold make linterArguments at made
  cases flags : flagArguments settings flagTable with
  | error failure =>
      rw [flags] at made
      cases made
  | ok flagTexts =>
      rw [flags] at made
      cases made
      refine ⟨rfl, ((splitLinter? settings.linterPath).getD (Settings.defaultLinter, [])).2 ++
        (["--format", "json"] ++ flagTexts), ?_⟩
      rw [List.append_assoc, List.append_assoc]
      rfl

theorem Plan.command_passes {settings : Settings} {path directory : Path} {plan : Plan}
    (planned : Plan.make settings path directory = .ok plan) : Passes directory path.display plan.command := by
  unfold make at planned
  cases compiled : Template.compile settings.ignorePatterns with
  | error failure =>
      rw [compiled] at planned
      cases planned
  | ok ignored =>
      cases made : Invocation.make settings path directory with
      | error failure =>
          rw [compiled, made] at planned
          cases planned
      | ok invocation =>
          rw [compiled, made] at planned
          cases planned
          obtain ⟨sameDirectory, arguments⟩ := Invocation.arguments_of_make made
          exact ⟨congrArg some sameDirectory, arguments⟩

def planned (settings : Settings) (projectRoot : Path) (isForced : Bool) (document : Document) : List Command :=
  match isCandidate settings isForced document, Plan.make settings document.path projectRoot with
  | .ok true, .ok plan => [plan.command]
  | _, _ => []

/-- All that a check of a document does to a machine: nothing, when the document is left out or refused, or the
start of one command, whose end decides. -/
theorem survey_cases (settings : Settings) (projectRoot : Path) (isForced : Bool) (document : Document) :
    (planned settings projectRoot isForced document = [] ∧
      ∃ settled : Except Failure (Option (List Diagnostic)), (∀ diagnostics, settled ≠ .ok (some diagnostics)) ∧
        ∀ {ρ : Type} (host : Host ρ) (state : ρ),
          survey host settings projectRoot isForced document state = (settled, state)) ∨
    ∃ command, planned settings projectRoot isForced document = [command] ∧
      Passes projectRoot document.path.display command ∧
      ∃ reading : Launch → Except Failure (Option (List Diagnostic)), (∀ launch, reading launch ≠ .ok none) ∧
        ∀ {ρ : Type} (host : Host ρ) (state : ρ),
          survey host settings projectRoot isForced document state =
            (reading (host.start command state).1, (host.start command state).2) := by
  unfold survey planned
  match isCandidate settings isForced document with
  | .error failure => exact .inl ⟨rfl, .error failure, nofun, fun _ _ => rfl⟩
  | .ok false => exact .inl ⟨rfl, .ok none, nofun, fun _ _ => rfl⟩
  | .ok true =>
      cases plans : Plan.make settings document.path projectRoot with
      | error failure =>
          refine .inl ⟨rfl, .error failure, nofun, ?_⟩
          intro ρ host state
          dsimp only
          rw [lintFile_of_no_plan host settings _ _ ⟨state, []⟩ failure plans]
          rfl
      | ok plan =>
          refine .inr ⟨plan.command, rfl, plan.command_passes plans,
            fun launch => (plan.reading launch).map some, ?_, ?_⟩
          · intro launch
            dsimp only
            cases plan.reading launch with
            | error failure => exact nofun
            | ok diagnostics => exact nofun
          · intro ρ host state
            obtain ⟨result, after⟩ := lintFile_of_plan host settings _ _ ⟨state, []⟩ plan plans
            dsimp only
            rw [result, after]

/-! ### Commands that are started -/

/-- The machine that also keeps the commands that were started, in order. -/
def Host.recorded (host : Host σ) : Host (σ × List Command) where
  entry state := host.entry state.1
  start command state :=
    let (launch, after) := host.start command state.1
    (launch, after, state.2 ++ [command])
  currentDirectory := host.currentDirectory
  home := host.home

theorem survey_recorded (host : Host σ) (settings : Settings) (projectRoot : Path) (isForced : Bool)
    (document : Document) (state : σ) (commands : List Command) :
    survey host.recorded settings projectRoot isForced document (state, commands) =
      let (found, after) := survey host settings projectRoot isForced document state
      (found, after, commands ++ planned settings projectRoot isForced document) := by
  rcases survey_cases settings projectRoot isForced document with
    ⟨nothing, settled, -, surveyed⟩ | ⟨command, isOne, -, reading, -, surveyed⟩
  · rw [surveyed, surveyed, nothing, List.append_nil]
  · rw [surveyed, surveyed, isOne]
    rfl

namespace Check

/-- How commands belong to files: one for each file that is checked, in order, and none for those that are
skipped. -/
def Accounts (currentDirectory projectRoot : Path) (paths : List Path) (result : Except Failure (List Report))
    (commands : List Command) : Prop :=
  ∃ checked : List Path, checked.Sublist paths ∧
    List.Forall₂ (fun path => Passes projectRoot (passedPath currentDirectory path)) checked commands ∧
    ∀ reports, result = .ok reports →
      checked.map Path.display = (reports.filter fun report => !report.skipped).map Report.filePath

theorem Accounts.none {currentDirectory projectRoot : Path} :
    Accounts currentDirectory projectRoot [] (.ok []) [] :=
  ⟨[], .slnil, .nil, fun reports same => by cases same; rfl⟩

theorem Accounts.stop {currentDirectory projectRoot path : Path} {rest : List Path} {failure : Failure}
    {commands : List Command}
    (accounts : Accounts currentDirectory projectRoot [path] (.error failure) commands) :
    Accounts currentDirectory projectRoot (path :: rest) (.error failure) commands := by
  obtain ⟨checked, within, passes, -⟩ := accounts
  exact ⟨checked, within.trans (List.singleton_sublist.2 List.mem_cons_self), passes, nofun⟩

theorem Accounts.cons {currentDirectory projectRoot path : Path} {rest : List Path} {report : Report}
    {others : Except Failure (List Report)} {commands more : List Command}
    (first : Accounts currentDirectory projectRoot [path] (.ok [report]) commands)
    (later : Accounts currentDirectory projectRoot rest others more) :
    Accounts currentDirectory projectRoot (path :: rest) (others.map (report :: ·)) (commands ++ more) := by
  obtain ⟨checked, within, passes, named⟩ := first
  obtain ⟨laterChecked, laterWithin, laterPasses, laterNamed⟩ := later
  refine ⟨checked ++ laterChecked, within.append laterWithin, List.rel_append passes laterPasses, ?_⟩
  intro reports isOk
  obtain ⟨found, foundOk, rfl⟩ := (map_ok_iff _ _ _).1 isOk
  have whole := List.filter_append (p := fun report : Report => !report.skipped) [report] found
  rw [List.singleton_append] at whole
  rw [List.map_append, named [report] rfl, laterNamed found foundOk, whole, List.map_append]

theorem Accounts.of_planned (host : Host σ) (settings : Settings) (projectRoot : Path) (isForced : Bool)
    (path : Path) (text : String) (state : σ) :
    let document := Document.ofFile host.currentDirectory path text
    Accounts host.currentDirectory projectRoot [path]
      (((survey host settings projectRoot isForced document state).1.map (reportOn path document)).map ([·]))
      (planned settings projectRoot isForced document) := by
  intro document
  rcases survey_cases settings projectRoot isForced document with
    ⟨nothing, settled, noDiagnostics, surveyed⟩ | ⟨command, isOne, passes, reading, notSkipped, surveyed⟩
  · rw [nothing, surveyed]
    refine ⟨[], List.nil_sublist _, .nil, ?_⟩
    intro reports isOk
    obtain ⟨report, isReport, rfl⟩ := (map_ok_iff _ _ _).1 isOk
    obtain ⟨found, isFound, rfl⟩ := (map_ok_iff _ _ _).1 isReport
    cases found with
    | none => rfl
    | some diagnostics => exact absurd isFound (noDiagnostics diagnostics)
  · rw [isOne, surveyed]
    refine ⟨[path], List.Sublist.refl _, .cons passes .nil, ?_⟩
    intro reports isOk
    obtain ⟨report, isReport, rfl⟩ := (map_ok_iff _ _ _).1 isOk
    obtain ⟨found, isFound, rfl⟩ := (map_ok_iff _ _ _).1 isReport
    cases found with
    | none => exact absurd isFound (notSkipped _)
    | some diagnostics => rfl

theorem file_recorded [Sink τ] (host : Host σ) (isForced : Bool) (engine : Engine τ) (path : Path)
    (world : World σ) (commands : List Command) (log : List LogRecord) :
    let plain := file host isForced engine path world
    let recorded := file host.recorded isForced engine path ⟨(world.state, commands), log⟩
    recorded.1 = plain.1 ∧ recorded.2.1 = plain.2.1 ∧
      ∃ more, recorded.2.2.state = (plain.2.2.state, commands ++ more) ∧
        Accounts host.currentDirectory engine.projectRoot [path] (plain.1.map ([·])) more := by
  intro plain recorded
  cases readable : (host.entry world.state path).text? with
  | none =>
      have unread : plain = (.error .io, engine, world) := by
        simp only [plain, file, readable]
      have unreadRecorded : recorded = (.error .io, engine, ⟨(world.state, commands), log⟩) := by
        simp only [recorded, file, Host.recorded, readable]
      rw [unread, unreadRecorded]
      exact ⟨rfl, rfl, [], by rw [List.append_nil], [], List.nil_sublist _, .nil, nofun⟩
  | some text =>
      have recordedReadable : (host.recorded.entry (world.state, commands) path).text? = some text := readable
      obtain ⟨result, after, ended⟩ := file_of_text host isForced engine path world readable
      obtain ⟨recordedResult, recordedAfter, recordedEnded⟩ :=
        file_of_text host.recorded isForced engine path ⟨(world.state, commands), log⟩ recordedReadable
      rw [survey_recorded] at recordedResult recordedAfter recordedEnded
      let document := Document.ofFile host.currentDirectory path text
      refine ⟨recordedResult.trans result.symm, recordedAfter.trans after.symm,
        planned engine.settings engine.projectRoot isForced document, ?_, ?_⟩
      · rw [ended]
        exact recordedEnded
      · rw [result]
        exact Accounts.of_planned host engine.settings engine.projectRoot isForced path text world.state

theorem files_recorded [Sink τ] (host : Host σ) (isForced : Bool) (paths : List Path) (engine : Engine τ)
    (world : World σ) (commands : List Command) (log : List LogRecord) :
    let plain := files host isForced paths engine world
    let recorded := files host.recorded isForced paths engine ⟨(world.state, commands), log⟩
    recorded.1 = plain.1 ∧ ∃ more, recorded.2.2.state = (plain.2.2.state, commands ++ more) ∧
      Accounts host.currentDirectory engine.projectRoot paths plain.1 more := by
  -- the two runs go side by side, with one engine and one state; their logs do not matter
  induction paths generalizing engine world commands log with
  | nil => exact ⟨rfl, [], by rw [List.append_nil]; rfl, Accounts.none⟩
  | cons path rest ih =>
      intro plain recorded
      obtain ⟨sameResult, sameEngine, first, ended, accounts⟩ :=
        file_recorded host isForced engine path world commands log
      have sameRoot := (file_spec host isForced engine path world).2.2
      simp only [plain, recorded, files]
      generalize file host isForced engine path world = checked at *
      generalize file host.recorded isForced engine path ⟨(world.state, commands), log⟩ = recordedChecked at *
      obtain ⟨result, after, world⟩ := checked
      obtain ⟨recordedResult, recordedAfter, ⟨recordedState, recordedLog⟩⟩ := recordedChecked
      dsimp only at sameResult sameEngine ended accounts sameRoot
      subst sameResult sameEngine ended
      cases recordedResult with
      | error failure => exact ⟨rfl, first, rfl, accounts.stop⟩
      | ok report =>
          obtain ⟨sameOthers, more, laterEnded, laterAccounts⟩ :=
            ih recordedAfter world (commands ++ first) recordedLog
          rw [sameRoot] at laterAccounts
          refine ⟨congrArg (Except.map (report :: ·)) sameOthers, first ++ more, ?_,
            accounts.cons laterAccounts⟩
          rw [← List.append_assoc]
          exact laterEnded

def started (host : Host σ) (settings : Settings) (projectRoot : Path) (isForced : Bool) (paths : List Path)
    (world : World σ) : List Command :=
  (run host.recorded settings projectRoot isForced paths ⟨(world.state, []), world.log⟩).2.state.2

/-- The record from which `started` is read disturbs nothing. -/
theorem run_recorded (host : Host σ) (settings : Settings) (projectRoot : Path) (isForced : Bool)
    (paths : List Path) (world : World σ) :
    let plain := run host settings projectRoot isForced paths world
    let recorded := run host.recorded settings projectRoot isForced paths ⟨(world.state, []), world.log⟩
    recorded.1 = plain.1 ∧ recorded.2.state.1 = plain.2.state ∧
      Accounts host.currentDirectory projectRoot paths (plain.1.map reports)
        (started host settings projectRoot isForced paths world) := by
  intro plain recorded
  obtain ⟨sameResult, more, ended, accounts⟩ := files_recorded host isForced paths
    (Engine.start settings projectRoot Collection.empty world).1
    (Engine.start settings projectRoot Collection.empty world).2 []
    (Engine.start settings projectRoot Collection.empty world).2.log
  have unwrapped (result : Except Failure (List Report)) : (result.map Check.mk).map reports = result := by
    cases result with
    | error failure => rfl
    | ok found => rfl
  have reportsOfPlain : plain.1.map reports = (files host isForced paths
      (Engine.start settings projectRoot Collection.empty world).1
      (Engine.start settings projectRoot Collection.empty world).2).1 := unwrapped _
  have isMore : started host settings projectRoot isForced paths world = more := congrArg Prod.snd ended
  rw [reportsOfPlain, isMore]
  exact ⟨congrArg (Except.map Check.mk) sameResult, congrArg Prod.fst ended, accounts⟩

end Check

/-! ### The command line that is shown -/

theorem join_append (separator : String) {texts more : List String} (someTexts : texts ≠ [])
    (someMore : more ≠ []) :
    Text.join separator (texts ++ more) =
      Text.join separator texts ++ separator ++ Text.join separator more := by
  induction texts with
  | nil => exact absurd rfl someTexts
  | cons first rest ih =>
      cases rest with
      | nil =>
          obtain ⟨next, others, rfl⟩ := List.exists_cons_of_ne_nil someMore
          rfl
      | cons second others =>
          have later := ih (List.cons_ne_nil second others)
          rw [List.cons_append] at later
          simp only [List.cons_append, Text.join, later, String.append_assoc]

theorem Inspection.commandLine_shows {currentDirectory projectRoot path : Path} {settings : Settings}
    {line : String} (shown : commandLine currentDirectory settings path projectRoot = .ok line) :
    ∃ program front, line =
      displayCommand program front ++ " -- " ++ displayArgument (passedPath currentDirectory path) := by
  obtain ⟨invocation, made, rfl⟩ := (map_ok_iff _ _ _).1 shown
  obtain ⟨-, front, arguments⟩ := Invocation.arguments_of_make made
  refine ⟨invocation.program, front, ?_⟩
  rw [Invocation.display, arguments, displayCommand, List.map_append, ← List.cons_append,
    join_append " " (List.cons_ne_nil _ _) (by simp)]
  have dash : displayArgument "--" = "--" := rfl
  rw [List.map_cons, List.map_cons, List.map_nil, dash]
  simp only [displayCommand, Text.join, String.append_assoc]
  rfl

/-! ### The file that is checked -/

/-- Every command of a check, and the command line that is shown for a file, ends with the path that is left in
the URI of a file.  This path leads from the project root to the file that was read just when the whole path of
the file is plain. -/
theorem Check.commands_lead_to_file_iff (host : Host σ) (settings : Settings) (projectRoot : Path)
    (isForced : Bool) (paths : List Path) (world : World σ) :
    Accounts host.currentDirectory projectRoot paths
      ((run host settings projectRoot isForced paths world).1.map reports)
      (started host settings projectRoot isForced paths world) ∧
    (∀ path line, Inspection.commandLine host.currentDirectory settings path projectRoot = .ok line →
      ∃ program front, line =
        displayCommand program front ++ " -- " ++ displayArgument (passedPath host.currentDirectory path)) ∧
    ∀ path, LeadsToFile host.currentDirectory projectRoot path (passedPath host.currentDirectory path) ↔
      (host.currentDirectory.join path).IsPlain :=
  ⟨(run_recorded host settings projectRoot isForced paths world).2.2,
    fun _ _ shown => Inspection.commandLine_shows shown,
    fun path => Uri.leadsToFile_passedPath_iff host.currentDirectory projectRoot path⟩

theorem Check.command_leads_to_plain_file :
    Inspection.commandLine (Path.ofString "/work") Settings.empty (Path.ofString "a b.yaml")
      (Path.ofString "/") = .ok "cfn-lint --format json -- \"/work/a b.yaml\"" ∧
    (∃ program front, "cfn-lint --format json -- \"/work/a b.yaml\"" =
      displayCommand program front ++ " -- " ++ displayArgument "/work/a b.yaml") ∧
    LeadsToFile (Path.ofString "/work") (Path.ofString "/") (Path.ofString "a b.yaml") "/work/a b.yaml" := by
  obtain ⟨-, shows, leads⟩ := commands_lead_to_file_iff complainingHost Settings.empty (Path.ofString "/")
    false [] ⟨(), []⟩
  have shown : Inspection.commandLine (Path.ofString "/work") Settings.empty (Path.ofString "a b.yaml")
      (Path.ofString "/") = .ok "cfn-lint --format json -- \"/work/a b.yaml\"" := by
    decide +kernel
  have passed : passedPath (Path.ofString "/work") (Path.ofString "a b.yaml") = "/work/a b.yaml" := by
    decide +kernel
  have isPlain : ((Path.ofString "/work").join (Path.ofString "a b.yaml")).IsPlain := by
    refine ⟨"/work/a b.yaml".toList, by decide +kernel, rfl, by decide +kernel, ?_⟩
    intro letter rest same
    have third := congrArg (fun text => text[2]?) same
    simp at third
  have leadsThere := (leads (Path.ofString "a b.yaml")).2 isPlain
  have ends := shows _ _ shown
  change LeadsToFile (Path.ofString "/work") _ _ (passedPath (Path.ofString "/work") _) at leadsThere
  change ∃ program front, _ = _ ++ displayArgument (passedPath (Path.ofString "/work") _) at ends
  rw [passed] at leadsThere ends
  exact ⟨shown, ends, leadsThere⟩

/-- A file with a backslash in its name is read, and another one is checked. -/
theorem Check.command_leads_beside_backslash :
    (complainingHost.entry () (Path.ofString "a\\b.yaml")).text?.isSome = true ∧
    started complainingHost Settings.empty (Path.ofString "/") false [Path.ofString "a\\b.yaml"] ⟨(), []⟩ =
      [⟨"cfn-lint", ["--format", "json", "--", "/work/a/b.yaml"], some (Path.ofString "/")⟩] ∧
    ¬LeadsToFile complainingHost.currentDirectory (Path.ofString "/") (Path.ofString "a\\b.yaml")
      "/work/a/b.yaml" := by
  decide +kernel

end TemplateLint
