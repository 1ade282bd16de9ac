import TemplateLint.Check
import TemplateLint.Proofs.Engine.Survey
import TemplateLint.Proofs.FirstFailure

set_option autoImplicit false

/-!
Checking many files at once against checking each of them alone.

All files share one engine, which remembers what it published.  The memory decides whether diagnostics are
published again, and never what a report holds.
-/

namespace TemplateLint.Check

variable {σ τ : Type}

/-! ### One file -/

def reportOn (path : Path) (document : Document) (found : Option (List Diagnostic)) : Report :=
  ⟨path.display, document.uri, found.isNone, found.getD []⟩

/-- Diagnostics that were published before are reported as those that are new. -/
theorem map_reportOf_outcome (engine : Engine τ) (path : Path) (document : Document)
    (found : Except Failure (Option (List Diagnostic))) :
    (engine.outcome document.uri found).map (reportOf path document) = found.map (reportOn path document) := by
  match found with
  | .error failure => rfl
  | .ok none => rfl
  | .ok (some diagnostics) =>
      rw [Engine.outcome]
      split
      · rfl
      · rfl

theorem file_of_text [Sink τ] (host : Host σ) (isForced : Bool) (engine : Engine τ) (path : Path)
    (world : World σ) {text : String} (readable : (host.entry world.state path).text? = some text) :
    let document := Document.ofFile host.currentDirectory path text
    let found := survey host engine.settings engine.projectRoot isForced document world.state
    (file host isForced engine path world).1 = found.1.map (reportOn path document) ∧
      (file host isForced engine path world).2.1 = engine.absorb document.uri found.1 ∧
      (file host isForced engine path world).2.2.state = found.2 := by
  intro document found
  obtain ⟨result, absorbed, state⟩ := engine.check_eq_survey host isForced document world
  have isCheck : (if isForced then engine.lintUnchecked host document world
      else engine.lint host document world) = engine.check host isForced document world := rfl
  rw [← map_reportOf_outcome engine, ← result, ← absorbed, ← state]
  unfold file
  rw [readable]
  dsimp only
  rw [isCheck]
  rcases engine.check host isForced document world with ⟨result, after, ended⟩
  cases result with
  | error failure => exact ⟨rfl, rfl, rfl⟩
  | ok outcome =>
      refine ⟨rfl, rfl, ?_⟩
      dsimp only
      split
      · rfl
      · rfl

/-- The report on a file, without reference to an engine. -/
def finding (host : Host σ) (settings : Settings) (projectRoot : Path) (isForced : Bool) (state : σ)
    (path : Path) : Except Failure Report :=
  match (host.entry state path).text? with
  | none => .error .io
  | some text =>
      let document := Document.ofFile host.currentDirectory path text
      (survey host settings projectRoot isForced document state).1.map (reportOn path document)

/-- The report does not depend on what the engine remembers, and the engine keeps what it depends on. -/
theorem file_spec [Sink τ] (host : Host σ) (isForced : Bool) (engine : Engine τ) (path : Path)
    (world : World σ) :
    (file host isForced engine path world).1 =
        finding host engine.settings engine.projectRoot isForced world.state path ∧
      (file host isForced engine path world).2.1.settings = engine.settings ∧
      (file host isForced engine path world).2.1.projectRoot = engine.projectRoot := by
  cases readable : (host.entry world.state path).text? with
  | none =>
      unfold file finding
      rw [readable]
      exact ⟨rfl, rfl, rfl⟩
  | some text =>
      obtain ⟨result, absorbed, -⟩ := file_of_text host isForced engine path world readable
      rw [result, absorbed, finding, readable]
      exact ⟨rfl, engine.settings_absorb _ _, engine.projectRoot_absorb _ _⟩

/-! ### Many files -/

theorem files_forall₂ [Sink τ] (host : Host σ) (isForced : Bool) (paths : List Path) (engine : Engine τ)
    (world : World σ) {reports : List Report} (checked : (files host isForced paths engine world).1 = .ok reports) :
    List.Forall₂ (fun path report => ∃ state,
      finding host engine.settings engine.projectRoot isForced state path = .ok report) paths reports := by
  -- the machine may change from file to file; the settings and the root do not
  induction paths generalizing engine world reports with
  | nil =>
      cases checked
      exact .nil
  | cons path rest ih =>
      obtain ⟨result, sameSettings, sameRoot⟩ := file_spec host isForced engine path world
      rw [files] at checked
      generalize file host isForced engine path world = found at checked result sameSettings sameRoot
      obtain ⟨first, after, ended⟩ := found
      dsimp only at checked result sameSettings sameRoot
      cases first with
      | error failure => cases checked
      | ok report =>
          obtain ⟨others, later, rfl⟩ := (map_ok_iff _ _ _).1 checked
          have reported := ih after ended later
          rw [sameSettings, sameRoot] at reported
          exact .cons ⟨world.state, result.symm⟩ reported

theorem run_forall₂ (host : Host σ) (settings : Settings) (projectRoot : Path) (isForced : Bool)
    (paths : List Path) (world : World σ) {check : Check}
    (checked : (run host settings projectRoot isForced paths world).1 = .ok check) :
    List.Forall₂ (fun path report => ∃ state,
      finding host settings projectRoot isForced state path = .ok report) paths check.reports := by
  let fresh := Engine.start settings projectRoot Collection.empty world
  obtain ⟨reports, found, rfl⟩ := (map_ok_iff Check.mk (files host isForced paths fresh.1 fresh.2).1 check).1 checked
  exact files_forall₂ host isForced paths fresh.1 fresh.2 found

theorem exists_finding_of_mem {host : Host σ} {settings : Settings} {projectRoot : Path} {isForced : Bool}
    {paths : List Path} {world : World σ} {check : Check}
    (checked : (run host settings projectRoot isForced paths world).1 = .ok check) {report : Report}
    (isReport : report ∈ check.reports) :
    ∃ path ∈ paths, ∃ state, finding host settings projectRoot isForced state path = .ok report :=
  exists_item_of_mem (run_forall₂ host settings projectRoot isForced paths world checked) isReport

section

variable {host : Host σ} {contents : Path → FileEntry} {launch : Command → Launch}
  (fixed : ∀ state path, host.entry state path = contents path)
  (answers : ∀ command state, (host.start command state).1 = launch command)

include fixed answers

theorem finding_of_fixed (settings : Settings) (projectRoot : Path) (isForced : Bool) (left right : σ)
    (path : Path) :
    finding host settings projectRoot isForced left path =
      finding host settings projectRoot isForced right path := by
  unfold finding
  rw [fixed, fixed]
  cases (contents path).text? with
  | none => rfl
  | some text =>
      dsimp only
      rw [survey_of_steady (host.steady_of_start launch answers) settings projectRoot isForced _ left right]

theorem files_eq_mapM [Sink τ] (isForced : Bool) (state : σ) (paths : List Path) (engine : Engine τ)
    (world : World σ) :
    (files host isForced paths engine world).1 =
      paths.mapM (finding host engine.settings engine.projectRoot isForced state) := by
  -- the first file changes memory and machine; the other reports need only that settings and root stay
  induction paths generalizing engine world with
  | nil => rfl
  | cons path rest ih =>
      obtain ⟨result, sameSettings, sameRoot⟩ := file_spec host isForced engine path world
      have anyState := finding_of_fixed fixed answers engine.settings engine.projectRoot isForced
        world.state state path
      rw [anyState] at result
      rw [files, List.mapM_cons, ← result]
      generalize file host isForced engine path world = checked at sameSettings sameRoot ⊢
      obtain ⟨found, after, ended⟩ := checked
      dsimp only at sameSettings sameRoot
      cases found with
      | error failure => rfl
      | ok report =>
          have others := ih after ended
          rw [sameSettings, sameRoot] at others
          dsimp only
          rw [← others]
          cases (files host isForced rest after ended).1 with
          | error failure => rfl
          | ok reports => rfl

theorem run_eq_mapM (settings : Settings) (projectRoot : Path) (isForced : Bool) (state : σ)
    (paths : List Path) (world : World σ) :
    (run host settings projectRoot isForced paths world).1 =
      (paths.mapM (finding host settings projectRoot isForced state)).map Check.mk := by
  have reports := files_eq_mapM fixed answers isForced state paths
    (Engine.start settings projectRoot Collection.empty world).1
    (Engine.start settings projectRoot Collection.empty world).2
  exact congrArg (Except.map Check.mk) reports

end

/-! ### Together and alone -/

/-- How a check of many files is put together from checks of each file alone. -/
structure IsSum (paths : List Path) (alone : Path → Except Failure Check) (whole : Except Failure Check) :
    Prop where
  succeeds : (∃ check, whole = .ok check) ↔ ∀ path ∈ paths, ∃ check, alone path = .ok check
  parts : ∀ check, whole = .ok check → ∃ checks,
    List.Forall₂ (fun path part => alone path = .ok part) paths checks ∧
    check.reports = checks.flatMap Check.reports ∧ check.hasErrors = checks.any Check.hasErrors ∧
    ∀ isColored, check.output isColored .compact =
      String.join (checks.map fun part => part.output isColored .compact)
  fails : ∀ failure, whole = .error failure ↔ ∃ earlier path later, paths = earlier ++ path :: later ∧
    alone path = .error failure ∧ ∀ other ∈ earlier, ∃ check, alone other = .ok check

def single (report : Report) : Check := ⟨[report]⟩

theorem isSum_of_mapM (found : Path → Except Failure Report) (paths : List Path) :
    IsSum paths (fun path => (found path).map single) ((paths.mapM found).map Check.mk) where
  succeeds := by
    rw [exists_map_ok_iff, exists_mapM_ok_iff]
    simp only [exists_map_ok_iff]
  parts := by
    intro check whole
    obtain ⟨reports, each, rfl⟩ := (map_ok_iff Check.mk (paths.mapM found) check).1 whole
    rw [mapM_ok_iff_forall₂] at each
    refine ⟨reports.map single, ?_, ?_, ?_, ?_⟩
    · rw [List.forall₂_map_right_iff]
      exact each.imp fun path report known => congrArg (Except.map single) known
    · rw [List.flatMap_map]
      exact (List.flatMap_singleton' reports).symm
    · rw [List.any_map, hasErrors]
      congr 1
      funext report
      exact (Bool.or_false report.hasErrors).symm
    · intro isColored
      have part (report : Report) : (single report).output isColored .compact = report.compactPart := by
        simp [single, output, Report.format, Report.compact]
      rw [List.map_map]
      simp only [Function.comp_def, part]
      rfl
  fails := by
    intro failure
    simp only [map_error_iff, exists_map_ok_iff, mapM_error_iff]

theorem run_is_sum {host : Host σ} {contents : Path → FileEntry} {launch : Command → Launch}
    (fixed : ∀ state path, host.entry state path = contents path)
    (answers : ∀ command state, (host.start command state).1 = launch command)
    (settings : Settings) (projectRoot : Path) (isForced : Bool) (paths : List Path) (world : World σ)
    (elsewhere : Path → World σ) :
    IsSum paths (fun path => (run host settings projectRoot isForced [path] (elsewhere path)).1)
      (run host settings projectRoot isForced paths world).1 := by
  have whole := run_eq_mapM fixed answers settings projectRoot isForced world.state
  have alone (path : Path) : (run host settings projectRoot isForced [path] (elsewhere path)).1 =
      (finding host settings projectRoot isForced world.state path).map single := by
    rw [whole, List.mapM_cons]
    cases finding host settings projectRoot isForced world.state path with
    | error failure => rfl
    | ok report => rfl
  rw [whole]
  simp only [alone]
  exact isSum_of_mapM _ _

/-! ### A file under two names -/

def complainingHost : Host Unit where
  entry _ _ := .file (Text.Utf8.bytes "AWSTemplateFormatVersion: 1\nResources:\n")
  start _ _ := (.finished ⟨[], Text.Utf8.bytes "broken", some 1⟩, ())
  currentDirectory := Path.ofString "/work"
  home := none

def reportUnder (name : String) : Report :=
  ⟨name, "file:///work/a.yaml", false, [Diagnostic.synthetic errorOutputText]⟩

/-- Both paths have one URI, so the second check of the file publishes nothing. -/
theorem run_of_same_file_twice :
    (∀ state path, complainingHost.entry state path = complainingHost.entry () path) ∧
    (∀ command state, (complainingHost.start command state).1 = (complainingHost.start command ()).1) ∧
    (run complainingHost Settings.empty (Path.ofString "/") false
      [Path.ofString "a.yaml", Path.ofString "/work/a.yaml"] ⟨(), []⟩).1 =
      .ok ⟨[reportUnder "a.yaml", reportUnder "/work/a.yaml"]⟩ := by
  have fixed : ∀ state path, complainingHost.entry state path = complainingHost.entry () path :=
    fun _ _ => rfl
  have answers : ∀ command state,
      (complainingHost.start command state).1 = (complainingHost.start command ()).1 :=
    fun _ _ => rfl
  have isSum := run_is_sum fixed answers Settings.empty (Path.ofString "/") false
    [Path.ofString "a.yaml", Path.ofString "/work/a.yaml"] ⟨(), []⟩ fun _ => ⟨(), []⟩
  have first : (run complainingHost Settings.empty (Path.ofString "/") false [Path.ofString "a.yaml"]
      ⟨(), []⟩).1 = .ok (single (reportUnder "a.yaml")) := by
    decide +kernel
  have second : (run complainingHost Settings.empty (Path.ofString "/") false [Path.ofString "/work/a.yaml"]
      ⟨(), []⟩).1 = .ok (single (reportUnder "/work/a.yaml")) := by
    decide +kernel
  refine ⟨fixed, answers, ?_⟩
  obtain ⟨⟨reports⟩, whole⟩ := isSum.succeeds.2
    (List.forall_mem_cons.2 ⟨⟨_, first⟩, List.forall_mem_singleton.2 ⟨_, second⟩⟩)
  obtain ⟨checks, each, joined, -⟩ := isSum.parts _ whole
  obtain - | ⟨isFirst, - | ⟨isSecond, - | -⟩⟩ := each
  cases first.symm.trans isFirst
  cases second.symm.trans isSecond
  have sameReports : reports = [reportUnder "a.yaml", reportUnder "/work/a.yaml"] := joined
  rw [whole, sameReports]

end TemplateLint.Check
