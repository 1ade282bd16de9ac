import TemplateLint.Inspection
import TemplateLint.Proofs.Commands

set_option autoImplicit false

/-!
What is told about a file, against what checks do with it.

Whether a document is a template is decided in two places, once for the telling and once for the check.  Both
decisions read the text and the patterns in one order, so the first foretells the second.  A forced check asks
neither the text nor the patterns.
-/

namespace TemplateLint

variable {σ τ : Type}

/-! ### Patterns that cannot be read -/

namespace Template

def FirstUnreadable (texts : List String) (text : String) : Prop :=
  ∃ earlier later, texts = earlier ++ text :: later ∧ Regex.compile? text = none ∧
    ∀ other ∈ earlier, ∃ pattern, Regex.compile? other = some pattern

def readPattern (text : String) : Except Failure Regex.Pattern :=
  match Regex.compile? text with
  | none => .error (.invalidPattern text)
  | some pattern => .ok pattern

theorem readPattern_ok_iff (text : String) :
    (∃ pattern, readPattern text = .ok pattern) ↔ ∃ pattern, Regex.compile? text = some pattern := by
  unfold readPattern
  cases Regex.compile? text with
  | none => exact ⟨nofun, nofun⟩
  | some pattern => exact ⟨fun _ => ⟨pattern, rfl⟩, fun _ => ⟨pattern, rfl⟩⟩

theorem readPattern_error_iff (text : String) (failure : Failure) :
    readPattern text = .error failure ↔ Regex.compile? text = none ∧ failure = .invalidPattern text := by
  unfold readPattern
  cases Regex.compile? text with
  | none =>
      constructor
      · intro same
        cases same
        exact ⟨rfl, rfl⟩
      · rintro ⟨-, rfl⟩
        rfl
  | some pattern => exact ⟨nofun, fun both => nomatch both.1⟩

theorem compile_eq_mapM (texts : List String) : compile texts = texts.mapM readPattern := by
  induction texts with
  | nil => rfl
  | cons text rest ih =>
      rw [List.mapM_cons, ← ih, compile, readPattern]
      cases Regex.compile? text with
      | none => rfl
      | some pattern =>
          cases compile rest with
          | error failure => rfl
          | ok others => rfl

theorem compile_error_iff (texts : List String) (failure : Failure) :
    compile texts = .error failure ↔ ∃ text, FirstUnreadable texts text ∧ failure = .invalidPattern text := by
  rw [compile_eq_mapM, mapM_error_iff]
  simp only [readPattern_error_iff, readPattern_ok_iff]
  constructor
  · rintro ⟨earlier, text, later, split, ⟨unreadable, same⟩, before⟩
    exact ⟨text, ⟨earlier, later, split, unreadable, before⟩, same⟩
  · rintro ⟨text, ⟨earlier, later, split, unreadable, before⟩, same⟩
    exact ⟨earlier, text, later, split, ⟨unreadable, same⟩, before⟩

theorem judge_error_iff (text : String) (patterns : List String) (failure : Failure) :
    judge text patterns = .error failure ↔ isStandard text = false ∧ compile patterns = .error failure := by
  unfold judge
  cases isStandard text with
  | true => exact ⟨nofun, fun both => nomatch both.1⟩
  | false =>
      rw [if_neg Bool.false_ne_true]
      cases compile patterns with
      | error cause =>
          dsimp only
          rw [Except.error.injEq, Except.error.injEq]
          exact ⟨fun same => ⟨rfl, same⟩, And.right⟩
      | ok compiled =>
          dsimp only
          constructor
          · intro same
            split at same
            · cases same
            · cases same
          · intro both
            cases both.2

end Template

/-! ### One decision in two places -/

namespace Inspection

theorem detect_of_text (host : Host σ) (settings : Settings) (path : Path) (state : σ) {text : String}
    (readable : (host.entry state path).text? = some text) :
    detect host settings path state =
      (Template.judge text settings.detectPatterns).map fun verdict =>
        (verdict.explanation path.display, verdict.isTemplate) := by
  unfold detect Template.judge
  rw [readable]
  dsimp only
  cases Template.isStandard text with
  | true => rfl
  | false =>
      rw [if_neg Bool.false_ne_true, if_neg Bool.false_ne_true]
      cases Template.compile settings.detectPatterns with
      | error failure => rfl
      | ok compiled =>
          dsimp only
          cases Template.firstMatch? text compiled with
          | none => rfl
          | some index => rfl

theorem exists_detect_iff (host : Host σ) (settings : Settings) (path : Path) (state : σ) {text : String}
    (readable : (host.entry state path).text? = some text) (isTemplate : Bool) :
    (∃ message, detect host settings path state = .ok (message, isTemplate)) ↔
      ∃ verdict, Template.judge text settings.detectPatterns = .ok verdict ∧ verdict.isTemplate = isTemplate := by
  rw [detect_of_text host settings path state readable]
  constructor
  · rintro ⟨message, told⟩
    obtain ⟨verdict, judged, same⟩ := (map_ok_iff _ _ _).1 told
    exact ⟨verdict, judged, congrArg Prod.snd same⟩
  · rintro ⟨verdict, judged, rfl⟩
    exact ⟨verdict.explanation path.display, (map_ok_iff _ _ _).2 ⟨verdict, judged, rfl⟩⟩

end Inspection

/-! ### Settings that a run of the linter reads -/

/-- Settings that agree on all that a run of the linter reads. -/
structure Settings.SameRun (left right : Settings) : Prop where
  linterPath : left.linterPath = right.linterPath
  ignorePatterns : left.ignorePatterns = right.ignorePatterns
  flags : ∀ row ∈ flagTable, left.get? row.key = right.get? row.key

theorem flagArguments_congr {left right : Settings} {rows : List FlagRow}
    (same : ∀ row ∈ rows, left.get? row.key = right.get? row.key) :
    flagArguments left rows = flagArguments right rows := by
  induction rows with
  | nil => rfl
  | cons row rest ih =>
      obtain ⟨atRow, behind⟩ := List.forall_mem_cons.1 same
      rw [flagArguments, flagArguments, FlagRow.arguments, FlagRow.arguments, atRow, ih behind]

theorem lintFile_of_same_run {left right : Settings} (same : left.SameRun right) (host : Host σ)
    (path directory : Path) (world : World σ) :
    lintFile host left path directory world = lintFile host right path directory world := by
  have sameInvocation : Invocation.make left path directory = Invocation.make right path directory := by
    unfold Invocation.make linterArguments
    rw [same.linterPath, flagArguments_congr same.flags]
  unfold lintFile
  rw [same.ignorePatterns, sameInvocation]

theorem Engine.lintUnchecked_of_same_run [Sink τ] (host : Host σ) (engine : Engine τ) (document : Document)
    (world : World σ) {settings : Settings} (same : settings.SameRun engine.settings) :
    let checked := engine.lintUnchecked host document world
    (engine.setSettings settings).lintUnchecked host document world =
      (checked.1, checked.2.1.setSettings settings, checked.2.2) := by
  have sameFile := lintFile_of_same_run same host document.path engine.projectRoot
    (world.note .info ("Linting " ++ document.path.display ++ "..."))
  unfold lintUnchecked
  dsimp only [setSettings] at sameFile ⊢
  rw [sameFile]
  generalize lintFile host engine.settings document.path engine.projectRoot
    (world.note .info ("Linting " ++ document.path.display ++ "...")) = checked
  obtain ⟨result, after⟩ := checked
  cases result with
  | error failure => rfl
  | ok diagnostics =>
      dsimp only [publish]
      split
      · rfl
      · rfl

def detectionName : String := "detectCfnRegExps"

theorem Settings.sameRun_set_detection (settings : Settings) (value : SettingValue) :
    (settings.set detectionName value).SameRun settings := by
  have other (name : String) (different : name ≠ detectionName) :
      (settings.set detectionName value).get? name = settings.get? name :=
    settings.values.get?_put_of_ne detectionName name value different
  refine ⟨?_, ?_, ?_⟩
  · unfold linterPath
    rw [other "path" (by decide)]
  · unfold ignorePatterns listOf
    rw [other "ignoreRulesRegExps" (by decide)]
  · intro row isRow
    apply other
    revert row
    decide

/-! ### Refused at once, or later

A check that goes on writes to the log before anything can fail.  So a check that is refused and has written
nothing was refused for the patterns of templates.
-/

theorem execute_log (host : Host σ) (invocation : Invocation) (world : World σ) :
    ∃ more, (execute host invocation world).2.log = world.log ++ more := by
  simp only [execute, World.state_note]
  cases (host.start invocation.command world.state).1 with
  | notStarted reason => exact ⟨_, List.append_assoc _ _ _⟩
  | lost => exact ⟨_, rfl⟩
  | finished output => exact ⟨_, List.append_assoc _ _ _⟩

theorem lintFile_log (host : Host σ) (settings : Settings) (path directory : Path) (world : World σ) :
    ∃ more, (lintFile host settings path directory world).2.log = world.log ++ more := by
  unfold lintFile
  cases Template.compile settings.ignorePatterns with
  | error failure => exact ⟨[], (List.append_nil _).symm⟩
  | ok ignored =>
      cases Invocation.make settings path directory with
      | error failure => exact ⟨[], (List.append_nil _).symm⟩
      | ok invocation =>
          obtain ⟨more, logged⟩ := execute_log host invocation world
          dsimp only
          generalize execute host invocation world = executed at logged ⊢
          obtain ⟨result, after⟩ := executed
          cases result with
          | error failure => exact ⟨more, logged⟩
          | ok output =>
              dsimp only [World.noteAll] at logged ⊢
              rw [logged]
              cases (interpret output ignored).1 with
              | error failure => exact ⟨_, List.append_assoc _ _ _⟩
              | ok diagnostics =>
                  dsimp only [World.note]
                  rw [List.append_assoc, List.append_assoc]
                  exact ⟨_, rfl⟩

namespace Engine

theorem lintUnchecked_log [Sink τ] (host : Host σ) (engine : Engine τ) (document : Document) (world : World σ) :
    ∃ record more, (engine.lintUnchecked host document world).2.2.log = world.log ++ record :: more := by
  unfold lintUnchecked
  dsimp only
  obtain ⟨more, logged⟩ := lintFile_log host engine.settings document.path engine.projectRoot
    (world.note .info ("Linting " ++ document.path.display ++ "..."))
  generalize lintFile host engine.settings document.path engine.projectRoot
    (world.note .info ("Linting " ++ document.path.display ++ "...")) = checked at logged ⊢
  obtain ⟨result, after⟩ := checked
  dsimp only [World.note] at logged
  rw [List.append_assoc, List.singleton_append] at logged
  cases result with
  | error failure => exact ⟨_, more, logged⟩
  | ok diagnostics =>
      dsimp only [publish]
      split
      · exact ⟨_, more, logged⟩
      · dsimp only [World.note]
        rw [logged, List.append_assoc]
        exact ⟨_, more ++ [_], rfl⟩

theorem lint_unmoved_iff [Sink τ] (host : Host σ) (engine : Engine τ) (document : Document) (world : World σ)
    (failure : Failure) :
    engine.lint host document world = (.error failure, engine, world) ↔
      Template.judge document.text engine.settings.detectPatterns = .error failure := by
  unfold lint
  cases Template.judge document.text engine.settings.detectPatterns with
  | error cause =>
      dsimp only
      rw [Prod.mk.injEq, Except.error.injEq, Except.error.injEq, and_iff_left rfl]
  | ok verdict =>
      dsimp only
      refine ⟨fun unmoved => ?_, nofun⟩
      split at unmoved
      · obtain ⟨record, more, logged⟩ := lintUnchecked_log host engine document
          (world.note .info (verdict.note document.path.display))
        rw [unmoved] at logged
        have lengths := congrArg List.length logged
        simp only [World.note, List.length_append, List.length_cons] at lengths
        omega
      · cases unmoved

end Engine

/-! ### Documents that are skipped, and documents that are not -/

theorem survey_none_iff (host : Host σ) (settings : Settings) (projectRoot : Path) (isForced : Bool)
    (document : Document) (state : σ) :
    (survey host settings projectRoot isForced document state).1 = .ok none ↔
      isCandidate settings isForced document = .ok false := by
  unfold survey
  match isCandidate settings isForced document with
  | .error failure => exact ⟨nofun, nofun⟩
  | .ok false => exact ⟨fun _ => rfl, fun _ => rfl⟩
  | .ok true =>
      refine ⟨fun isNone => ?_, nofun⟩
      obtain ⟨diagnostics, -, same⟩ := (map_ok_iff _ _ _).1 isNone
      cases same

theorem survey_of_candidate (host : Host σ) (settings : Settings) (projectRoot : Path) (document : Document)
    (state : σ) (candidate : isCandidate settings false document = .ok true) :
    survey host settings projectRoot false document state =
      survey host settings projectRoot true document state := by
  unfold survey
  rw [candidate]
  rfl

namespace Engine

theorem outcome_skipped_iff (engine : Engine τ) (uri : String)
    (found : Except Failure (Option (List Diagnostic))) :
    engine.outcome uri found = .ok .skipped ↔ found = .ok none := by
  match found with
  | .error failure => exact ⟨nofun, nofun⟩
  | .ok none => exact ⟨fun _ => rfl, fun _ => rfl⟩
  | .ok (some diagnostics) =>
      refine ⟨fun same => ?_, nofun⟩
      rw [outcome] at same
      split at same
      · cases same
      · cases same

theorem check_skipped_iff [Sink τ] (host : Host σ) (isForced : Bool) (engine : Engine τ) (document : Document)
    (world : World σ) :
    (engine.check host isForced document world).1 = .ok .skipped ↔
      isCandidate engine.settings isForced document = .ok false := by
  rw [(engine.check_eq_survey host isForced document world).1, outcome_skipped_iff, survey_none_iff]

/-! ### Commands that a check of a document starts -/

def started [Sink τ] (host : Host σ) (isForced : Bool) (engine : Engine τ) (document : Document)
    (world : World σ) : List Command :=
  (engine.check host.recorded isForced document ⟨(world.state, []), world.log⟩).2.2.state.2

theorem started_eq_planned [Sink τ] (host : Host σ) (isForced : Bool) (engine : Engine τ) (document : Document)
    (world : World σ) :
    engine.started host isForced document world =
      planned engine.settings engine.projectRoot isForced document := by
  obtain ⟨-, -, ended⟩ := engine.check_eq_survey host.recorded isForced document ⟨(world.state, []), world.log⟩
  unfold started
  rw [ended, survey_recorded]
  exact List.nil_append _

theorem started_of_no_candidate [Sink τ] (host : Host σ) (isForced : Bool) (engine : Engine τ)
    (document : Document) (world : World σ) (noCandidate : isCandidate engine.settings isForced document ≠ .ok true) :
    engine.started host isForced document world = [] := by
  rw [started_eq_planned]
  unfold planned
  split
  · rename_i candidate _
    exact absurd candidate noCandidate
  · rfl

theorem check_of_candidate [Sink τ] (host : Host σ) (engine : Engine τ) (document : Document) (world : World σ)
    (candidate : isCandidate engine.settings false document = .ok true) :
    (engine.lint host document world).1 = (engine.lintUnchecked host document world).1 ∧
    (engine.lint host document world).2.1 = (engine.lintUnchecked host document world).2.1 ∧
    (engine.lint host document world).2.2.state = (engine.lintUnchecked host document world).2.2.state ∧
    engine.started host false document world = engine.started host true document world := by
  obtain ⟨result, after, ended⟩ := lint_eq_survey host engine document world
  obtain ⟨forcedResult, forcedAfter, forcedEnded⟩ := lintUnchecked_eq_survey host engine document world
  rw [survey_of_candidate host _ _ document world.state candidate] at result after ended
  refine ⟨result.trans forcedResult.symm, after.trans forcedAfter.symm, ended.trans forcedEnded.symm, ?_⟩
  rw [started_eq_planned, started_eq_planned]
  unfold planned
  rw [candidate]
  rfl

end Engine

/-! ### What is told comes true -/

theorem Check.exists_skipped_iff [Sink τ] (host : Host σ) (isForced : Bool) (engine : Engine τ) (path : Path)
    (world : World σ) {text : String} (readable : (host.entry world.state path).text? = some text) :
    (∃ report, (file host isForced engine path world).1 = .ok report ∧ report.skipped = true) ↔
      isCandidate engine.settings isForced (Document.ofFile host.currentDirectory path text) = .ok false := by
  rw [(file_of_text host isForced engine path world readable).1, ← survey_none_iff host engine.settings
    engine.projectRoot isForced _ world.state]
  constructor
  · rintro ⟨report, isReport, skipped⟩
    obtain ⟨found, isFound, rfl⟩ := (map_ok_iff _ _ _).1 isReport
    rw [isFound, Option.isNone_iff_eq_none.1 skipped]
  · intro isNone
    rw [isNone]
    exact ⟨_, rfl, rfl⟩

/-- What is told about a file comes true of every check of the file and of the document that it holds. -/
structure Foretells [Sink τ] (host : Host σ) (engine : Engine τ) (path : Path) (world : World σ)
    (document : Document) (told : Except Failure (String × Bool)) : Prop where
  skips : (∃ message, told = .ok (message, false)) ↔ (engine.lint host document world).1 = .ok .skipped
  skipsFile : (∃ message, told = .ok (message, false)) ↔
    ∃ report, (Check.file host false engine path world).1 = .ok report ∧ report.skipped = true
  startsNothing : (∃ message, told = .ok (message, false)) → engine.started host false document world = []
  /-- A check that is refused for the patterns of templates has not even written to the log. -/
  refuses : ∀ pattern, told = .error (.invalidPattern pattern) ↔
    engine.lint host document world = (.error (.invalidPattern pattern), engine, world)
  refusesFirst : ∀ pattern, told = .error (.invalidPattern pattern) →
    Template.FirstUnreadable engine.settings.detectPatterns pattern ∧
      engine.started host false document world = []
  accepts : (∃ message, told = .ok (message, true)) →
    (engine.lint host document world).1 = (engine.lintUnchecked host document world).1 ∧
    (engine.lint host document world).2.1 = (engine.lintUnchecked host document world).2.1 ∧
    (engine.lint host document world).2.2.state = (engine.lintUnchecked host document world).2.2.state ∧
    engine.started host false document world = engine.started host true document world
  forces : (engine.lintUnchecked host document world).1 ≠ .ok .skipped
  /-- A forced check comes to the same with any value in place of the patterns of templates. -/
  forcesBlindly : ∀ value,
    let settings := engine.settings.set detectionName value
    let checked := engine.lintUnchecked host document world
    (engine.setSettings settings).lintUnchecked host document world =
      (checked.1, checked.2.1.setSettings settings, checked.2.2)

theorem foretells_of_text [Sink τ] (host : Host σ) (engine : Engine τ) (path : Path) (world : World σ)
    {text : String} (readable : (host.entry world.state path).text? = some text) :
    Foretells host engine path world (Document.ofFile host.currentDirectory path text)
      (Inspection.detect host engine.settings path world.state) := by
  let document := Document.ofFile host.currentDirectory path text
  have told (isTemplate : Bool) :
      (∃ message, Inspection.detect host engine.settings path world.state = .ok (message, isTemplate)) ↔
        isCandidate engine.settings false document = .ok isTemplate := by
    rw [Inspection.exists_detect_iff host engine.settings path world.state readable]
    exact (map_ok_iff _ _ _).symm
  have refused (failure : Failure) :
      Inspection.detect host engine.settings path world.state = .error failure ↔
        Template.judge text engine.settings.detectPatterns = .error failure := by
    rw [Inspection.detect_of_text host engine.settings path world.state readable, map_error_iff]
  exact {
    skips := (told false).trans (engine.check_skipped_iff host false document world).symm
    skipsFile := (told false).trans (Check.exists_skipped_iff host false engine path world readable).symm
    startsNothing := by
      intro isNone
      apply engine.started_of_no_candidate
      rw [(told false).1 isNone]
      exact nofun
    refuses := fun pattern => (refused _).trans (engine.lint_unmoved_iff host document world _).symm
    refusesFirst := by
      intro pattern isRefused
      have judged := (refused _).1 isRefused
      obtain ⟨-, compiled⟩ := (Template.judge_error_iff _ _ _).1 judged
      obtain ⟨first, isFirst, same⟩ := (Template.compile_error_iff _ _).1 compiled
      cases same
      refine ⟨isFirst, engine.started_of_no_candidate host false document world ?_⟩
      have noCandidate : isCandidate engine.settings false document = .error (.invalidPattern pattern) :=
        (map_error_iff _ _ _).2 judged
      rw [noCandidate]
      exact nofun
    accepts := fun isTemplate => engine.check_of_candidate host document world ((told true).1 isTemplate)
    forces := by
      intro isSkipped
      have noCandidate := (engine.check_skipped_iff host true document world).1 isSkipped
      cases noCandidate
    forcesBlindly := fun value =>
      engine.lintUnchecked_of_same_run host document world (engine.settings.sameRun_set_detection value) }

/-! ### A broken pattern -/

def quietHost : Host Unit where
  entry _ _ := .file (Text.Utf8.bytes "replicas: 3\n")
  start _ _ := (.finished ⟨Text.Utf8.bytes "[]", [], some 0⟩, ())
  currentDirectory := Path.ofString "/work"
  home := none

def engineWithBrokenPattern : Engine Collection where
  settings := Settings.ofList [(detectionName, .stringList ["", "("])]
  projectRoot := Path.ofString "/"
  sink := Collection.empty
  latest := SortedMap.empty

/-- The broken pattern is named although the one before it matches every text; a forced check does not meet it. -/
theorem foretells_broken_pattern :
    let values := Document.ofFile (Path.ofString "/work") (Path.ofString "values.yaml") "replicas: 3\n"
    (quietHost.entry () (Path.ofString "values.yaml")).text? = some "replicas: 3\n" ∧
    Inspection.detect quietHost engineWithBrokenPattern.settings (Path.ofString "values.yaml") () =
      .error (.invalidPattern "(") ∧
    engineWithBrokenPattern.lint quietHost values ⟨(), []⟩ =
      (.error (.invalidPattern "("), engineWithBrokenPattern, ⟨(), []⟩) ∧
    (engineWithBrokenPattern.lintUnchecked quietHost values ⟨(), []⟩).1 = .ok (.published []) := by
  have readable : (quietHost.entry () (Path.ofString "values.yaml")).text? = some "replicas: 3\n" := by
    decide +kernel
  have told : Inspection.detect quietHost engineWithBrokenPattern.settings (Path.ofString "values.yaml") () =
      .error (.invalidPattern "(") := by
    decide +kernel
  have foretells := foretells_of_text quietHost engineWithBrokenPattern (Path.ofString "values.yaml") ⟨(), []⟩
    readable
  exact ⟨readable, told, (foretells.refuses "(").1 told, by decide +kernel⟩

end TemplateLint
