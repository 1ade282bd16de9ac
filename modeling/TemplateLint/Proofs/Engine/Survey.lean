import TemplateLint.Engine
import TemplateLint.Proofs.Linting

set_option autoImplicit false

/-!
A check in two halves: what is found in a document, and what the engine makes of it.

The first half depends on the settings, the project root and the machine, but not on the log and not on what
was published before.  The second half depends only on what was published before.
-/

namespace TemplateLint

variable {σ τ : Type}

/-! ### What is found -/

def isCandidate (settings : Settings) (isForced : Bool) (document : Document) : Except Failure Bool :=
  if isForced then .ok true
  else (Template.judge document.text settings.detectPatterns).map Template.Verdict.isTemplate

/-- What a check finds in a document, and the state of the machine after it; `none` when the document is
left out because it is no template. -/
def survey (host : Host σ) (settings : Settings) (projectRoot : Path) (isForced : Bool) (document : Document)
    (state : σ) : Except Failure (Option (List Diagnostic)) × σ :=
  match isCandidate settings isForced document with
  | .error failure => (.error failure, state)
  | .ok false => (.ok none, state)
  | .ok true =>
      let (result, world) := lintFile host settings document.path projectRoot ⟨state, []⟩
      (result.map some, world.state)

theorem survey_of_steady {host : Host σ} (steady : host.Steady) (settings : Settings) (projectRoot : Path)
    (isForced : Bool) (document : Document) (left right : σ) :
    (survey host settings projectRoot isForced document left).1 =
      (survey host settings projectRoot isForced document right).1 := by
  obtain ⟨found, decides⟩ := steady
  unfold survey
  cases isCandidate settings isForced document with
  | error failure => rfl
  | ok isCandidate =>
      cases isCandidate with
      | false => rfl
      | true => simp only [decides]

/-! ### What the engine makes of it -/

namespace Engine

def check [Sink τ] (host : Host σ) (isForced : Bool) (engine : Engine τ) (document : Document)
    (world : World σ) : Except Failure Outcome × Engine τ × World σ :=
  if isForced then engine.lintUnchecked host document world else engine.lint host document world

def outcome (engine : Engine τ) (uri : String) :
    Except Failure (Option (List Diagnostic)) → Except Failure Outcome
  | .error failure => .error failure
  | .ok none => .ok .skipped
  | .ok (some diagnostics) =>
      .ok (if engine.latest.get? uri = some diagnostics then .unchanged diagnostics else .published diagnostics)

def absorb [Sink τ] (engine : Engine τ) (uri : String) :
    Except Failure (Option (List Diagnostic)) → Engine τ
  | .ok (some diagnostics) =>
      if engine.latest.get? uri = some diagnostics then engine
      else { engine with
        latest := engine.latest.put uri diagnostics
        sink := Sink.publish engine.sink uri diagnostics }
  | _ => engine

theorem absorb_known [Sink τ] (engine : Engine τ) (uri : String) (diagnostics : List Diagnostic)
    (known : engine.latest.get? uri = some diagnostics) :
    engine.absorb uri (.ok (some diagnostics)) = engine := by
  simp only [absorb, if_pos known]

theorem absorb_news [Sink τ] (engine : Engine τ) (uri : String) (diagnostics : List Diagnostic)
    (isNews : engine.latest.get? uri ≠ some diagnostics) :
    engine.absorb uri (.ok (some diagnostics)) =
      { engine with
        latest := engine.latest.put uri diagnostics
        sink := Sink.publish engine.sink uri diagnostics } := by
  simp only [absorb, if_neg isNews]

theorem absorb_of_error [Sink τ] (engine : Engine τ) (uri : String)
    (found : Except Failure (Option (List Diagnostic))) (failure : Failure)
    (fails : engine.outcome uri found = .error failure) : engine.absorb uri found = engine := by
  match found with
  | .error _ => rfl
  | .ok none => rfl
  | .ok (some diagnostics) => cases fails

theorem settings_absorb [Sink τ] (engine : Engine τ) (uri : String)
    (found : Except Failure (Option (List Diagnostic))) :
    (engine.absorb uri found).settings = engine.settings := by
  unfold absorb
  split
  · split
    · rfl
    · rfl
  · rfl

theorem projectRoot_absorb [Sink τ] (engine : Engine τ) (uri : String)
    (found : Except Failure (Option (List Diagnostic))) :
    (engine.absorb uri found).projectRoot = engine.projectRoot := by
  unfold absorb
  split
  · split
    · rfl
    · rfl
  · rfl

theorem latest_absorb [Sink τ] (engine : Engine τ) (uri other : String) (diagnostics : List Diagnostic) :
    (engine.absorb uri (.ok (some diagnostics))).latest.get? other =
      if other = uri then some diagnostics else engine.latest.get? other := by
  by_cases known : engine.latest.get? uri = some diagnostics
  · rw [engine.absorb_known uri diagnostics known]
    by_cases atUri : other = uri
    · rw [if_pos atUri, atUri, known]
    · rw [if_neg atUri]
  · rw [engine.absorb_news uri diagnostics known]
    exact SortedMap.get?_put engine.latest uri other diagnostics

theorem latest_absorb_of_ne [Sink τ] (engine : Engine τ) (uri other : String)
    (found : Except Failure (Option (List Diagnostic))) (different : other ≠ uri) :
    (engine.absorb uri found).latest.get? other = engine.latest.get? other := by
  match found with
  | .error _ => rfl
  | .ok none => rfl
  | .ok (some diagnostics) => rw [engine.latest_absorb, if_neg different]

theorem shown_absorb_of_ne (engine : Engine Collection) (uri other : String)
    (found : Except Failure (Option (List Diagnostic))) (different : other ≠ uri) :
    (engine.absorb uri found).sink.shown.get? other = engine.sink.shown.get? other := by
  match found with
  | .error _ => rfl
  | .ok none => rfl
  | .ok (some diagnostics) =>
      by_cases known : engine.latest.get? uri = some diagnostics
      · rw [engine.absorb_known uri diagnostics known]
      · rw [engine.absorb_news uri diagnostics known]
        exact SortedMap.get?_put_of_ne engine.sink.shown uri other diagnostics different

theorem publish_eq [Sink τ] (engine : Engine τ) (uri : String) (diagnostics : List Diagnostic)
    (world : World σ) :
    .ok (engine.publish uri diagnostics world).1 = engine.outcome uri (.ok (some diagnostics)) ∧
      (engine.publish uri diagnostics world).2.1 = engine.absorb uri (.ok (some diagnostics)) ∧
      (engine.publish uri diagnostics world).2.2.state = world.state := by
  unfold publish
  by_cases same : engine.latest.get? uri = some diagnostics
  · simp [outcome, absorb, same]
  · simp [outcome, absorb, same]

theorem lintUnchecked_eq_survey [Sink τ] (host : Host σ) (engine : Engine τ) (document : Document)
    (world : World σ) :
    let found := survey host engine.settings engine.projectRoot true document world.state
    (engine.lintUnchecked host document world).1 = engine.outcome document.uri found.1 ∧
      (engine.lintUnchecked host document world).2.1 = engine.absorb document.uri found.1 ∧
      (engine.lintUnchecked host document world).2.2.state = found.2 := by
  intro found
  have onFreshLog := lintFile_of_same_state host engine.settings document.path engine.projectRoot
    (world.note .info ("Linting " ++ document.path.display ++ "...")) ⟨world.state, []⟩ rfl
  simp only [found, survey, isCandidate, if_true]
  unfold lintUnchecked
  dsimp only
  generalize lintFile host engine.settings document.path engine.projectRoot
    (world.note .info ("Linting " ++ document.path.display ++ "...")) = noted at onFreshLog ⊢
  generalize lintFile host engine.settings document.path engine.projectRoot ⟨world.state, []⟩ = fresh
    at onFreshLog ⊢
  obtain ⟨result, ended⟩ := noted
  obtain ⟨freshResult, freshEnded⟩ := fresh
  obtain ⟨sameResult, sameState⟩ := onFreshLog
  cases sameResult
  cases result with
  | error failure => exact ⟨rfl, rfl, sameState⟩
  | ok diagnostics =>
      obtain ⟨sameOutcome, sameEngine, keptState⟩ := engine.publish_eq document.uri diagnostics ended
      exact ⟨sameOutcome, sameEngine, keptState.trans sameState⟩

theorem lint_eq_survey [Sink τ] (host : Host σ) (engine : Engine τ) (document : Document) (world : World σ) :
    let found := survey host engine.settings engine.projectRoot false document world.state
    (engine.lint host document world).1 = engine.outcome document.uri found.1 ∧
      (engine.lint host document world).2.1 = engine.absorb document.uri found.1 ∧
      (engine.lint host document world).2.2.state = found.2 := by
  intro found
  simp only [found, survey, isCandidate, Bool.false_eq_true, if_false]
  unfold lint
  cases judged : Template.judge document.text engine.settings.detectPatterns with
  | error failure => exact ⟨rfl, rfl, rfl⟩
  | ok verdict =>
      simp only [Except.map]
      cases accepted : verdict.isTemplate with
      | false => exact ⟨rfl, rfl, rfl⟩
      | true =>
          -- a template is checked as if its check were forced
          exact lintUnchecked_eq_survey host engine document
            (world.note .info (verdict.note document.path.display))

theorem check_eq_survey [Sink τ] (host : Host σ) (isForced : Bool) (engine : Engine τ) (document : Document)
    (world : World σ) :
    let found := survey host engine.settings engine.projectRoot isForced document world.state
    (engine.check host isForced document world).1 = engine.outcome document.uri found.1 ∧
      (engine.check host isForced document world).2.1 = engine.absorb document.uri found.1 ∧
      (engine.check host isForced document world).2.2.state = found.2 := by
  cases isForced with
  | false => exact lint_eq_survey host engine document world
  | true => exact lintUnchecked_eq_survey host engine document world

/-- A check that fails leaves the engine as it was, wherever on its way it fails. -/
theorem check_of_error [Sink τ] (host : Host σ) (isForced : Bool) (engine : Engine τ) (document : Document)
    (world : World σ) (failure : Failure)
    (fails : (engine.check host isForced document world).1 = .error failure) :
    (engine.check host isForced document world).2.1 = engine := by
  obtain ⟨result, after, _⟩ := check_eq_survey host isForced engine document world
  rw [result] at fails
  rw [after]
  exact engine.absorb_of_error document.uri _ failure fails

end Engine

end TemplateLint
