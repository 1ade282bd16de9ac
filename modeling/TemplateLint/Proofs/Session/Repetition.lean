import TemplateLint.Proofs.FirstFailure
import TemplateLint.Proofs.Session.Isolation

set_option autoImplicit false

/-!
Events that come twice in a row.

The checks of an event bring a session to rest: whatever was published is remembered, and every version is noted.
When the same event comes again at once, its checks find what they found before and change nothing.
-/

namespace TemplateLint

variable {σ τ : Type} {found : Except Failure (Option (List Diagnostic))}

def Outcome.settled : Outcome → Outcome
  | .published diagnostics => .unchanged diagnostics
  | outcome => outcome

def Event.answeredAgain (event : Event) (first : Except Failure (List Outcome)) :
    Except Failure (List Outcome) :=
  match event with
  | .changed _ => .ok []
  | _ => first.map (List.map Outcome.settled)

/-! ### An engine at rest -/

namespace Engine

/-- An engine has absorbed what was found in a document when it remembers the diagnostics, if there are any. -/
def HasAbsorbed (engine : Engine τ) (uri : String) (found : Except Failure (Option (List Diagnostic))) : Prop :=
  ∀ diagnostics, found = .ok (some diagnostics) → engine.latest.get? uri = some diagnostics

theorem hasAbsorbed_absorb [Sink τ] (engine : Engine τ) (uri : String)
    (found : Except Failure (Option (List Diagnostic))) : (engine.absorb uri found).HasAbsorbed uri found := by
  intro diagnostics isFound
  subst isFound
  rw [engine.latest_absorb, if_pos rfl]

section

variable {engine : Engine τ} {uri : String} (absorbed : engine.HasAbsorbed uri found)

include absorbed

theorem HasAbsorbed.absorb_other [Sink τ] (other : String)
    (otherFound : Except Failure (Option (List Diagnostic))) (different : uri ≠ other) :
    (engine.absorb other otherFound).HasAbsorbed uri found := by
  intro diagnostics isFound
  rw [engine.latest_absorb_of_ne other uri otherFound different]
  exact absorbed diagnostics isFound

theorem HasAbsorbed.absorb [Sink τ] : engine.absorb uri found = engine := by
  match found with
  | .error _ => rfl
  | .ok none => rfl
  | .ok (some diagnostics) => exact engine.absorb_known uri diagnostics (absorbed diagnostics rfl)

/-- At rest nothing is published, whatever an engine would have done that was not at rest. -/
theorem HasAbsorbed.outcome (other : Engine τ) :
    engine.outcome uri found = (other.outcome uri found).map Outcome.settled := by
  match found with
  | .error _ => rfl
  | .ok none => rfl
  | .ok (some diagnostics) =>
      have known : engine.latest.get? uri = some diagnostics := absorbed diagnostics rfl
      simp only [Engine.outcome, if_pos known]
      by_cases isRepeated : other.latest.get? uri = some diagnostics
      · rw [if_pos isRepeated]
        rfl
      · rw [if_neg isRepeated]
        rfl

end

end Engine

/-! ### A session at rest -/

/-- What is found in each document under some settings, whatever state the machine is in. -/
def Host.Finds (host : Host σ) (settings : Settings) (projectRoot : Path)
    (found : Document → Except Failure (Option (List Diagnostic))) : Prop :=
  ∀ document state, (survey host settings projectRoot false document state).1 = found document

theorem Host.Steady.exists_finds {host : Host σ} (steady : host.Steady) (settings : Settings)
    (projectRoot : Path) : ∃ found, host.Finds settings projectRoot found := by
  obtain ⟨inFile, decides⟩ := steady
  refine ⟨fun document => (isCandidate settings false document).bind fun isIt =>
    if isIt then (inFile settings document.path projectRoot).map some else .ok none, ?_⟩
  intro document state
  unfold survey
  dsimp only
  cases isCandidate settings false document with
  | error failure => rfl
  | ok verdict =>
      cases verdict with
      | false => rfl
      | true =>
          simp only [decides]
          rfl

namespace Session

/-- A session rests at a document when another check, with which the same is found, has nothing to note. -/
structure Rests (session : Session τ) (document : Document)
    (found : Except Failure (Option (List Diagnostic))) : Prop where
  checked : session.lastVersions.get? document.uri = some document.version
  absorbed : session.engine.HasAbsorbed document.uri found

variable [Sink τ] (host : Host σ)

theorem rests_lint (session : Session τ) (document : Document) (world : World σ) :
    (session.lint host document world).2.1.Rests document
      (survey host session.engine.settings session.engine.projectRoot false document world.state).1 where
  checked := SortedMap.get?_put_self session.lastVersions document.uri document.version
  absorbed := by
    rw [engine_lint, (session.engine.lint_eq_survey host document world).2.1]
    exact session.engine.hasAbsorbed_absorb document.uri _

theorem Rests.lint_other {session : Session τ} {document : Document} (rests : session.Rests document found)
    (other : Document) (world : World σ) (different : document.uri ≠ other.uri) :
    (session.lint host other world).2.1.Rests document found where
  checked := by
    have kept := SortedMap.get?_put_of_ne session.lastVersions other.uri document.uri other.version different
    exact kept.trans rests.checked
  absorbed := by
    rw [engine_lint, (session.engine.lint_eq_survey host other world).2.1]
    exact rests.absorbed.absorb_other other.uri _ different

section

variable {found : Document → Except Failure (Option (List Diagnostic))} {session : Session τ}
  (finds : host.Finds session.engine.settings session.engine.projectRoot found)

include finds

theorem finds_lint (document : Document) (world : World σ) :
    host.Finds (session.lint host document world).2.1.engine.settings
      (session.lint host document world).2.1.engine.projectRoot found := by
  rw [engine_lint, (session.engine.lint_eq_survey host document world).2.1, Engine.settings_absorb,
    Engine.projectRoot_absorb]
  exact finds

theorem Rests.lint {document : Document} (rests : session.Rests document (found document)) (world : World σ) :
    (session.lint host document world).2.1 = session := by
  have after := (session.engine.lint_eq_survey host document world).2.1
  rw [finds, rests.absorbed.absorb] at after
  have sameVersions := SortedMap.put_of_get? session.lastVersions document.uri document.version rests.checked
  unfold Session.lint
  dsimp only
  rw [after, sameVersions]

theorem Rests.result_lint {document : Document} {resting : Session τ}
    (rests : resting.Rests document (found document))
    (findsAgain : host.Finds resting.engine.settings resting.engine.projectRoot found)
    (world again : World σ) :
    (resting.lint host document again).1 = (session.lint host document world).1.map Outcome.settled := by
  have result : (session.lint host document world).1 = session.engine.outcome document.uri _ :=
    (session.engine.lint_eq_survey host document world).1
  have resultAgain : (resting.lint host document again).1 = resting.engine.outcome document.uri _ :=
    (resting.engine.lint_eq_survey host document again).1
  rw [finds] at result
  rw [findsAgain] at resultAgain
  rw [result, resultAgain]
  exact rests.absorbed.outcome session.engine

/-- The checks of different documents leave the session at rest at each of them. -/
theorem rests_lintAll (documents : List Document)
    (distinct : documents.Pairwise fun left right => left.uri ≠ right.uri) (world : World σ)
    (document : Document) (isMember : document ∈ documents) :
    (lintAll host documents session world).2.1.Rests document (found document) := by
  refine lintAll_brings_about host
    (fun before => host.Finds before.engine.settings before.engine.projectRoot found)
    (fun after => after.Rests document (found document)) document ?_ ?_ ?_ documents distinct isMember
    session world finds
  · intro other before beforeWorld findsBefore
    exact finds_lint host findsBefore other beforeWorld
  · intro before beforeWorld findsBefore
    have rests := rests_lint host before document beforeWorld
    rwa [findsBefore] at rests
  · intro other before beforeWorld different rests
    exact rests.lint_other host other beforeWorld different

/-- The same checks once more, by a session at rest. -/
theorem lintAll_of_rests (documents : List Document) {resting : Session τ}
    (rests : ∀ document ∈ documents, resting.Rests document (found document))
    (findsAgain : host.Finds resting.engine.settings resting.engine.projectRoot found)
    (world again : World σ) :
    (lintAll host documents resting again).1 =
        (lintAll host documents session world).1.map (List.map Outcome.settled) ∧
      (lintAll host documents resting again).2.1 = resting := by
  induction documents generalizing session world again with
  | nil => exact ⟨rfl, rfl⟩
  | cons document rest ih =>
      obtain ⟨restsHere, restsBehind⟩ := List.forall_mem_cons.1 rests
      obtain ⟨ended, _, first⟩ := lintAll_cons_eq host document rest session world
      obtain ⟨endedAgain, _, second⟩ := lintAll_cons_eq host document rest resting again
      obtain ⟨results, unchanged⟩ := ih (finds_lint host finds document world) restsBehind ended endedAgain
      rw [first, second, restsHere.lint host findsAgain again,
        restsHere.result_lint host finds findsAgain world again]
      refine ⟨?_, unchanged⟩
      dsimp only
      rw [results]
      cases (session.lint host document world).1 with
      | error failure => rfl
      | ok outcome =>
          cases (lintAll host rest (session.lint host document world).2.1 ended).1 with
          | error failure => rfl
          | ok others => rfl

end

/-! ### Events -/

omit [Sink τ] in
theorem track_of_open (session : Session τ) (document : Document)
    (isOpen : session.openDocuments.get? document.uri = some document) : session.track document = session := by
  unfold track
  rw [SortedMap.put_of_get? _ _ _ isOpen]

theorem adopted_adopted (current : Settings) (changedSection : String) (settings : Option Settings) :
    adopted (adopted current changedSection settings) changedSection settings =
      adopted current changedSection settings := by
  unfold adopted
  split
  · cases settings with
    | none => rfl
    | some settings => rfl
  · rfl

/-- A session that an event was handled in is prepared for the same event. -/
theorem prepare_handle (session : Session τ) (event : Event) (world : World σ) :
    (session.handle host event world).2.1.prepare event = (session.handle host event world).2.1 := by
  have sameOpen := handle_openDocuments host session event world
  have sameSettings := settings_handle host session event world
  cases event with
  | opened document =>
      apply track_of_open
      rw [sameOpen]
      exact SortedMap.get?_put_self session.openDocuments document.uri document
  | changed document =>
      apply track_of_open
      rw [sameOpen]
      exact SortedMap.get?_put_self session.openDocuments document.uri document
  | saved document =>
      apply track_of_open
      rw [sameOpen]
      exact SortedMap.get?_put_self session.openDocuments document.uri document
  | configurationChanged changedSection settings =>
      generalize (session.handle host (.configurationChanged changedSection settings) world).2.1 = after
        at sameOpen sameSettings ⊢
      have sameAdopted : adopted after.engine.settings changedSection settings = after.engine.settings := by
        rw [sameSettings]
        exact adopted_adopted session.engine.settings changedSection settings
      change { after with
        engine := after.engine.setSettings (adopted after.engine.settings changedSection settings) } = after
      rw [sameAdopted]
      rfl
  | closed uri =>
      change (session.prepare (.closed uri)).prepare (.closed uri) = session.prepare (.closed uri)
      simp only [prepare, Engine.forget, SortedMap.erase_erase]

theorem lastVersion_handle_changed (session : Session τ) (document : Document) (world : World σ)
    (isOn : session.engine.settings.lintOnChange = true) :
    (session.handle host (.changed document) world).2.1.lastVersions.get? document.uri =
      some document.version := by
  rw [(handle_same_lintAll host session (.changed document) world).2.1]
  by_cases isKnown : session.lastVersions.get? document.uri = some document.version
  · have nothingDue : session.due (.changed document) = [] := by
      simp only [due, isOn, isKnown, Bool.not_true, Bool.false_eq_true, if_false, if_true]
    rw [nothingDue]
    exact isKnown
  · have onlyDue : session.due (.changed document) = [document] := by
      simp only [due, isOn, isKnown, Bool.not_true, Bool.false_eq_true, if_false]
    rw [onlyDue, (lintAll_singleton host document (session.prepare (.changed document)) world).2]
    exact (rests_lint host _ document world).checked

/-- An event has the same documents due as before, but a change that was handled leaves nothing to check. -/
theorem due_handle (session : Session τ) (event : Event) (world : World σ) :
    (session.handle host event world).2.1.due event =
      match event with
      | .changed _ => []
      | _ => session.due event := by
  have sameOpen := handle_openDocuments host session event world
  have sameSettings := settings_handle host session event world
  cases event with
  | opened document =>
      simp only [due, sameSettings]
      rfl
  | changed document =>
      change _ = session.engine.settings at sameSettings
      by_cases isOn : session.engine.settings.lintOnChange = true
      · have checked := session.lastVersion_handle_changed host document world isOn
        simp only [due, sameSettings, isOn, checked, Bool.not_true, Bool.false_eq_true, if_false, if_true]
      · simp only [due, sameSettings, isOn, Bool.not_false, if_true]
  | saved document =>
      simp only [due, sameSettings]
      rfl
  | configurationChanged changedSection settings =>
      simp only [due, sameOpen]
      rfl
  | closed uri => rfl

/-- The documents that were due, checked once more right after the event. -/
theorem Keyed.lintAll_due_again {session : Session τ} (keyed : session.Keyed) (steady : host.Steady)
    (event : Event) (world again : World σ) :
    (lintAll host (session.due event) (session.handle host event world).2.1 again).1 =
        (session.handle host event world).1.map (List.map Outcome.settled) ∧
      (lintAll host (session.due event) (session.handle host event world).2.1 again).2.1 =
        (session.handle host event world).2.1 := by
  obtain ⟨result, after, _⟩ := session.handle_same_lintAll host event world
  rw [result, after]
  obtain ⟨found, finds⟩ := steady.exists_finds (session.prepare event).engine.settings
    (session.prepare event).engine.projectRoot
  apply lintAll_of_rests host finds
  · exact rests_lintAll host finds (session.due event) (keyed.due_distinct event) world
  · apply lintAll_keeps host fun after =>
      host.Finds after.engine.settings after.engine.projectRoot found
    · intro document _ before beforeWorld findsBefore
      exact finds_lint host findsBefore document beforeWorld
    · exact finds

/-- When an event comes twice in a row, the second time changes nothing at all.  Unless the event is a change,
which is not checked again, its documents are checked again with the same results, but nothing is published. -/
theorem handle_repeated (steady : host.Steady) (engine : Engine τ) (events : List Event) (event : Event)
    (world later again : World σ) :
    let session := (run host events (start engine) world).1
    let first := session.handle host event later
    let second := first.2.1.handle host event again
    second.1 = event.answeredAgain first.1 ∧ second.2.1 = first.2.1 := by
  intro session first second
  have keyed : session.Keyed := run_keyed host events _ world (start_keyed engine)
  have settled := keyed.lintAll_due_again host steady event later again
  obtain ⟨result, after, _⟩ := first.2.1.handle_same_lintAll host event again
  rw [session.prepare_handle host event later, session.due_handle host event later] at result after
  cases event with
  | opened document => exact ⟨result.trans settled.1, after.trans settled.2⟩
  | changed document => exact ⟨result, after⟩
  | saved document => exact ⟨result.trans settled.1, after.trans settled.2⟩
  | configurationChanged changedSection settings =>
      exact ⟨result.trans settled.1, after.trans settled.2⟩
  | closed uri => exact ⟨result.trans settled.1, after.trans settled.2⟩

/-! ### A template and a document that is none -/

def plainDocument : Document := ⟨"file:///c.yaml", 1, "Resources:\n"⟩

def silentEngine : Engine Collection :=
  ⟨Settings.ofList [("lintOnOpen", .boolean false)], Path.ofString "/", Collection.empty, SortedMap.empty⟩

def uncheckedSession : Session Collection :=
  (run countingHost [.opened plainDocument, .opened (templateAt "file:///a.yaml" 1)] (start silentEngine)
    ⟨0, []⟩).1

/-- What the first time publishes is known the second time, and what it skips is skipped again. -/
theorem handle_repeated_configuration :
    let event := Event.configurationChanged "cfnlint" (some Settings.empty)
    let first := uncheckedSession.handle countingHost event ⟨0, []⟩
    let second := first.2.1.handle countingHost event first.2.2
    let diagnostic : Diagnostic := ⟨⟨⟨0, 0⟩, ⟨0, 1⟩⟩, .error, "[cfn-lint] E0000: boom", "cfn-lint"⟩
    countingHost.Steady ∧ first.1 = .ok [.published [diagnostic], .skipped] ∧
      second.1 = .ok [.unchanged [diagnostic], .skipped] ∧ second.2.1 = first.2.1 := by
  have firstResult : (uncheckedSession.handle countingHost
      (.configurationChanged "cfnlint" (some Settings.empty)) ⟨0, []⟩).1 =
        .ok [.published [⟨⟨⟨0, 0⟩, ⟨0, 1⟩⟩, .error, "[cfn-lint] E0000: boom", "cfn-lint"⟩], .skipped] := by
    decide +kernel
  have repeated := handle_repeated countingHost countingHost_steady silentEngine
    [.opened plainDocument, .opened (templateAt "file:///a.yaml" 1)]
    (.configurationChanged "cfnlint" (some Settings.empty)) ⟨0, []⟩ ⟨0, []⟩
  -- without the local definitions both sides are compared as they are written, and nothing is evaluated
  dsimp only at repeated ⊢
  rw [← uncheckedSession] at repeated
  generalize uncheckedSession.handle countingHost
    (.configurationChanged "cfnlint" (some Settings.empty)) ⟨0, []⟩ = first at firstResult repeated ⊢
  obtain ⟨result, unchanged⟩ := repeated first.2.2
  rw [firstResult] at result
  exact ⟨countingHost_steady, firstResult, result, unchanged⟩

end Session

end TemplateLint
