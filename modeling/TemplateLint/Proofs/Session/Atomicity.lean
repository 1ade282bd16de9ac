import TemplateLint.Proofs.FirstFailure
import TemplateLint.Proofs.Session.Isolation

set_option autoImplicit false

/-!
Checks that fail leave no trace in what is remembered and shown.

Of an event whose check fails, only the revision that came with it and the version that was to be checked stay.
-/

namespace TemplateLint.Session

variable {σ τ : Type}

/-- The session after a failure in a document, with nothing but its revision and its version changed. -/
def attempted (session : Session τ) (document : Document) : Session τ :=
  { session with
    openDocuments := session.openDocuments.put document.uri document
    lastVersions := session.lastVersions.put document.uri document.version }

theorem attempted_other (session : Session τ) (document : Document) (uri : String) (other : uri ≠ document.uri) :
    (session.attempted document).openDocuments.get? uri = session.openDocuments.get? uri ∧
      (session.attempted document).lastVersions.get? uri = session.lastVersions.get? uri :=
  ⟨SortedMap.get?_put_of_ne session.openDocuments document.uri uri document other,
    SortedMap.get?_put_of_ne session.lastVersions document.uri uri document.version other⟩

variable [Sink τ] (host : Host σ)

theorem lint_of_error (session : Session τ) (document : Document) (world : World σ) (failure : Failure)
    (fails : ((session.track document).lint host document world).1 = .error failure) :
    ((session.track document).lint host document world).2.1 = session.attempted document := by
  have sameEngine := engine_lint_of_error host (session.track document) document world failure fails
  have parts : ((session.track document).lint host document world).2.1 =
      { session.attempted document with
        engine := ((session.track document).lint host document world).2.1.engine } := rfl
  rw [parts, sameEngine]
  rfl

/-- A check that fails leaves the engine with its settings, its memory and its sink as it was.  An event with a
revision whose check fails leaves the session the same but for the revision, which is open now, and its version,
which counts as checked; nothing about other documents has changed. -/
theorem failure_leaves_no_trace :
    (∀ (isForced : Bool) (engine : Engine τ) (document : Document) (world : World σ) (failure : Failure),
        (engine.check host isForced document world).1 = .error failure →
          (engine.check host isForced document world).2.1 = engine) ∧
      ∀ (session : Session τ) (event : Event) (document : Document) (world : World σ) (failure : Failure),
        event.document? = some document → (session.handle host event world).1 = .error failure →
          let after := (session.handle host event world).2.1
          after = session.attempted document ∧ after.engine = session.engine ∧
            after.openDocuments.get? document.uri = some document ∧
            after.lastVersions.get? document.uri = some document.version ∧
            ∀ uri, uri ≠ document.uri →
              after.openDocuments.get? uri = session.openDocuments.get? uri ∧
                after.lastVersions.get? uri = session.lastVersions.get? uri := by
  constructor
  · intro isForced engine document world failure fails
    exact engine.check_of_error host isForced document world failure fails
  · intro session event document world failure carries fails after
    have isAttempted : after = session.attempted document := by
      obtain ⟨result, sameAfter, _⟩ := session.handle_same_lintAll host event world
      rw [session.prepare_of_document event document carries] at result sameAfter
      rcases session.due_cases event with nothingDue | ⟨carried, carriesToo, onlyDue⟩ | ⟨_, _, isChange, _⟩
      · -- without a check there is no failure
        rw [result, nothingDue] at fails
        cases fails
      · cases carries.symm.trans carriesToo
        obtain ⟨single, singleAfter⟩ := lintAll_singleton host document (session.track document) world
        rw [result, onlyDue, single, map_error_iff] at fails
        have noTrace := session.lint_of_error host document world failure fails
        rw [onlyDue, singleAfter] at sameAfter
        exact sameAfter.trans noTrace
      · subst isChange
        cases carries
    rw [isAttempted]
    refine ⟨rfl, rfl, ?_, ?_, session.attempted_other document⟩
    · exact SortedMap.get?_put_self session.openDocuments document.uri document
    · exact SortedMap.get?_put_self session.lastVersions document.uri document.version

/-! ### A document that fails beside one that is shown -/

def shownDiagnostics : SortedMap (List Diagnostic) :=
  SortedMap.empty.put "file:///a.yaml" [Diagnostic.synthetic errorOutputText]

def shownSession : Session Collection where
  engine := ⟨Settings.empty, Path.ofString "/", ⟨shownDiagnostics, 1⟩, shownDiagnostics⟩
  openDocuments := SortedMap.empty.put "file:///a.yaml" (templateAt "file:///a.yaml" 1)
  lastVersions := SortedMap.empty.put "file:///a.yaml" 1

/-- The linter has run and its findings were read when the level of one turns out to be unknown. -/
theorem failure_leaves_no_trace_beside_shown :
    let document := templateAt "file:///b.yaml" 2
    let checked := shownSession.engine.check countingHost true document ⟨1, []⟩
    let handled := shownSession.handle countingHost (.saved document) ⟨1, []⟩
    checked.1 = .error (.unsupportedSeverity "Style") ∧ checked.2.1 = shownSession.engine ∧
      handled.1 = .error (.unsupportedSeverity "Style") ∧
      handled.2.1 = shownSession.attempted document ∧
      handled.2.1.openDocuments.get? "file:///a.yaml" = some (templateAt "file:///a.yaml" 1) := by
  have checkFails : (shownSession.engine.check countingHost true (templateAt "file:///b.yaml" 2) ⟨1, []⟩).1 =
      .error (.unsupportedSeverity "Style") := by decide +kernel
  have handleFails : (shownSession.handle countingHost (.saved (templateAt "file:///b.yaml" 2)) ⟨1, []⟩).1 =
      .error (.unsupportedSeverity "Style") := by decide +kernel
  obtain ⟨engineKept, sessionKept⟩ := @failure_leaves_no_trace Nat Collection _ countingHost
  have noTrace := sessionKept shownSession _ _ _ _ rfl handleFails
  dsimp only at noTrace ⊢
  obtain ⟨isAttempted, _, _, _, others⟩ := noTrace
  refine ⟨checkFails, engineKept true _ _ _ _ checkFails, handleFails, isAttempted, ?_⟩
  exact (others "file:///a.yaml" (by decide)).1

end TemplateLint.Session
