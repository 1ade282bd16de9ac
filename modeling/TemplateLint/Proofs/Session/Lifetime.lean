import TemplateLint.Proofs.Session.Chronicle
import TemplateLint.Proofs.Session.Shown

set_option autoImplicit false

/-!
How long diagnostics are shown.

What is shown for a document is the last word on it.  Closing the document makes the engine forget it, but takes
nothing from the collection.
-/

namespace TemplateLint

variable {σ : Type}

/-- What the last check of a document found that succeeded and was not skipped. -/
def lastWord (uri : String) : List Incident → List Diagnostic
  | [] => []
  | .checked document (.ok outcome) :: earlier =>
      if uri = document.uri ∧ outcome.isSkipped = false then outcome.diagnostics else lastWord uri earlier
  | _ :: earlier => lastWord uri earlier

namespace Session

structure ShowsLastWords (session : Session Collection) (past : List Incident) : Prop where
  mirrored : session.engine.Mirrored
  showing : ∀ uri, session.engine.sink.showing uri = lastWord uri past

theorem sink_prepare (session : Session Collection) (event : Event) :
    (session.prepare event).engine.sink = session.engine.sink := by
  cases event with
  | opened document => rfl
  | changed document => rfl
  | saved document => rfl
  | configurationChanged changedSection settings => rfl
  | closed uri => rfl

theorem ShowsLastWords.prepare {session : Session Collection} {past : List Incident}
    (shows : session.ShowsLastWords past) (event : Event) :
    (session.prepare event).ShowsLastWords (.arrived event :: past) where
  mirrored := mirrored_prepare session event shows.mirrored
  showing := by
    intro uri
    rw [sink_prepare]
    exact shows.showing uri

theorem ShowsLastWords.lint {session : Session Collection} {past : List Incident}
    (shows : session.ShowsLastWords past) (host : Host σ) (document : Document) (world : World σ) :
    (session.lint host document world).2.1.ShowsLastWords
      (.checked document (session.lint host document world).1 :: past) where
  mirrored := mirrored_lint host session document world shows.mirrored
  showing := by
    intro uri
    obtain ⟨result, after, _⟩ := session.engine.lint_eq_survey host document world
    change (session.lint host document world).1 = _ at result
    rw [engine_lint, after, result]
    match (survey host session.engine.settings session.engine.projectRoot false document world.state).1 with
    | .error _ => exact shows.showing uri
    | .ok none =>
        change _ = if uri = document.uri ∧ true = false then [] else lastWord uri past
        rw [if_neg (fun both => nomatch both.2)]
        exact shows.showing uri
    | .ok (some diagnostics) =>
        have said : ∀ outcome, session.engine.outcome document.uri (.ok (some diagnostics)) = .ok outcome →
            outcome.diagnostics = diagnostics ∧ outcome.isSkipped = false := by
          intro outcome same
          cases same
          split
          · exact ⟨rfl, rfl⟩
          · exact ⟨rfl, rfl⟩
        obtain ⟨isDiagnostics, isDone⟩ := said _ rfl
        change _ = if uri = document.uri ∧ _ = false then Outcome.diagnostics _ else lastWord uri past
        rw [isDiagnostics, isDone]
        by_cases atUri : uri = document.uri
        · rw [if_pos ⟨atUri, rfl⟩, atUri]
          exact shows.mirrored.showing_absorb document.uri diagnostics
        · rw [if_neg (fun both => atUri both.1), ← shows.showing uri]
          unfold Collection.showing
          rw [session.engine.shown_absorb_of_ne document.uri uri _ atUri]

theorem fresh_showsLastWords (host : Host σ) (settings : Settings) (projectRoot : Path) (events : List Event)
    (world : World σ) :
    (fresh host settings projectRoot Collection.empty events world).1.ShowsLastWords
      (freshChronicle host settings projectRoot Collection.empty events world) := by
  apply run_chronicled host ShowsLastWords
  · intro session past event holds
    exact holds.prepare event
  · intro session past document world holds
    exact holds.lint host document world
  · exact ⟨Engine.start_mirrored settings projectRoot Collection.empty world, fun _ => rfl⟩

/-- Diagnostics are shown for open documents only as long as the last word on every other document is that there
are none.  Closing a document changes nothing about what is shown for it. -/
theorem showing_only_open_iff (host : Host σ) (settings : Settings) (projectRoot : Path) (events : List Event)
    (world : World σ) :
    let session := (fresh host settings projectRoot Collection.empty events world).1
    let past := freshChronicle host settings projectRoot Collection.empty events world
    ((∀ uri, session.engine.sink.showing uri ≠ [] → session.openDocuments.get? uri ≠ none) ↔
        ∀ uri, session.openDocuments.get? uri = none → lastWord uri past = []) ∧
      ∀ uri later, (session.handle host (.closed uri) later).2.1.openDocuments.get? uri = none ∧
        (session.handle host (.closed uri) later).2.1.engine.sink.showing uri = lastWord uri past := by
  intro session past
  have shows : session.ShowsLastWords past := fresh_showsLastWords host settings projectRoot events world
  constructor
  · constructor
    · intro onlyOpen uri isClosed
      rw [← shows.showing uri]
      apply Decidable.byContradiction
      intro isShown
      exact onlyOpen uri isShown isClosed
    · intro silent uri isShown isClosed
      rw [shows.showing uri] at isShown
      exact isShown (silent uri isClosed)
  · intro uri later
    exact ⟨session.openDocuments.get?_erase_self uri, shows.showing uri⟩

/-! ### A template that is closed -/

/-- When a document is closed, its diagnostics are still shown. -/
theorem showing_after_close :
    let session := (fresh bareHost Settings.empty (Path.ofString "/") Collection.empty
      [.opened stackTemplate, .closed stackTemplate.uri] ⟨(), []⟩).1
    session.openDocuments.get? stackTemplate.uri = none ∧
      session.engine.sink.showing stackTemplate.uri = [Diagnostic.synthetic startFailureText] ∧
      session.engine.sink.showing stackTemplate.uri ≠ [] := by
  decide +kernel

end Session

end TemplateLint
