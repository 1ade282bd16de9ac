import TemplateLint.Proofs.Engine.Publication
import TemplateLint.Proofs.Session.Run

set_option autoImplicit false

/-!
What is shown for a document after it was checked.

A check that finds something in a document, be it nothing bad, is shown as it is.  A document that is skipped
keeps what was shown for an earlier revision of it, so its outcome and the collection may disagree.
-/

namespace TemplateLint

variable {σ : Type}

def Collection.showing (collection : Collection) (uri : String) : List Diagnostic :=
  (collection.shown.get? uri).getD []

/-! ### The last word on a document -/

/-- What the last check of a document had to say that succeeded and was not skipped.  It does not matter
whether the document was forgotten since. -/
def lastSaid (uri : String) (history : List Entry) : List Diagnostic :=
  (((allPublications history).reverse.find? fun publication => publication.uri == uri).map
    Publication.diagnostics).getD []

theorem shown_publishAll (collection : Collection) (publications : List Publication) (uri : String) :
    (publishAll collection publications).shown.get? uri =
      ((publications.reverse.find? fun publication => publication.uri == uri).map
        Publication.diagnostics).or (collection.shown.get? uri) := by
  induction publications generalizing collection with
  | nil => rfl
  | cons publication rest ih =>
      have later := ih (Sink.publish collection publication.uri publication.diagnostics)
      change (publishAll (Sink.publish collection publication.uri publication.diagnostics) rest).shown.get? uri = _
      rw [later, List.reverse_cons, List.find?_append]
      change Option.or _ ((collection.shown.put publication.uri publication.diagnostics).get? uri) = _
      rw [SortedMap.get?_put]
      cases rest.reverse.find? fun other => other.uri == uri with
      | some other => rfl
      | none =>
          by_cases atUri : uri = publication.uri
          · simp [atUri]
          · simp [atUri, Ne.symm atUri]

/-- A collection shows the last word on every document, although repeated ones did not reach it. -/
theorem Run.fresh_showing (host : Host σ) (settings : Settings) (projectRoot : Path) (calls : List Call)
    (world : World σ) (uri : String) :
    let run := Run.fresh host settings projectRoot Collection.empty calls world
    run.engine.sink.showing uri = lastSaid uri run.history := by
  intro run
  have sameAsAll := shown_news [] run.history Collection.empty Collection.empty (fun _ => rfl)
    (fun _ _ known => nomatch known) uri
  have sink := Run.fresh_sink host settings projectRoot Collection.empty calls world
  unfold Collection.showing lastSaid
  rw [sink, sameAsAll, shown_publishAll]
  exact congrArg (Option.getD · []) (Option.or_none)

/-! ### After a check -/

theorem Engine.Mirrored.showing_absorb {engine : Engine Collection} (mirrored : engine.Mirrored)
    (uri : String) (diagnostics : List Diagnostic) :
    (engine.absorb uri (.ok (some diagnostics))).sink.showing uri = diagnostics := by
  have remembered := engine.latest_absorb uri uri diagnostics
  rw [if_pos rfl] at remembered
  unfold Collection.showing
  rw [mirrored.absorb uri (.ok (some diagnostics)) uri diagnostics remembered]
  rfl

/-- The collection agrees with the outcome of a check unless the document was skipped and something was shown
for it. -/
theorem Engine.Mirrored.showing_absorb_iff {engine : Engine Collection} (mirrored : engine.Mirrored)
    (uri : String) (found : Except Failure (Option (List Diagnostic))) (outcome : Outcome)
    (ends : engine.outcome uri found = .ok outcome) :
    (engine.absorb uri found).sink.showing uri = outcome.diagnostics ↔
      (outcome = .skipped → engine.sink.showing uri = []) := by
  match found with
  | .error _ => cases ends
  | .ok none =>
      cases ends
      exact ⟨fun same _ => same, fun same => same rfl⟩
  | .ok (some diagnostics) =>
      have shown := mirrored.showing_absorb uri diagnostics
      have isFound : outcome.diagnostics = diagnostics ∧ outcome ≠ .skipped := by
        cases ends
        split
        · exact ⟨rfl, nofun⟩
        · exact ⟨rfl, nofun⟩
      rw [shown, isFound.1]
      exact ⟨fun _ isSkipped => absurd isSkipped isFound.2, fun _ => rfl⟩

/-- In every state that an engine or a session can reach, a check that succeeds leaves the collection showing
what its outcome says, except that a skipped document goes on showing the last word on its earlier revisions. -/
theorem showing_after_check_iff (host : Host σ) (settings : Settings) (projectRoot : Path)
    (calls : List Call) (events : List Event) (document : Document) (world later : World σ) :
    let run := Run.fresh host settings projectRoot Collection.empty calls world
    let opened := Session.start (Engine.start settings projectRoot Collection.empty world).1
    let session := (Session.run host events opened world).1
    (∀ isForced outcome, (run.engine.check host isForced document later).1 = .ok outcome →
      ((run.engine.check host isForced document later).2.1.sink.showing document.uri = outcome.diagnostics ↔
        (outcome = .skipped → lastSaid document.uri run.history = []))) ∧
      ∀ outcome, (session.lint host document later).1 = .ok outcome →
        ((session.lint host document later).2.1.engine.sink.showing document.uri = outcome.diagnostics ↔
          (outcome = .skipped → session.engine.sink.showing document.uri = [])) := by
  intro run opened session
  constructor
  · intro isForced outcome ends
    obtain ⟨result, after, _⟩ := run.engine.check_eq_survey host isForced document later
    rw [result] at ends
    rw [after, ← Run.fresh_showing host settings projectRoot calls world document.uri]
    exact (Run.fresh_mirrored host settings projectRoot Collection.empty calls world).showing_absorb_iff
      document.uri _ outcome ends
  · intro outcome ends
    obtain ⟨result, after, _⟩ := session.engine.lint_eq_survey host document later
    change (session.engine.lint host document later).1 = .ok outcome at ends
    rw [result] at ends
    rw [Session.engine_lint, after]
    exact (Session.run_mirrored host events opened world
      (Engine.start_mirrored settings projectRoot Collection.empty world)).showing_absorb_iff
      document.uri _ outcome ends

/-! ### A template that becomes something else -/

def plainRevision : Document :=
  ⟨"file:///stack.yaml", 2, "replicas: 3\n"⟩

/-- When the later revision is checked nevertheless, its diagnostics are shown. -/
theorem showing_after_forced_check :
    let after := runOverTemplate.engine.check bareHost true plainRevision runOverTemplate.world
    after.1 = .ok (.unchanged [Diagnostic.synthetic startFailureText]) ∧
      after.2.1.sink.showing plainRevision.uri = [Diagnostic.synthetic startFailureText] :=
  ⟨rfl, ((showing_after_check_iff bareHost Settings.empty (Path.ofString "/") [.check false stackTemplate] []
    plainRevision ⟨(), []⟩ runOverTemplate.world).1 true _ rfl).2 nofun⟩

/-- When the later revision is skipped, the diagnostics of the template are still shown. -/
theorem showing_after_skip :
    let after := runOverTemplate.engine.lint bareHost plainRevision runOverTemplate.world
    after.1.toOption = some .skipped ∧
      after.2.1.sink.showing plainRevision.uri = [Diagnostic.synthetic startFailureText] ∧
      after.2.1.sink.showing plainRevision.uri ≠ Outcome.skipped.diagnostics := by
  decide +kernel

end TemplateLint
