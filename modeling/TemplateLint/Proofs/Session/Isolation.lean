import TemplateLint.Proofs.Session.Run

set_option autoImplicit false

/-!
Documents do not interfere with each other.

What a session holds about a document in the end depends on the events about that document and on the changes
of the configuration, and on no event about another document.
-/

namespace TemplateLint

variable {σ : Type}

/-- True of the events about a document, and of the changes of the configuration, which concern all. -/
def Event.concerns (uri : String) : Event → Bool
  | .opened document => document.uri == uri
  | .changed document => document.uri == uri
  | .saved document => document.uri == uri
  | .configurationChanged _ _ => true
  | .closed other => other == uri

namespace Session

/-- What a session holds about one document: its revision, the version checked last, and the diagnostics that
are remembered and shown. -/
structure Part where
  openDocument : Option Document
  lastVersion : Option Int
  latest : Option (List Diagnostic)
  shown : Option (List Diagnostic)
deriving DecidableEq

def part (session : Session Collection) (uri : String) : Part where
  openDocument := session.openDocuments.get? uri
  lastVersion := session.lastVersions.get? uri
  latest := session.engine.latest.get? uri
  shown := session.engine.sink.shown.get? uri

/-- Two sessions cannot be told apart by what they do with one document. -/
structure AgreeOn (uri : String) (left right : Session Collection) : Prop where
  openDocument : left.openDocuments.get? uri = right.openDocuments.get? uri
  lastVersion : left.lastVersions.get? uri = right.lastVersions.get? uri
  latest : left.engine.latest.get? uri = right.engine.latest.get? uri
  shown : left.engine.sink.shown.get? uri = right.engine.sink.shown.get? uri
  settings : left.engine.settings = right.engine.settings
  projectRoot : left.engine.projectRoot = right.engine.projectRoot

theorem AgreeOn.refl (uri : String) (session : Session Collection) : AgreeOn uri session session :=
  ⟨rfl, rfl, rfl, rfl, rfl, rfl⟩

theorem AgreeOn.symm {uri : String} {left right : Session Collection} (agree : AgreeOn uri left right) :
    AgreeOn uri right left :=
  ⟨agree.openDocument.symm, agree.lastVersion.symm, agree.latest.symm, agree.shown.symm,
    agree.settings.symm, agree.projectRoot.symm⟩

theorem AgreeOn.trans {uri : String} {left middle right : Session Collection}
    (first : AgreeOn uri left middle) (second : AgreeOn uri middle right) : AgreeOn uri left right :=
  ⟨first.openDocument.trans second.openDocument, first.lastVersion.trans second.lastVersion,
    first.latest.trans second.latest, first.shown.trans second.shown,
    first.settings.trans second.settings, first.projectRoot.trans second.projectRoot⟩

theorem AgreeOn.part {uri : String} {left right : Session Collection} (agree : AgreeOn uri left right) :
    left.part uri = right.part uri := by
  simp only [Session.part, agree.openDocument, agree.lastVersion, agree.latest, agree.shown]

/-! ### Checks -/

/-- A check of another document leaves the part of a document alone. -/
theorem lint_other (host : Host σ) (session : Session Collection) (document : Document) (world : World σ)
    {uri : String} (other : document.uri ≠ uri) :
    AgreeOn uri (session.lint host document world).2.1 session := by
  have engineAfter : (session.lint host document world).2.1.engine = session.engine.absorb document.uri _ :=
    (session.engine.lint_eq_survey host document world).2.1
  refine ⟨rfl, ?_, ?_, ?_, ?_, ?_⟩
  · change (session.lastVersions.put document.uri document.version).get? uri = session.lastVersions.get? uri
    exact SortedMap.get?_put_of_ne session.lastVersions document.uri uri document.version (Ne.symm other)
  · rw [engineAfter]
    exact session.engine.latest_absorb_of_ne document.uri uri _ (Ne.symm other)
  · rw [engineAfter]
    exact session.engine.shown_absorb_of_ne document.uri uri _ (Ne.symm other)
  · rw [engineAfter, Engine.settings_absorb]
  · rw [engineAfter, Engine.projectRoot_absorb]

theorem outcome_agrees (left right : Engine Collection) (uri : String)
    (found : Except Failure (Option (List Diagnostic)))
    (sameLatest : left.latest.get? uri = right.latest.get? uri) :
    left.outcome uri found = right.outcome uri found := by
  match found with
  | .error _ => rfl
  | .ok none => rfl
  | .ok (some diagnostics) => simp only [Engine.outcome, sameLatest]

/-- What a check changes for its document depends on what was remembered and shown for it alone. -/
theorem absorb_agrees (left right : Engine Collection) (uri : String)
    (found : Except Failure (Option (List Diagnostic)))
    (sameLatest : left.latest.get? uri = right.latest.get? uri)
    (sameShown : left.sink.shown.get? uri = right.sink.shown.get? uri) :
    (left.absorb uri found).latest.get? uri = (right.absorb uri found).latest.get? uri ∧
      (left.absorb uri found).sink.shown.get? uri = (right.absorb uri found).sink.shown.get? uri := by
  match found with
  | .error _ => exact ⟨sameLatest, sameShown⟩
  | .ok none => exact ⟨sameLatest, sameShown⟩
  | .ok (some diagnostics) =>
      refine ⟨by rw [left.latest_absorb, right.latest_absorb, if_pos rfl, if_pos rfl], ?_⟩
      by_cases known : left.latest.get? uri = some diagnostics
      · rw [left.absorb_known uri diagnostics known,
          right.absorb_known uri diagnostics (sameLatest.symm.trans known)]
        exact sameShown
      · rw [left.absorb_news uri diagnostics known,
          right.absorb_news uri diagnostics (fun same => known (sameLatest.trans same))]
        exact (SortedMap.get?_put_self _ _ _).trans (SortedMap.get?_put_self _ _ _).symm

section

variable {left right : Session Collection} {document : Document} (agree : AgreeOn document.uri left right)
  (host : Host σ) (leftWorld rightWorld : World σ)
  (sameFound : (survey host right.engine.settings right.engine.projectRoot false document leftWorld.state).1 =
    (survey host right.engine.settings right.engine.projectRoot false document rightWorld.state).1)

include agree sameFound

theorem AgreeOn.result_lint :
    (left.lint host document leftWorld).1 = (right.lint host document rightWorld).1 := by
  have leftResult : (left.lint host document leftWorld).1 = left.engine.outcome document.uri _ :=
    (left.engine.lint_eq_survey host document leftWorld).1
  have rightResult : (right.lint host document rightWorld).1 = right.engine.outcome document.uri _ :=
    (right.engine.lint_eq_survey host document rightWorld).1
  rw [agree.settings, agree.projectRoot, sameFound] at leftResult
  rw [leftResult, rightResult]
  exact outcome_agrees left.engine right.engine document.uri _ agree.latest

/-- Sessions that agree on a document agree on it after checks that found the same in it. -/
theorem AgreeOn.lint_of_found :
    AgreeOn document.uri (left.lint host document leftWorld).2.1
      (right.lint host document rightWorld).2.1 := by
  have leftAfter : (left.lint host document leftWorld).2.1.engine = left.engine.absorb document.uri _ :=
    (left.engine.lint_eq_survey host document leftWorld).2.1
  have rightAfter : (right.lint host document rightWorld).2.1.engine = right.engine.absorb document.uri _ :=
    (right.engine.lint_eq_survey host document rightWorld).2.1
  rw [agree.settings, agree.projectRoot, sameFound] at leftAfter
  obtain ⟨sameLatest, sameShown⟩ := absorb_agrees left.engine right.engine document.uri
    (survey host right.engine.settings right.engine.projectRoot false document rightWorld.state).1
    agree.latest agree.shown
  refine ⟨agree.openDocument, ?_, ?_, ?_, ?_, ?_⟩
  · exact (SortedMap.get?_put_self left.lastVersions document.uri document.version).trans
      (SortedMap.get?_put_self right.lastVersions document.uri document.version).symm
  · rw [leftAfter, rightAfter]
    exact sameLatest
  · rw [leftAfter, rightAfter]
    exact sameShown
  · rw [leftAfter, rightAfter, Engine.settings_absorb, Engine.settings_absorb]
    exact agree.settings
  · rw [leftAfter, rightAfter, Engine.projectRoot_absorb, Engine.projectRoot_absorb]
    exact agree.projectRoot

end

/-- On a steady host it does not matter what the machine went through before. -/
theorem AgreeOn.lint {left right : Session Collection} {document : Document}
    (agree : AgreeOn document.uri left right) {host : Host σ} (steady : host.Steady)
    (leftWorld rightWorld : World σ) :
    AgreeOn document.uri (left.lint host document leftWorld).2.1
      (right.lint host document rightWorld).2.1 :=
  agree.lint_of_found host leftWorld rightWorld (survey_of_steady steady _ _ _ _ _ _)

/-- Of several checks only those of the document itself count for its part. -/
theorem AgreeOn.lintAll {uri : String} {left right : Session Collection} (agree : AgreeOn uri left right)
    {host : Host σ} (steady : host.Steady) (documents : List Document) (leftWorld rightWorld : World σ) :
    AgreeOn uri (Session.lintAll host documents left leftWorld).2.1
      (Session.lintAll host (documents.filter fun document => document.uri == uri) right rightWorld).2.1 := by
  induction documents generalizing left right leftWorld rightWorld with
  | nil => exact agree
  | cons document rest ih =>
      obtain ⟨leftEnded, _, leftAfter⟩ := lintAll_cons host document rest left leftWorld
      rw [leftAfter]
      by_cases about : document.uri = uri
      · subst about
        rw [List.filter_cons, if_pos (beq_self_eq_true document.uri)]
        obtain ⟨rightEnded, _, rightAfter⟩ := lintAll_cons host document
          (rest.filter fun other => other.uri == document.uri) right rightWorld
        rw [rightAfter]
        exact ih (agree.lint steady leftWorld rightWorld) leftEnded rightEnded
      · rw [List.filter_cons, if_neg (fun same => about (eq_of_beq same))]
        exact ih ((lint_other host left document leftWorld about).trans agree) leftEnded rightWorld

/-! ### Events -/

theorem track_other (session : Session Collection) (document : Document) {uri : String}
    (other : document.uri ≠ uri) : AgreeOn uri (session.track document) session := by
  refine ⟨?_, rfl, rfl, rfl, rfl, rfl⟩
  exact SortedMap.get?_put_of_ne session.openDocuments document.uri uri document (Ne.symm other)

theorem prepare_other (session : Session Collection) (event : Event) {uri : String}
    (other : event.concerns uri = false) : AgreeOn uri (session.prepare event) session := by
  cases event with
  | opened document => exact track_other session document (ne_of_beq_false other)
  | changed document => exact track_other session document (ne_of_beq_false other)
  | saved document => exact track_other session document (ne_of_beq_false other)
  | configurationChanged changedSection settings => cases other
  | closed closedUri =>
      have different : uri ≠ closedUri := Ne.symm (ne_of_beq_false other)
      exact ⟨SortedMap.get?_erase_of_ne session.openDocuments closedUri uri different,
        SortedMap.get?_erase_of_ne session.lastVersions closedUri uri different,
        SortedMap.get?_erase_of_ne session.engine.latest closedUri uri different, rfl, rfl, rfl⟩

theorem concerns_of_document (event : Event) (document : Document) (uri : String)
    (carries : event.document? = some document) : event.concerns uri = (document.uri == uri) := by
  cases event with
  | opened other => cases carries; rfl
  | changed other => cases carries; rfl
  | saved other => cases carries; rfl
  | configurationChanged changedSection settings => cases carries
  | closed closedUri => cases carries

theorem due_other (session : Session Collection) (event : Event) {uri : String}
    (other : event.concerns uri = false) (document : Document) (isDue : document ∈ session.due event) :
    document.uri ≠ uri := by
  rcases session.due_cases event with nothingDue | ⟨carried, carries, onlyDue⟩ | ⟨_, _, isChange, _⟩
  · rw [nothingDue] at isDue
    cases isDue
  · rw [onlyDue, List.mem_singleton] at isDue
    rw [concerns_of_document event carried uri carries] at other
    exact isDue ▸ ne_of_beq_false other
  · subst isChange
    cases other

/-- An event about another document leaves the part of a document alone. -/
theorem handle_other (host : Host σ) (session : Session Collection) (event : Event) (world : World σ)
    {uri : String} (other : event.concerns uri = false) :
    AgreeOn uri (session.handle host event world).2.1 session := by
  apply handle_keeps host (fun after => AgreeOn uri after session)
  · exact prepare_other session event other
  · intro document isDue before beforeWorld agree
    exact (lint_other host before document beforeWorld (due_other session event other document isDue)).trans
      agree

theorem AgreeOn.track {uri : String} {left right : Session Collection} (agree : AgreeOn uri left right)
    (document : Document) : AgreeOn uri (left.track document) (right.track document) := by
  refine ⟨?_, agree.lastVersion, agree.latest, agree.shown, agree.settings, agree.projectRoot⟩
  change (left.openDocuments.put document.uri document).get? uri =
    (right.openDocuments.put document.uri document).get? uri
  rw [SortedMap.get?_put, SortedMap.get?_put, agree.openDocument]

theorem AgreeOn.prepare {uri : String} {left right : Session Collection} (agree : AgreeOn uri left right)
    (event : Event) : AgreeOn uri (left.prepare event) (right.prepare event) := by
  cases event with
  | opened document => exact agree.track document
  | changed document => exact agree.track document
  | saved document => exact agree.track document
  | configurationChanged changedSection settings =>
      refine ⟨agree.openDocument, agree.lastVersion, agree.latest, agree.shown, ?_, agree.projectRoot⟩
      change adopted left.engine.settings changedSection settings =
        adopted right.engine.settings changedSection settings
      rw [agree.settings]
  | closed closedUri =>
      refine ⟨?_, ?_, ?_, agree.shown, agree.settings, agree.projectRoot⟩
      · change (left.openDocuments.erase closedUri).get? uri = (right.openDocuments.erase closedUri).get? uri
        rw [SortedMap.get?_erase, SortedMap.get?_erase, agree.openDocument]
      · change (left.lastVersions.erase closedUri).get? uri = (right.lastVersions.erase closedUri).get? uri
        rw [SortedMap.get?_erase, SortedMap.get?_erase, agree.lastVersion]
      · change (left.engine.latest.erase closedUri).get? uri = (right.engine.latest.erase closedUri).get? uri
        rw [SortedMap.get?_erase, SortedMap.get?_erase, agree.latest]

/-- The documents with a URI that are due depend only on what a session holds about that URI. -/
theorem AgreeOn.due {uri : String} {left right : Session Collection} (agree : AgreeOn uri left right)
    (leftKeyed : left.Keyed) (rightKeyed : right.Keyed) (event : Event) (about : event.concerns uri = true) :
    (left.due event).filter (fun document => document.uri == uri) =
      (right.due event).filter (fun document => document.uri == uri) := by
  cases event with
  | opened document => simp only [Session.due, agree.settings]
  | changed document =>
      have sameUri : document.uri = uri := eq_of_beq about
      simp only [Session.due, agree.settings, sameUri, agree.lastVersion]
  | saved document => simp only [Session.due, agree.settings]
  | configurationChanged changedSection settings =>
      simp only [Session.due]
      split
      · rw [leftKeyed.filter_values, rightKeyed.filter_values, agree.openDocument]
      · rfl
  | closed closedUri => rfl

/-- Sessions that agree on a document agree on it after an event that concerns it. -/
theorem AgreeOn.handle {uri : String} {left right : Session Collection} (agree : AgreeOn uri left right)
    {host : Host σ} (steady : host.Steady) (leftKeyed : left.Keyed) (rightKeyed : right.Keyed)
    (event : Event) (about : event.concerns uri = true) (leftWorld rightWorld : World σ) :
    AgreeOn uri (left.handle host event leftWorld).2.1 (right.handle host event rightWorld).2.1 := by
  rw [(handle_same_lintAll host left event leftWorld).2.1,
    (handle_same_lintAll host right event rightWorld).2.1]
  -- both are compared with the right session checking nothing but the documents of this URI
  have leftChecked := (agree.prepare event).lintAll steady (left.due event) leftWorld rightWorld
  have rightChecked := (AgreeOn.refl uri (right.prepare event)).lintAll steady (right.due event)
    rightWorld rightWorld
  rw [agree.due leftKeyed rightKeyed event about] at leftChecked
  exact leftChecked.trans rightChecked.symm

/-! ### Runs -/

/-- Leaving out the events about other documents does not matter to a document. -/
theorem AgreeOn.run {uri : String} {left right : Session Collection} (agree : AgreeOn uri left right)
    {host : Host σ} (steady : host.Steady) (leftKeyed : left.Keyed) (rightKeyed : right.Keyed)
    (events : List Event) (leftWorld rightWorld : World σ) :
    AgreeOn uri (Session.run host events left leftWorld).1
      (Session.run host (events.filter (Event.concerns uri)) right rightWorld).1 := by
  induction events generalizing left right leftWorld rightWorld with
  | nil => exact agree
  | cons event rest ih =>
      by_cases about : event.concerns uri = true
      · rw [List.filter_cons, if_pos about]
        exact ih (agree.handle steady leftKeyed rightKeyed event about leftWorld rightWorld)
          (leftKeyed.handle host event leftWorld) (rightKeyed.handle host event rightWorld) _ _
      · have other : event.concerns uri = false := Bool.eq_false_iff.2 about
        rw [List.filter_cons, if_neg about]
        exact ih ((handle_other host left event leftWorld other).trans agree)
          (leftKeyed.handle host event leftWorld) rightKeyed _ _

/-- On a steady host a session ends with the same about a document whether or not it handles the events about
other documents, however those were checked. -/
theorem run_part_of_concerning (host : Host σ) (steady : host.Steady) (engine : Engine Collection)
    (events : List Event) (uri : String) (world concerningWorld : World σ) :
    (run host events (start engine) world).1.part uri =
      (run host (events.filter (Event.concerns uri)) (start engine) concerningWorld).1.part uri :=
  ((AgreeOn.refl uri (start engine)).run steady (start_keyed engine) (start_keyed engine) events world
    concerningWorld).part

/-! ### A document beside one that fails -/

def findingOf (level : String) : ProcessOutput :=
  ⟨Text.Utf8.bytes ("[[\"\",\"" ++ level ++ "\",[[1,1],[1,2]],\"boom\",[\"E0000\"]]]"), [], some 0⟩

/-- A machine that counts the runs of its linter.  In one file the linter finds something of a level that
nobody knows. -/
def countingHost : Host Nat where
  entry _ _ := .absent
  start command runs :=
    (.finished (findingOf (if command.arguments.getLast? = some "/b.yaml" then "Style" else "Error")), runs + 1)
  currentDirectory := Path.ofString "/"
  home := none

theorem countingHost_steady : countingHost.Steady :=
  countingHost.steady_of_start
    (fun command =>
      .finished (findingOf (if command.arguments.getLast? = some "/b.yaml" then "Style" else "Error")))
    fun _ _ => rfl

def templateAt (uri : String) (version : Int) : Document :=
  ⟨uri, version, "AWSTemplateFormatVersion: 1\nResources:\n"⟩

def eventsOfTwoDocuments : List Event := [
  .opened (templateAt "file:///b.yaml" 1),
  .opened (templateAt "file:///a.yaml" 1),
  .changed (templateAt "file:///b.yaml" 2),
  .configurationChanged "cfnlint" none,
  .closed "file:///b.yaml"]

def quietEngine : Engine Collection :=
  ⟨Settings.empty, Path.ofString "/", Collection.empty, SortedMap.empty⟩

theorem part_beside_failing_document :
    countingHost.Steady ∧
      ((run countingHost eventsOfTwoDocuments (start quietEngine) ⟨0, []⟩).1.part "file:///a.yaml").shown =
        some [⟨⟨⟨0, 0⟩, ⟨0, 1⟩⟩, .error, "[cfn-lint] E0000: boom", "cfn-lint"⟩] ∧
      (run countingHost eventsOfTwoDocuments (start quietEngine) ⟨0, []⟩).1.part "file:///a.yaml" =
        (run countingHost [.opened (templateAt "file:///a.yaml" 1), .configurationChanged "cfnlint" none]
          (start quietEngine) ⟨0, []⟩).1.part "file:///a.yaml" :=
  ⟨countingHost_steady, by decide +kernel,
    run_part_of_concerning countingHost countingHost_steady quietEngine eventsOfTwoDocuments
      "file:///a.yaml" ⟨0, []⟩ ⟨0, []⟩⟩

end Session

end TemplateLint
