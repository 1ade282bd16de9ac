import TemplateLint.Proofs.FirstFailure
import TemplateLint.Proofs.Session.Isolation
import TemplateLint.Proofs.Session.Trigger
import TemplateLint.Proofs.Text.ByteOrder

set_option autoImplicit false

/-!
What a change of the configuration does to the open documents.

They are checked once each, in the order of their URIs, and every one fares as if it were checked alone under
the new settings.  It does not matter in which order a map would list them.
-/

namespace TemplateLint

variable {σ τ : Type}

/-! ### Order -/

def inByteOrder (documents : List Document) : List Document :=
  documents.mergeSort fun left right => decide (Text.Utf8.bytes left.uri ≤ Text.Utf8.bytes right.uri)

theorem inByteOrder_pairwise (documents : List Document) :
    (inByteOrder documents).Pairwise fun left right => left.uri ≤ right.uri := by
  have sorted : (inByteOrder documents).Pairwise fun left right =>
      decide (Text.Utf8.bytes left.uri ≤ Text.Utf8.bytes right.uri) = true := by
    apply List.pairwise_mergeSort
    · intro first second third firstStep secondStep
      simp only [decide_eq_true_eq] at firstStep secondStep ⊢
      exact List.le_trans firstStep secondStep
    · intro left right
      simp only [Bool.or_eq_true, decide_eq_true_eq]
      exact List.le_total _ _
  refine sorted.imp ?_
  intro left right isBefore
  rw [decide_eq_true_eq, ← List.not_lt, Text.Utf8.bytes_lt_iff] at isBefore
  exact String.not_lt.1 isBefore

namespace Session

/-- Handles a change of the configuration when the open documents are listed in some order: they are sorted
before they are checked. -/
def reconfigure [Sink τ] (host : Host σ) (listed : List Document) (session : Session τ)
    (changedSection : String) (settings : Option Settings) (world : World σ) :
    Except Failure (List Outcome) × Session τ × World σ :=
  if !affectsSettings changedSection then (.ok [], session, world)
  else
    let session :=
      match settings with
      | some settings => { session with engine := session.engine.setSettings settings }
      | none => session
    lintAll host (inByteOrder listed) session world

/-- Only one order of the open documents is sorted, because no two of them have the same URI. -/
theorem Keyed.inByteOrder_eq {session : Session τ} (keyed : session.Keyed) (listed : List Document)
    (isListing : listed.Perm session.openDocuments.values) :
    inByteOrder listed = session.openDocuments.values := by
  have samePerm : (inByteOrder listed).Perm session.openDocuments.values :=
    (List.mergeSort_perm listed _).trans isListing
  have ascending := (session.openDocuments.values_ascending Document.uri keyed).imp
    fun below => String.not_lt.1 (String.lt_asymm below)
  refine samePerm.eq_of_pairwise ?_ (inByteOrder_pairwise listed) ascending
  intro left right isLeft isRight isBefore isAfter
  have leftKnown := (keyed.mem_values_iff left).1 (samePerm.mem_iff.1 isLeft)
  have rightKnown := (keyed.mem_values_iff right).1 isRight
  rw [String.le_antisymm isBefore isAfter, rightKnown] at leftKnown
  cases leftKnown
  rfl

theorem Keyed.reconfigure_eq_handle [Sink τ] {session : Session τ} (keyed : session.Keyed) (host : Host σ)
    (listed : List Document) (isListing : listed.Perm session.openDocuments.values)
    (changedSection : String) (settings : Option Settings) (world : World σ) :
    session.reconfigure host listed changedSection settings world =
      session.handle host (.configurationChanged changedSection settings) world := by
  unfold reconfigure Session.handle
  rw [keyed.inByteOrder_eq listed isListing]
  cases settings with
  | none => rfl
  | some settings => rfl

/-! ### Checks side by side -/

theorem lintAll_others (host : Host σ) (documents : List Document) (session : Session Collection)
    (world : World σ) (uri : String) (others : ∀ document ∈ documents, document.uri ≠ uri) :
    AgreeOn uri (lintAll host documents session world).2.1 session := by
  apply lintAll_keeps host (fun after => AgreeOn uri after session)
  · intro document isMember before beforeWorld agree
    exact (lint_other host before document beforeWorld (others document isMember)).trans agree
  · exact AgreeOn.refl uri session

/-- Among documents with different URIs every check does what it would do alone. -/
theorem attempts_alone (host : Host σ) (documents : List Document)
    (distinct : documents.Pairwise fun left right => left.uri ≠ right.uri) (session : Session Collection)
    (world : World σ) (attempt : Attempt σ)
    (isMember : attempt ∈ attemptsBy (fun engine => engine.lint host) documents session world) :
    attempt.result = (session.lint host attempt.document attempt.before).1 ∧
      AgreeOn attempt.document.uri (lintAll host documents session world).2.1
        (session.lint host attempt.document attempt.before).2.1 := by
  induction documents generalizing session world with
  | nil => cases isMember
  | cons document rest ih =>
      obtain ⟨unlike, distinctRest⟩ := List.pairwise_cons.1 distinct
      obtain ⟨ended, _, made, after⟩ := attempts_cons host document rest session world
      rw [made] at isMember
      rw [after]
      rcases List.mem_cons.1 isMember with same | inRest
      · subst same
        exact ⟨rfl, lintAll_others host rest _ ended document.uri fun other inRest =>
          Ne.symm (unlike other inRest)⟩
      · obtain ⟨sameResult, agreeAfter⟩ := ih distinctRest _ ended inRest
        have isOther : attempt.document ∈ rest := by
          rw [← map_document_attemptsBy (fun engine => engine.lint host) rest
            (session.lint host document world).2.1 ended]
          exact List.mem_map_of_mem inRest
        -- what the first check did is nothing to the document of this one
        have untouched := lint_other host session document world (unlike attempt.document isOther)
        exact ⟨sameResult.trans (untouched.result_lint host attempt.before attempt.before rfl),
          agreeAfter.trans (untouched.lint_of_found host attempt.before attempt.before rfl)⟩

/-! ### A change of the configuration -/

def configured (session : Session τ) (settings : Option Settings) : Session τ :=
  { session with engine := session.engine.setSettings (settings.getD session.engine.settings) }

/-- What a change of the configuration has to do to a session: `attempts` are the checks it makes, and `after`
and `result` what it leaves. -/
structure Reconfigured (host : Host σ) (settings : Option Settings) (session : Session Collection)
    (attempts : List (Attempt σ)) (result : Except Failure (List Outcome)) (after : Session Collection) :
    Prop where
  installed : after.engine.settings = settings.getD session.engine.settings
  ascending : attempts.Pairwise fun earlier later =>
    Text.Utf8.bytes earlier.document.uri < Text.Utf8.bytes later.document.uri
  complete : ∀ document, document ∈ attempts.map Attempt.document ↔
    session.openDocuments.get? document.uri = some document
  alone : ∀ attempt ∈ attempts,
    let checked := (session.configured settings).lint host attempt.document attempt.before
    attempt.result = checked.1 ∧
      after.engine.sink.shown.get? attempt.document.uri =
        checked.2.1.engine.sink.shown.get? attempt.document.uri
  failed : ∀ attempt ∈ attempts, ∀ failure, attempt.result = .error failure →
    after.engine.sink.shown.get? attempt.document.uri = session.engine.sink.shown.get? attempt.document.uri
  closed : ∀ uri, session.openDocuments.get? uri = none →
    after.engine.sink.shown.get? uri = session.engine.sink.shown.get? uri
  succeeds : ∀ outcomes, result = .ok outcomes ↔ attempts.map Attempt.result = outcomes.map .ok
  fails : ∀ failure, result = .error failure ↔ ∃ attempt ∈ attempts, attempt.result = .error failure ∧
    ∀ other ∈ attempts, Text.Utf8.bytes other.document.uri < Text.Utf8.bytes attempt.document.uri →
      ∃ outcome, other.result = .ok outcome

/-- When the checks are in the order of their URIs, the first that fails is the one with the smallest URI. -/
theorem mapM_result_error_iff_of_ascending (attempts : List (Attempt σ))
    (ascending : attempts.Pairwise fun earlier later =>
      Text.Utf8.bytes earlier.document.uri < Text.Utf8.bytes later.document.uri) (failure : Failure) :
    attempts.mapM Attempt.result = .error failure ↔
      ∃ attempt ∈ attempts, attempt.result = .error failure ∧
        ∀ other ∈ attempts, Text.Utf8.bytes other.document.uri < Text.Utf8.bytes attempt.document.uri →
          ∃ outcome, other.result = .ok outcome := by
  rw [mapM_error_iff]
  constructor
  · rintro ⟨earlier, attempt, later, split, fails, succeeded⟩
    subst split
    refine ⟨attempt, List.mem_append_cons_self, fails, ?_⟩
    intro other isMember isBelow
    obtain ⟨_, fromAttempt, _⟩ := List.pairwise_append.1 ascending
    have behind := (List.pairwise_cons.1 fromAttempt).1
    rcases List.mem_append.1 isMember with isEarlier | isRest
    · exact succeeded other isEarlier
    · rcases List.mem_cons.1 isRest with same | isLater
      · subst same
        exact absurd isBelow (List.lt_irrefl _)
      · exact absurd isBelow (List.lt_asymm (behind other isLater))
  · rintro ⟨attempt, isMember, fails, succeeded⟩
    obtain ⟨earlier, later, split⟩ := List.append_of_mem isMember
    refine ⟨earlier, attempt, later, split, fails, ?_⟩
    intro other isEarlier
    rw [split] at ascending succeeded
    obtain ⟨_, _, before⟩ := List.pairwise_append.1 ascending
    exact succeeded other (List.mem_append_left _ isEarlier)
      (before other isEarlier attempt List.mem_cons_self)

section

variable (session : Session τ) {changedSection : String} (affects : affectsSettings changedSection = true)
  (settings : Option Settings)

include affects

theorem due_reconfigured :
    session.due (.configurationChanged changedSection settings) = session.openDocuments.values :=
  if_pos affects

theorem prepare_reconfigured :
    session.prepare (.configurationChanged changedSection settings) = session.configured settings := by
  simp only [prepare, configured, adopted, if_pos affects]

theorem handle_reconfigured [Sink τ] (host : Host σ) (world : World σ) :
    SameButLog (session.handle host (.configurationChanged changedSection settings) world)
      (lintAll host session.openDocuments.values (session.configured settings) world) := by
  have handled := session.handle_same_lintAll host (.configurationChanged changedSection settings) world
  rwa [session.due_reconfigured affects, session.prepare_reconfigured affects] at handled

theorem attempts_reconfigured [Sink τ] (host : Host σ) (world : World σ) :
    session.attempts host (.configurationChanged changedSection settings) world =
      attemptsBy (fun engine => engine.lint host) session.openDocuments.values (session.configured settings)
        world := by
  rw [attempts_eq, session.due_reconfigured affects, session.prepare_reconfigured affects]

theorem documents_reconfigured [Sink τ] (host : Host σ) (world : World σ) :
    (session.attempts host (.configurationChanged changedSection settings) world).map Attempt.document =
      session.openDocuments.values := by
  rw [map_document_attempts, session.due_reconfigured affects]

theorem result_reconfigured [Sink τ] (host : Host σ) (world : World σ) :
    (session.handle host (.configurationChanged changedSection settings) world).1 =
      (session.attempts host (.configurationChanged changedSection settings) world).mapM Attempt.result := by
  rw [(session.handle_reconfigured affects settings host world).1, lintAll_eq_lintAllBy, lintAllBy_result,
    session.attempts_reconfigured affects]

theorem attempts_ascending [Sink τ] (keyed : session.Keyed) (host : Host σ) (world : World σ) :
    (session.attempts host (.configurationChanged changedSection settings) world).Pairwise
      fun earlier later => Text.Utf8.bytes earlier.document.uri < Text.Utf8.bytes later.document.uri := by
  have uriOrder := session.openDocuments.values_ascending Document.uri keyed
  rw [← session.documents_reconfigured affects settings host world, List.pairwise_map] at uriOrder
  exact uriOrder.imp fun below => (Text.Utf8.bytes_lt_iff _ _).2 below

end

theorem Keyed.reconfigured {session : Session Collection} (keyed : session.Keyed) {changedSection : String}
    (affects : affectsSettings changedSection = true) (settings : Option Settings) (host : Host σ)
    (world : World σ) :
    let event := Event.configurationChanged changedSection settings
    Reconfigured host settings session (session.attempts host event world)
      (session.handle host event world).1 (session.handle host event world).2.1 := by
  intro event
  have sameSession := (session.handle_reconfigured affects settings host world).2.1
  have ascending := session.attempts_ascending affects settings keyed host world
  have alone : ∀ attempt ∈ session.attempts host event world,
      attempt.result = ((session.configured settings).lint host attempt.document attempt.before).1 ∧
        AgreeOn attempt.document.uri (session.handle host event world).2.1
          ((session.configured settings).lint host attempt.document attempt.before).2.1 := by
    intro attempt isMember
    rw [session.attempts_reconfigured affects] at isMember
    rw [sameSession]
    exact attempts_alone host session.openDocuments.values keyed.distinct (session.configured settings) world
      attempt isMember
  constructor
  case installed =>
    rw [settings_handle, session.prepare_reconfigured affects]
    rfl
  case ascending => exact ascending
  case complete =>
    intro document
    rw [session.documents_reconfigured affects]
    exact keyed.mem_values_iff document
  case alone =>
    intro attempt isMember
    exact ⟨(alone attempt isMember).1, (alone attempt isMember).2.shown⟩
  case failed =>
    intro attempt isMember failure fails
    obtain ⟨result, agree⟩ := alone attempt isMember
    rw [agree.shown, engine_lint_of_error host _ _ _ failure (result.symm.trans fails)]
    rfl
  case closed =>
    intro uri isClosed
    have untouched := lintAll_others host session.openDocuments.values (session.configured settings) world uri
    rw [sameSession]
    refine (untouched ?_).shown
    intro document isOpen same
    rw [keyed.mem_values_iff, same, isClosed] at isOpen
    cases isOpen
  case succeeds =>
    rw [session.result_reconfigured affects]
    exact mapM_ok_iff Attempt.result _
  case fails =>
    rw [session.result_reconfigured affects]
    exact mapM_result_error_iff_of_ascending _ ascending

/-- In every session that a new one can become, a change of the configuration does what it has to, in whatever
order the open documents are listed and whichever of their checks fail.  The checks are written down while the
event is handled. -/
theorem fresh_reconfigured [Sink τ] (host : Host σ) (initial : Settings) (projectRoot : Path) (sink : τ)
    (events : List Event) (changedSection : String) (affects : IsSettingsSection changedSection)
    (settings : Option Settings) (world later : World σ) :
    let event := Event.configurationChanged changedSection settings
    let anywhere := (fresh host initial projectRoot sink events world).1
    let session := (fresh host initial projectRoot Collection.empty events world).1
    (∀ listed, listed.Perm anywhere.openDocuments.values →
        anywhere.reconfigure host listed changedSection settings later = anywhere.handle host event later) ∧
      session.handleBy (Checker.noted id fun engine => engine.lint host) event (later.beside []) =
        beside (session.attempts host event later) (session.handle host event later) ∧
      Reconfigured host settings session (session.attempts host event later)
        (session.handle host event later).1 (session.handle host event later).2.1 := by
  intro event anywhere session
  have anywhereKeyed : anywhere.Keyed := run_keyed host events _ _ (start_keyed _)
  have keyed : session.Keyed := run_keyed host events _ _ (start_keyed _)
  refine ⟨?_, session.handle_attempts host event later, ?_⟩
  · intro listed isListing
    exact anywhereKeyed.reconfigure_eq_handle host listed isListing changedSection settings later
  · exact keyed.reconfigured ((affectsSettings_iff changedSection).2 affects) settings host later

/-! ### Two documents of which one fails -/

def quietSettings : Settings := Settings.ofList [("lintOnOpen", .boolean false)]

def documentsInOpeningOrder : List Document :=
  [templateAt "file:///b.yaml" 1, templateAt "file:///a.yaml" 1]

def openedQuietly : Session Collection :=
  (fresh countingHost quietSettings (Path.ofString "/") Collection.empty (documentsInOpeningOrder.map .opened)
    ⟨0, []⟩).1

/-- The document that fails is checked last, although it was opened first and is listed first. -/
theorem reconfigured_beside_failing_document :
    let event := Event.configurationChanged "cfnlint" (some Settings.empty)
    let attempts := openedQuietly.attempts countingHost event ⟨0, []⟩
    let handled := openedQuietly.handle countingHost event ⟨0, []⟩
    IsSettingsSection "cfnlint" ∧ documentsInOpeningOrder.Perm openedQuietly.openDocuments.values ∧
      openedQuietly.reconfigure countingHost documentsInOpeningOrder "cfnlint" (some Settings.empty) ⟨0, []⟩ =
        handled ∧
      (attempts.map fun attempt => (attempt.document.uri, attempt.before.state, attempt.result.toBool)) =
        [("file:///a.yaml", 0, true), ("file:///b.yaml", 1, false)] ∧
      Reconfigured countingHost (some Settings.empty) openedQuietly attempts handled.1 handled.2.1 := by
  intro event attempts handled
  have affects : IsSettingsSection "cfnlint" := Or.inl rfl
  have isListing : documentsInOpeningOrder.Perm openedQuietly.openDocuments.values := by decide +kernel
  obtain ⟨canonical, _, reconfigured⟩ := fresh_reconfigured countingHost quietSettings (Path.ofString "/")
    Collection.empty (documentsInOpeningOrder.map .opened) "cfnlint" affects (some Settings.empty) ⟨0, []⟩ ⟨0, []⟩
  exact ⟨affects, isListing, canonical documentsInOpeningOrder isListing, by decide +kernel, reconfigured⟩

end Session

end TemplateLint
