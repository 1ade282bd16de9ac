import TemplateLint.Proofs.Session.Chronicle
import TemplateLint.Proofs.Session.Isolation

set_option autoImplicit false

/-!
Which changes of a document are passed over.

A version counts as checked as soon as its check is started.  A check that fails is therefore not made again when
the same version is reported once more.
-/

namespace TemplateLint

variable {σ τ : Type}

def hasSucceeded (uri : String) (version : Int) : List Incident → Bool
  | [] => false
  | .checked document (.ok _) :: earlier =>
      (uri == document.uri && version == document.version) || hasSucceeded uri version earlier
  | .arrived (.closed other) :: earlier => uri != other && hasSucceeded uri version earlier
  | _ :: earlier => hasSucceeded uri version earlier

/-- The version of the last check of a document since the document was closed last, whatever came of it. -/
def lastAttempted (uri : String) (past : List Incident) : Option Int :=
  lastCheckedVersion uri (past.map Incident.happening)

namespace Session

/-- A change is passed over when changes are to be checked and this one is not. -/
def PassesOver [Sink τ] (host : Host σ) (session : Session τ) (document : Document) (world : World σ) : Prop :=
  session.engine.settings.lintOnChange = true ∧ session.attempts host (.changed document) world = []

theorem attempts_eq_nil_iff [Sink τ] (host : Host σ) (session : Session τ) (event : Event) (world : World σ) :
    session.attempts host event world = [] ↔ session.due event = [] := by
  rw [← map_document_attempts host session event world, List.map_eq_nil_iff]

theorem passesOver_iff [Sink τ] (host : Host σ) (session : Session τ) (document : Document) (world : World σ) :
    session.PassesOver host document world ↔ session.engine.settings.lintOnChange = true ∧
      session.lastVersions.get? document.uri = some document.version := by
  unfold PassesOver
  rw [attempts_eq_nil_iff]
  constructor
  · rintro ⟨isOn, nothingDue⟩
    refine ⟨isOn, ?_⟩
    apply Decidable.byContradiction
    intro isNew
    simp only [due, isOn, Bool.not_true, Bool.false_eq_true, if_false, if_neg isNew, reduceCtorEq] at nothingDue
  · rintro ⟨isOn, isKnown⟩
    refine ⟨isOn, ?_⟩
    simp only [due, isOn, Bool.not_true, Bool.false_eq_true, if_false, if_pos isKnown]

theorem run_lastVersions [Sink τ] (host : Host σ) (events : List Event) (engine : Engine τ) (world : World σ)
    (uri : String) :
    (run host events (start engine) world).1.lastVersions.get? uri =
      lastAttempted uri (chronicle host [] events (start engine) world) := by
  have reflects := run_chronicled host
    (fun session past => Reflects engine.settings session (past.map Incident.happening))
    (fun _ _ event holds => holds.prepare event)
    (fun _ _ document world holds => holds.lint host document world)
    events (start engine) [] world (start_reflects engine)
  exact reflects.lastVersion uri

/-! ### Versions that were just checked -/

theorem lastVersion_lintAll [Sink τ] (host : Host σ) (documents : List Document)
    (distinct : documents.Pairwise fun left right => left.uri ≠ right.uri) (session : Session τ)
    (world : World σ) (document : Document) (isMember : document ∈ documents) :
    (lintAll host documents session world).2.1.lastVersions.get? document.uri = some document.version := by
  refine lintAll_brings_about host (fun _ => True)
    (fun after => after.lastVersions.get? document.uri = some document.version) document (fun _ _ _ => id) ?_ ?_
    documents distinct isMember session world trivial
  · intro before _ _
    exact SortedMap.get?_put_self before.lastVersions document.uri document.version
  · intro other before _ different known
    exact (SortedMap.get?_put_of_ne before.lastVersions other.uri document.uri other.version different).trans known

theorem Keyed.lastVersion_handle [Sink τ] {session : Session τ} (keyed : session.Keyed) (host : Host σ)
    (event : Event) (world : World σ) (attempt : Attempt σ)
    (isMember : attempt ∈ session.attempts host event world) :
    (session.handle host event world).2.1.lastVersions.get? attempt.document.uri =
      some attempt.document.version := by
  have isDue : attempt.document ∈ session.due event := by
    rw [← map_document_attempts host session event world]
    exact List.mem_map_of_mem isMember
  rw [(handle_same_lintAll host session event world).2.1]
  exact lastVersion_lintAll host (session.due event) (keyed.due_distinct event) _ world attempt.document isDue

/-- A change is passed over when the last check of its document was of the same version, be it that this check
failed and no other one of that version succeeded.  Once a check was made, whatever came of it, the next change
with the same version is passed over. -/
theorem passed_over_after_success_iff [Sink τ] (host : Host σ) (engine : Engine τ) (events : List Event)
    (document : Document) (world later : World σ) :
    let session := (run host events (start engine) world).1
    let past := chronicle host [] events (start engine) world
    (session.PassesOver host document later ↔ session.engine.settings.lintOnChange = true ∧
        lastAttempted document.uri past = some document.version) ∧
      ((session.PassesOver host document later → hasSucceeded document.uri document.version past = true) ↔
        ¬ (session.engine.settings.lintOnChange = true ∧
          lastAttempted document.uri past = some document.version ∧
          hasSucceeded document.uri document.version past = false)) ∧
      ∀ event, ∀ attempt ∈ session.attempts host event later,
        attempt.document.uri = document.uri → attempt.document.version = document.version →
          let (_, after, ended) := session.handle host event later
          after.engine.settings.lintOnChange = true → after.PassesOver host document ended := by
  intro session past
  have keyed : session.Keyed := run_keyed host events _ world (start_keyed engine)
  have passedOver : session.PassesOver host document later ↔ session.engine.settings.lintOnChange = true ∧
      lastAttempted document.uri past = some document.version := by
    rw [passesOver_iff, run_lastVersions]
  refine ⟨passedOver, ?_, ?_⟩
  · constructor
    · rintro onlyAfterSuccess ⟨isOn, isKnown, hasFailed⟩
      have succeeded := onlyAfterSuccess (passedOver.2 ⟨isOn, isKnown⟩)
      rw [hasFailed] at succeeded
      cases succeeded
    · intro notOnlyFailed isPassedOver
      obtain ⟨isOn, isKnown⟩ := passedOver.1 isPassedOver
      apply Bool.of_not_eq_false
      intro hasFailed
      exact notOnlyFailed ⟨isOn, isKnown, hasFailed⟩
  · intro event attempt isMember sameUri sameVersion isOn
    have noted := keyed.lastVersion_handle host event later attempt isMember
    rw [sameUri, sameVersion] at noted
    exact (passesOver_iff host _ document _).2 ⟨isOn, noted⟩

/-! ### A change whose check fails -/

def failingTemplate : Document := templateAt "file:///b.yaml" 1

def watchfulEngine : Engine Collection :=
  ⟨Settings.ofList [("lintOnChange", .boolean true)], Path.ofString "/", Collection.empty, SortedMap.empty⟩

theorem passed_over_when_repeated :
    let first := (start watchfulEngine).handle countingHost (.changed failingTemplate) ⟨0, []⟩
    first.1.toBool = false ∧ first.2.1.engine.settings.lintOnChange = true ∧
      first.2.1.PassesOver countingHost failingTemplate first.2.2 := by
  intro first
  have isOn : first.2.1.engine.settings.lintOnChange = true := by
    have unchanged := settings_handle countingHost (start watchfulEngine) (.changed failingTemplate) ⟨0, []⟩
    rw [unchanged]
    decide +kernel
  have documents := map_document_attempts countingHost (start watchfulEngine) (.changed failingTemplate) ⟨0, []⟩
  have isDue : failingTemplate ∈ (start watchfulEngine).due (.changed failingTemplate) := by decide +kernel
  rw [← documents] at isDue
  obtain ⟨attempt, isMember, isFailing⟩ := List.mem_map.1 isDue
  have repeated := (passed_over_after_success_iff countingHost watchfulEngine [] failingTemplate ⟨0, []⟩
    ⟨0, []⟩).2.2 (.changed failingTemplate) attempt isMember (by rw [isFailing]) (by rw [isFailing])
  exact ⟨by decide +kernel, isOn, repeated isOn⟩

/-- A change is passed over although every check of its version has failed. -/
theorem passed_over_after_failure :
    let failed := (run countingHost [.changed failingTemplate] (start watchfulEngine) ⟨0, []⟩).1
    let past := chronicle countingHost [] [.changed failingTemplate] (start watchfulEngine) ⟨0, []⟩
    failed.PassesOver countingHost failingTemplate ⟨1, []⟩ ∧
      hasSucceeded failingTemplate.uri failingTemplate.version past = false := by
  intro failed past
  have evaluated : (failed.engine.settings.lintOnChange = true ∧
      failed.lastVersions.get? failingTemplate.uri = some failingTemplate.version) ∧
        hasSucceeded failingTemplate.uri failingTemplate.version past = false := by decide +kernel
  exact ⟨(passesOver_iff countingHost failed failingTemplate ⟨1, []⟩).2 evaluated.1, evaluated.2⟩

end Session

end TemplateLint
