import TemplateLint.Proofs.Engine.History
import TemplateLint.Proofs.Session.Attempts

set_option autoImplicit false

/-!
Runs of a session, and what every run keeps.
-/

namespace TemplateLint.Session

variable {σ τ : Type}

/-- Handles events in order, whatever comes of them. -/
def run [Sink τ] (host : Host σ) : List Event → Session τ → World σ → Session τ × World σ
  | [], session, world => (session, world)
  | event :: rest, session, world =>
      let (_, session, world) := session.handle host event world
      run host rest session world

def fresh [Sink τ] (host : Host σ) (settings : Settings) (projectRoot : Path) (sink : τ)
    (events : List Event) (world : World σ) : Session τ × World σ :=
  let (engine, world) := Engine.start settings projectRoot sink world
  run host events (start engine) world

/-! ### Steps -/

/-- The first of several checks leaves a world for the others that may differ in its log only. -/
theorem lintAll_cons_eq [Sink τ] (host : Host σ) (document : Document) (rest : List Document)
    (session : Session τ) (world : World σ) :
    ∃ ended : World σ, ended.state = (session.lint host document world).2.2.state ∧
      lintAll host (document :: rest) session world =
        ((session.lint host document world).1.bind fun outcome =>
            (lintAll host rest (session.lint host document world).2.1 ended).1.map (outcome :: ·),
          (lintAll host rest (session.lint host document world).2.1 ended).2) := by
  rw [lintAll]
  rcases session.lint host document world with ⟨result, after, ended⟩
  cases result with
  | error failure =>
      exact ⟨ended.note .error ("Failed to lint " ++ document.uri ++ ": " ++ failure.message), rfl, rfl⟩
  | ok outcome => exact ⟨ended, rfl, rfl⟩

theorem lintAll_cons [Sink τ] (host : Host σ) (document : Document) (rest : List Document)
    (session : Session τ) (world : World σ) :
    ∃ ended : World σ, ended.state = (session.lint host document world).2.2.state ∧
      (lintAll host (document :: rest) session world).2 =
        (lintAll host rest (session.lint host document world).2.1 ended).2 := by
  obtain ⟨ended, sameState, parts⟩ := lintAll_cons_eq host document rest session world
  exact ⟨ended, sameState, by rw [parts]⟩

theorem lintAll_singleton [Sink τ] (host : Host σ) (document : Document) (session : Session τ)
    (world : World σ) :
    (lintAll host [document] session world).1 = (session.lint host document world).1.map ([·]) ∧
      (lintAll host [document] session world).2.1 = (session.lint host document world).2.1 := by
  obtain ⟨ended, _, parts⟩ := lintAll_cons_eq host document [] session world
  rw [parts]
  cases (session.lint host document world).1 with
  | error failure => exact ⟨rfl, rfl⟩
  | ok outcome => exact ⟨rfl, rfl⟩

theorem lintAll_keeps [Sink τ] (host : Host σ) (kept : Session τ → Prop) (documents : List Document)
    (byCheck : ∀ document ∈ documents, ∀ session world,
      kept session → kept (session.lint host document world).2.1)
    (session : Session τ) (world : World σ) (holds : kept session) :
    kept (lintAll host documents session world).2.1 := by
  induction documents generalizing session world with
  | nil => exact holds
  | cons document rest ih =>
      obtain ⟨ended, _, after⟩ := lintAll_cons host document rest session world
      rw [after]
      apply ih
      · intro other inRest
        exact byCheck other (List.mem_cons_of_mem _ inRest)
      · exact byCheck document List.mem_cons_self session world holds

/-- What the check of one document brings about, and the checks of other documents keep, holds after all checks. -/
theorem lintAll_brings_about [Sink τ] (host : Host σ) (before kept : Session τ → Prop) (document : Document)
    (stays : ∀ other session world, before session → before (session.lint host other world).2.1)
    (byOwn : ∀ session world, before session → kept (session.lint host document world).2.1)
    (byOther : ∀ other session world, document.uri ≠ other.uri →
      kept session → kept (session.lint host other world).2.1)
    (documents : List Document) (distinct : documents.Pairwise fun left right => left.uri ≠ right.uri)
    (isMember : document ∈ documents) (session : Session τ) (world : World σ) (holds : before session) :
    kept (lintAll host documents session world).2.1 := by
  induction documents generalizing session world with
  | nil => cases isMember
  | cons first rest ih =>
      obtain ⟨unlike, distinctRest⟩ := List.pairwise_cons.1 distinct
      obtain ⟨ended, _, after⟩ := lintAll_cons host first rest session world
      rw [after]
      rcases List.mem_cons.1 isMember with same | inRest
      · subst same
        -- the checks behind this one are of other documents
        apply lintAll_keeps host kept
        · intro other inRest before beforeWorld
          exact byOther other before beforeWorld (unlike other inRest)
        · exact byOwn session world holds
      · exact ih distinctRest inRest _ ended (stays first session world holds)

/-- What preparing a session brings about and checks keep holds after the event. -/
theorem handle_keeps [Sink τ] (host : Host σ) (kept : Session τ → Prop) (session : Session τ)
    (event : Event) (world : World σ) (prepared : kept (session.prepare event))
    (byCheck : ∀ document ∈ session.due event, ∀ session world,
      kept session → kept (session.lint host document world).2.1) :
    kept (session.handle host event world).2.1 := by
  rw [(handle_same_lintAll host session event world).2.1]
  exact lintAll_keeps host kept (session.due event) byCheck (session.prepare event) world prepared

theorem run_keeps [Sink τ] (host : Host σ) (kept : Session τ → Prop)
    (byEvent : ∀ event session world, kept session → kept (session.handle host event world).2.1)
    (events : List Event) (session : Session τ) (world : World σ) (holds : kept session) :
    kept (run host events session world).1 := by
  induction events generalizing session world with
  | nil => exact holds
  | cons event rest ih => exact ih _ _ (byEvent event session world holds)

/-! ### Open documents -/

theorem handle_openDocuments [Sink τ] (host : Host σ) (session : Session τ) (event : Event)
    (world : World σ) :
    (session.handle host event world).2.1.openDocuments = (session.prepare event).openDocuments :=
  handle_keeps host (fun after => after.openDocuments = (session.prepare event).openDocuments)
    session event world rfl fun _ _ _ _ same => same

def Keyed (session : Session τ) : Prop :=
  ∀ uri document, session.openDocuments.get? uri = some document → document.uri = uri

theorem Keyed.track {session : Session τ} (keyed : session.Keyed) (document : Document) :
    (session.track document).Keyed := by
  intro uri found known
  change (session.openDocuments.put document.uri document).get? uri = some found at known
  rw [SortedMap.get?_put] at known
  by_cases atUri : uri = document.uri
  · rw [if_pos atUri] at known
    cases known
    exact atUri.symm
  · rw [if_neg atUri] at known
    exact keyed uri found known

theorem Keyed.prepare {session : Session τ} (keyed : session.Keyed) (event : Event) :
    (session.prepare event).Keyed := by
  cases event with
  | opened document => exact keyed.track document
  | changed document => exact keyed.track document
  | saved document => exact keyed.track document
  | configurationChanged changedSection settings => exact keyed
  | closed other =>
      intro uri found known
      change (session.openDocuments.erase other).get? uri = some found at known
      rw [SortedMap.get?_erase] at known
      by_cases atUri : uri = other
      · rw [if_pos atUri] at known
        cases known
      · rw [if_neg atUri] at known
        exact keyed uri found known

theorem Keyed.handle [Sink τ] {session : Session τ} (keyed : session.Keyed) (host : Host σ) (event : Event)
    (world : World σ) : (session.handle host event world).2.1.Keyed := by
  intro uri document known
  rw [handle_openDocuments] at known
  exact keyed.prepare event uri document known

theorem start_keyed (engine : Engine τ) : (start engine).Keyed := by
  intro uri document known
  cases known

theorem run_keyed [Sink τ] (host : Host σ) (events : List Event) (session : Session τ) (world : World σ)
    (keyed : session.Keyed) : (run host events session world).1.Keyed := by
  apply run_keeps host Keyed
  · intro event session world holds
    exact holds.handle host event world
  · exact keyed

theorem Keyed.mem_values_iff {session : Session τ} (keyed : session.Keyed) (document : Document) :
    document ∈ session.openDocuments.values ↔ session.openDocuments.get? document.uri = some document :=
  session.openDocuments.mem_values_iff Document.uri keyed document

theorem Keyed.filter_values {session : Session τ} (keyed : session.Keyed) (uri : String) :
    session.openDocuments.values.filter (fun document => document.uri == uri) =
      (session.openDocuments.get? uri).toList :=
  session.openDocuments.filter_values Document.uri keyed uri

theorem Keyed.distinct {session : Session τ} (keyed : session.Keyed) :
    session.openDocuments.values.Pairwise fun left right => left.uri ≠ right.uri := by
  refine (session.openDocuments.values_ascending Document.uri keyed).imp ?_
  intro left right below same
  exact String.lt_irrefl right.uri (same ▸ below)

/-- Whatever an event has checked is open by then. -/
theorem Keyed.due_open {session : Session τ} (keyed : session.Keyed) (event : Event) (document : Document)
    (isDue : document ∈ session.due event) :
    (session.prepare event).openDocuments.get? document.uri = some document := by
  rcases session.due_cases event with nothingDue | ⟨carried, carries, onlyDue⟩ | ⟨_, _, isChange, allDue⟩
  · rw [nothingDue] at isDue
    cases isDue
  · rw [onlyDue, List.mem_singleton] at isDue
    rw [session.prepare_of_document event carried carries, isDue]
    exact session.openDocuments.get?_put_self carried.uri carried
  · rw [allDue] at isDue
    subst isChange
    exact (keyed.mem_values_iff document).1 isDue

theorem Keyed.due_distinct {session : Session τ} (keyed : session.Keyed) (event : Event) :
    (session.due event).Pairwise fun left right => left.uri ≠ right.uri := by
  rcases session.due_cases event with nothingDue | ⟨carried, _, onlyDue⟩ | ⟨_, _, _, allDue⟩
  · rw [nothingDue]
    exact List.Pairwise.nil
  · rw [onlyDue]
    exact List.pairwise_singleton _ carried
  · rw [allDue]
    exact keyed.distinct

/-! ### The engine of a session -/

theorem engine_lint [Sink τ] (host : Host σ) (session : Session τ) (document : Document) (world : World σ) :
    (session.lint host document world).2.1.engine = (session.engine.lint host document world).2.1 := rfl

theorem engine_lint_of_error [Sink τ] (host : Host σ) (session : Session τ) (document : Document)
    (world : World σ) (failure : Failure) (fails : (session.lint host document world).1 = .error failure) :
    (session.lint host document world).2.1.engine = session.engine :=
  Engine.check_of_error host false session.engine document world failure fails

theorem settings_handle [Sink τ] (host : Host σ) (session : Session τ) (event : Event) (world : World σ) :
    (session.handle host event world).2.1.engine.settings = (session.prepare event).engine.settings := by
  apply handle_keeps host (fun after => after.engine.settings = (session.prepare event).engine.settings)
  · rfl
  · intro document _ before beforeWorld same
    rw [engine_lint, (before.engine.lint_eq_survey host document beforeWorld).2.1, Engine.settings_absorb]
    exact same

theorem mirrored_lint (host : Host σ) (session : Session Collection) (document : Document)
    (world : World σ) (mirrored : session.engine.Mirrored) :
    (session.lint host document world).2.1.engine.Mirrored := by
  rw [engine_lint, (session.engine.lint_eq_survey host document world).2.1]
  exact mirrored.absorb document.uri _

theorem mirrored_prepare (session : Session Collection) (event : Event)
    (mirrored : session.engine.Mirrored) : (session.prepare event).engine.Mirrored := by
  cases event with
  | opened document => exact mirrored
  | changed document => exact mirrored
  | saved document => exact mirrored
  | configurationChanged changedSection settings => exact mirrored
  | closed uri => exact mirrored.forget uri

theorem run_mirrored (host : Host σ) (events : List Event) (session : Session Collection) (world : World σ)
    (mirrored : session.engine.Mirrored) : (run host events session world).1.engine.Mirrored := by
  apply run_keeps host (fun session => session.engine.Mirrored)
  · intro event session world holds
    apply handle_keeps host (fun session => session.engine.Mirrored)
    · exact mirrored_prepare session event holds
    · intro document _ session world holds
      exact mirrored_lint host session document world holds
  · exact mirrored

end TemplateLint.Session
