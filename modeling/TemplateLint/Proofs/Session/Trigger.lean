import TemplateLint.Proofs.Session.Recording
import TemplateLint.Proofs.Session.Run

set_option autoImplicit false

/-!
Which checks an event starts, told from what happened before.

A history lists the events of a session and the checks they started, the latest first.  What a session holds is
what its history says, and what an event starts is prescribed by the history alone.
-/

namespace TemplateLint

variable {σ τ : Type}

/-! ### Sections -/

def IsSettingsSection (name : String) : Prop :=
  name = "cfnlint" ∨ ∃ below : String, name = "cfnlint." ++ below

theorem affectsSettings_iff (name : String) : affectsSettings name = true ↔ IsSettingsSection name := by
  constructor
  · intro affects
    unfold affectsSettings at affects
    split at affects
    · rename_i found
      have text := (afterStart?_eq_some_iff _ _ _).1 found
      exact Or.inl (String.toList_inj.1 (text.trans (List.append_nil _)))
    · rename_i c below found
      have text := (afterStart?_eq_some_iff _ _ _).1 found
      have isDot : c = '.' := eq_of_beq affects
      subst isDot
      refine Or.inr ⟨String.ofList below, String.toList_inj.1 ?_⟩
      simp [text, settingsSection]
    · cases affects
  · intro inside
    rcases inside with same | ⟨below, same⟩
    · subst same
      rfl
    · have found : afterStart? settingsSection.toList name.toList = some ('.' :: below.toList) := by
        rw [afterStart?_eq_some_iff, same, String.toList_append]
        rfl
      simp only [affectsSettings, found, beq_self_eq_true]

instance (name : String) : Decidable (IsSettingsSection name) :=
  decidable_of_iff (affectsSettings name = true) (affectsSettings_iff name)

/-! ### Histories -/

inductive Happening where
  | arrived (event : Event)
  | checked (document : Document)

/-- The settings after a history: those carried last by a change of their section. -/
def currentSettings (initial : Settings) : List Happening → Settings
  | [] => initial
  | .arrived (.configurationChanged changedSection (some settings)) :: earlier =>
      if IsSettingsSection changedSection then settings else currentSettings initial earlier
  | _ :: earlier => currentSettings initial earlier

/-- The revision of a document after a history, unless the document is closed: the one carried last. -/
def currentRevision (uri : String) : List Happening → Option Document
  | [] => none
  | .arrived (.closed other) :: earlier => if uri = other then none else currentRevision uri earlier
  | .arrived event :: earlier =>
      match event.document? with
      | some document => if uri = document.uri then some document else currentRevision uri earlier
      | none => currentRevision uri earlier
  | .checked _ :: earlier => currentRevision uri earlier

def lastCheckedVersion (uri : String) : List Happening → Option Int
  | [] => none
  | .checked document :: earlier =>
      if uri = document.uri then some document.version else lastCheckedVersion uri earlier
  | .arrived (.closed other) :: earlier => if uri = other then none else lastCheckedVersion uri earlier
  | .arrived _ :: earlier => lastCheckedVersion uri earlier

/-- The checks that an event has to start after a history. -/
def Prescribed (initial : Settings) (history : List Happening) : Event → List Document → Prop
  | .opened document, started =>
      started = if (currentSettings initial history).lintOnOpen then [document] else []
  | .changed document, started =>
      started =
        if (currentSettings initial history).lintOnChange ∧
            lastCheckedVersion document.uri history ≠ some document.version then [document]
        else []
  | .saved document, started =>
      started = if (currentSettings initial history).lintOnSave then [document] else []
  | .configurationChanged changedSection _, started =>
      if IsSettingsSection changedSection then
        -- every current revision once, and nothing else
        ∀ document, started.count document =
          if currentRevision document.uri history = some document then 1 else 0
      else started = []
  | .closed _, started => started = []

def extended (history : List Happening) (event : Event) (started : List Document) : List Happening :=
  started.foldl (fun earlier document => .checked document :: earlier) (.arrived event :: history)

namespace Session

def history [Sink τ] (host : Host σ) :
    List Happening → List Event → Session τ → World σ → List Happening
  | earlier, [], _, _ => earlier
  | earlier, event :: rest, session, world =>
      let started := session.started host event world
      let (_, session, world) := session.handle host event world
      history host (extended earlier event started) rest session world

/-- What a session holds is what its history says. -/
structure Reflects (initial : Settings) (session : Session τ) (history : List Happening) : Prop where
  settings : session.engine.settings = currentSettings initial history
  openDocument : ∀ uri, session.openDocuments.get? uri = currentRevision uri history
  lastVersion : ∀ uri, session.lastVersions.get? uri = lastCheckedVersion uri history

theorem start_reflects (engine : Engine τ) : Reflects engine.settings (start engine) [] :=
  ⟨rfl, fun _ => rfl, fun _ => rfl⟩

variable {initial : Settings} {session : Session τ} {past : List Happening}

theorem Reflects.prepare (reflects : Reflects initial session past) (event : Event) :
    Reflects initial (session.prepare event) (.arrived event :: past) := by
  have tracked : ∀ document uri, (session.track document).openDocuments.get? uri =
      if uri = document.uri then some document else currentRevision uri past := by
    intro document uri
    rw [← reflects.openDocument]
    exact session.openDocuments.get?_put document.uri uri document
  cases event with
  | opened document => exact ⟨reflects.settings, tracked document, reflects.lastVersion⟩
  | changed document => exact ⟨reflects.settings, tracked document, reflects.lastVersion⟩
  | saved document => exact ⟨reflects.settings, tracked document, reflects.lastVersion⟩
  | configurationChanged changedSection settings =>
      refine ⟨?_, reflects.openDocument, reflects.lastVersion⟩
      change adopted session.engine.settings changedSection settings = _
      rw [reflects.settings]
      cases settings with
      | none =>
          -- without settings in the event the section does not matter
          change (if affectsSettings changedSection then currentSettings initial past
            else currentSettings initial past) = currentSettings initial past
          exact ite_self _
      | some settings => simp only [adopted, currentSettings, affectsSettings_iff, Option.getD_some]
  | closed other =>
      refine ⟨reflects.settings, ?_, ?_⟩
      · intro uri
        rw [currentRevision, ← reflects.openDocument]
        exact session.openDocuments.get?_erase other uri
      · intro uri
        rw [lastCheckedVersion, ← reflects.lastVersion]
        exact session.lastVersions.get?_erase other uri

/-- A check notes the version of its document, whatever comes of it. -/
theorem Reflects.lint [Sink τ] (reflects : Reflects initial session past) (host : Host σ)
    (document : Document) (world : World σ) :
    Reflects initial (session.lint host document world).2.1 (.checked document :: past) := by
  refine ⟨?_, reflects.openDocument, ?_⟩
  · rw [engine_lint, (session.engine.lint_eq_survey host document world).2.1, Engine.settings_absorb]
    exact reflects.settings
  · intro uri
    rw [lastCheckedVersion, ← reflects.lastVersion]
    exact session.lastVersions.get?_put document.uri uri document.version

theorem Reflects.lintAll [Sink τ] (reflects : Reflects initial session past) (host : Host σ)
    (documents : List Document) (world : World σ) :
    Reflects initial (Session.lintAll host documents session world).2.1
      (documents.foldl (fun earlier document => .checked document :: earlier) past) := by
  induction documents generalizing session past world with
  | nil => exact reflects
  | cons document rest ih =>
      obtain ⟨ended, _, after⟩ := lintAll_cons host document rest session world
      rw [after]
      exact ih (reflects.lint host document world) ended

theorem Reflects.handle [Sink τ] (reflects : Reflects initial session past) (host : Host σ) (event : Event)
    (world : World σ) :
    Reflects initial (session.handle host event world).2.1
      (extended past event (session.started host event world)) := by
  rw [(handle_same_lintAll host session event world).2.1, started_eq_due]
  exact (reflects.prepare event).lintAll host (session.due event) world

theorem Reflects.run [Sink τ] (reflects : Reflects initial session past) (host : Host σ)
    (events : List Event) (world : World σ) :
    Reflects initial (Session.run host events session world).1 (history host past events session world) := by
  induction events generalizing session past world with
  | nil => exact reflects
  | cons event rest ih => exact ih (reflects.handle host event world) _

/-- Each current revision is among the open documents once. -/
theorem Reflects.count_values (reflects : Reflects initial session past) (keyed : session.Keyed)
    (document : Document) :
    session.openDocuments.values.count document =
      if currentRevision document.uri past = some document then 1 else 0 := by
  have onlyItsUri : session.openDocuments.values.count document =
      (session.openDocuments.values.filter fun other => other.uri == document.uri).count document :=
    (List.count_filter (p := fun other : Document => other.uri == document.uri) (beq_self_eq_true _)).symm
  rw [onlyItsUri, keyed.filter_values, reflects.openDocument]
  cases currentRevision document.uri past with
  | none => rfl
  | some current => simp [List.count_singleton]

theorem Reflects.prescribed (reflects : Reflects initial session past) (keyed : session.Keyed)
    (event : Event) : Prescribed initial past event (session.due event) := by
  cases event with
  | opened document => simp only [Prescribed, due, reflects.settings]
  | changed document =>
      simp only [Prescribed, due, reflects.settings, reflects.lastVersion]
      by_cases isOn : (currentSettings initial past).lintOnChange
      · simp only [isOn, Bool.not_true, Bool.false_eq_true, if_false, true_and, ne_eq, ite_not]
      · simp only [isOn, Bool.not_false, Bool.false_eq_true, if_true, false_and, if_false]
  | saved document => simp only [Prescribed, due, reflects.settings]
  | configurationChanged changedSection settings =>
      simp only [Prescribed, due, affectsSettings_iff]
      split
      · exact reflects.count_values keyed
      · rfl
  | closed uri => rfl

/-- An event of a session starts the checks that the events and checks before it prescribe, and no others.
The checks are written down while the event is handled, in a record that leaves everything else as it is. -/
theorem run_starts_prescribed [Sink τ] (host : Host σ) (engine : Engine τ) (events : List Event)
    (event : Event) (world : World σ) :
    let (session, ended) := run host events (start engine) world
    let started := session.started host event ended
    session.handleBy (Checker.recorded fun engine => engine.lint host) event (ended.withRecord []) =
        withRecord started (session.handle host event ended) ∧
      Prescribed engine.settings (history host [] events (start engine) world) event started := by
  refine ⟨handle_started host _ event _, ?_⟩
  rw [started_eq_due]
  apply Reflects.prescribed
  · exact (start_reflects engine).run host events world
  · exact run_keyed host events (start engine) world (start_keyed engine)

end Session

end TemplateLint
