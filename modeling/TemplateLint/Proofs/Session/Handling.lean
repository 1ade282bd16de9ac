import TemplateLint.Session

set_option autoImplicit false

/-!
What handling an event does, one step after the other.

The way in which documents are checked is a parameter here.  Whatever it is, an event first prepares the
session and then checks the documents that are due, in order and past those that fail.
-/

namespace TemplateLint

variable {σ τ : Type}

abbrev Checker (σ τ : Type) : Type :=
  Engine τ → Document → World σ → Except Failure Outcome × Engine τ × World σ

def Event.document? : Event → Option Document
  | .opened document => some document
  | .changed document => some document
  | .saved document => some document
  | _ => none

namespace Session

/-! ### Handling with any checker -/

def lintBy (check : Checker σ τ) (session : Session τ) (document : Document) (world : World σ) :
    Except Failure Outcome × Session τ × World σ :=
  let versions := session.lastVersions.put document.uri document.version
  let (result, engine, world) := check session.engine document world
  (result, { session with engine := engine, lastVersions := versions }, world)

def lintOneBy (check : Checker σ τ) (session : Session τ) (document : Document) (world : World σ) :
    Except Failure (List Outcome) × Session τ × World σ :=
  match session.lintBy check document world with
  | (.error failure, session, world) => (.error failure, session, world)
  | (.ok outcome, session, world) => (.ok [outcome], session, world)

def lintAllBy (check : Checker σ τ) :
    List Document → Session τ → World σ → Except Failure (List Outcome) × Session τ × World σ
  | [], session, world => (.ok [], session, world)
  | document :: rest, session, world =>
      match session.lintBy check document world with
      | (.error failure, session, world) =>
          let world :=
            world.note .error ("Failed to lint " ++ document.uri ++ ": " ++ failure.message)
          let (_, session, world) := lintAllBy check rest session world
          (.error failure, session, world)
      | (.ok outcome, session, world) =>
          let (others, session, world) := lintAllBy check rest session world
          (others.map (outcome :: ·), session, world)

def handleBy (check : Checker σ τ) (session : Session τ) (event : Event) (world : World σ) :
    Except Failure (List Outcome) × Session τ × World σ :=
  match event with
  | .opened document =>
      let session := session.track document
      if session.engine.settings.lintOnOpen then session.lintOneBy check document world
      else (.ok [], session, world)
  | .changed document =>
      let session := session.track document
      if !session.engine.settings.lintOnChange then (.ok [], session, world)
      else if session.lastVersions.get? document.uri = some document.version then
        (.ok [], session,
          world.note .debug
            ("Skipping " ++ document.uri ++ ": version " ++ toString document.version ++ " already linted"))
      else session.lintOneBy check document world
  | .saved document =>
      let session := session.track document
      if session.engine.settings.lintOnSave then session.lintOneBy check document world
      else (.ok [], session, world)
  | .configurationChanged changedSection settings =>
      if !affectsSettings changedSection then (.ok [], session, world)
      else
        let session :=
          match settings with
          | some settings => { session with engine := session.engine.setSettings settings }
          | none => session
        lintAllBy check session.openDocuments.values session world
  | .closed uri =>
      (.ok [],
        { session with
          engine := session.engine.forget uri
          openDocuments := session.openDocuments.erase uri
          lastVersions := session.lastVersions.erase uri },
        world)

theorem lintAll_eq_lintAllBy [Sink τ] (host : Host σ) (documents : List Document) (session : Session τ)
    (world : World σ) :
    lintAll host documents session world =
      lintAllBy (fun engine => engine.lint host) documents session world := by
  induction documents generalizing session world with
  | nil => rfl
  | cons document rest ih =>
      simp only [lintAll, lintAllBy, ih]
      rfl

/-- A session checks documents with its engine and in no other way. -/
theorem handle_eq_handleBy [Sink τ] (host : Host σ) (session : Session τ) (event : Event)
    (world : World σ) :
    session.handle host event world = session.handleBy (fun engine => engine.lint host) event world := by
  cases event with
  | configurationChanged changedSection settings =>
      exact ite_congr rfl (fun _ => rfl) fun _ => lintAll_eq_lintAllBy host _ _ world
  | _ => rfl

/-! ### Preparing and checking -/

def adopted (current : Settings) (changedSection : String) (settings : Option Settings) : Settings :=
  if affectsSettings changedSection then settings.getD current else current

/-- The session before the checks of an event: what the event says of documents and settings is noted. -/
def prepare (session : Session τ) : Event → Session τ
  | .opened document => session.track document
  | .changed document => session.track document
  | .saved document => session.track document
  | .configurationChanged changedSection settings =>
      { session with
        engine := session.engine.setSettings (adopted session.engine.settings changedSection settings) }
  | .closed uri =>
      { session with
        engine := session.engine.forget uri
        openDocuments := session.openDocuments.erase uri
        lastVersions := session.lastVersions.erase uri }

def due (session : Session τ) : Event → List Document
  | .opened document => if session.engine.settings.lintOnOpen then [document] else []
  | .changed document =>
      if !session.engine.settings.lintOnChange then []
      else if session.lastVersions.get? document.uri = some document.version then []
      else [document]
  | .saved document => if session.engine.settings.lintOnSave then [document] else []
  | .configurationChanged changedSection _ =>
      if affectsSettings changedSection then session.openDocuments.values else []
  | .closed _ => []

theorem prepare_of_document (session : Session τ) (event : Event) (document : Document)
    (carries : event.document? = some document) : session.prepare event = session.track document := by
  cases event with
  | opened other => cases carries; rfl
  | changed other => cases carries; rfl
  | saved other => cases carries; rfl
  | configurationChanged changedSection settings => cases carries
  | closed uri => cases carries

/-- Nothing is due, or the revision that the event carries, or every open document. -/
theorem due_cases (session : Session τ) (event : Event) :
    session.due event = [] ∨
      (∃ document, event.document? = some document ∧ session.due event = [document]) ∨
      ∃ changedSection settings, event = .configurationChanged changedSection settings ∧
        session.due event = session.openDocuments.values := by
  cases event with
  | opened document =>
      by_cases isOn : session.engine.settings.lintOnOpen
      · exact Or.inr (Or.inl ⟨document, rfl, if_pos isOn⟩)
      · exact Or.inl (if_neg isOn)
  | changed document =>
      simp only [due]
      split
      · exact Or.inl rfl
      · split
        · exact Or.inl rfl
        · exact Or.inr (Or.inl ⟨document, rfl, rfl⟩)
  | saved document =>
      by_cases isOn : session.engine.settings.lintOnSave
      · exact Or.inr (Or.inl ⟨document, rfl, if_pos isOn⟩)
      · exact Or.inl (if_neg isOn)
  | configurationChanged changedSection settings =>
      by_cases affects : affectsSettings changedSection
      · exact Or.inr (Or.inr ⟨changedSection, settings, rfl, if_pos affects⟩)
      · exact Or.inl (if_neg affects)
  | closed uri => exact Or.inl rfl

/-- The ways in which an event is handled: no document is checked, one is, or all that are due are, past those
that fail.  The checker has no part in which of these it is. -/
inductive Handled (session : Session τ) (event : Event) : Prop where
  | idle (records : List LogRecord) (nothingDue : session.due event = [])
      (handled : ∀ {σ : Type} (check : Checker σ τ) (world : World σ),
        session.handleBy check event world = (.ok [], session.prepare event, world.noteAll records))
  | single (document : Document) (onlyDue : session.due event = [document])
      (handled : ∀ {σ : Type} (check : Checker σ τ) (world : World σ),
        session.handleBy check event world = (session.prepare event).lintOneBy check document world)
  | several
      (handled : ∀ {σ : Type} (check : Checker σ τ) (world : World σ),
        session.handleBy check event world = lintAllBy check (session.due event) (session.prepare event) world)

theorem handled (session : Session τ) (event : Event) : session.Handled event := by
  cases event with
  | opened document =>
      by_cases isOn : session.engine.settings.lintOnOpen
      · apply Handled.single document
        · simp only [due, isOn, if_true]
        · intro σ check world
          simp only [handleBy, prepare, track, isOn, if_true]
      · apply Handled.idle []
        · simp only [due, isOn, Bool.false_eq_true, if_false]
        · intro σ check world
          simp only [handleBy, prepare, track, isOn, Bool.false_eq_true, if_false, World.noteAll_nil]
  | changed document =>
      by_cases isOn : session.engine.settings.lintOnChange
      · by_cases isKnown : session.lastVersions.get? document.uri = some document.version
        · apply Handled.idle [_]
          · simp only [due, isOn, isKnown, Bool.not_true, Bool.false_eq_true, if_false, if_true]
          · intro σ check world
            simp only [handleBy, prepare, track, isOn, isKnown, Bool.not_true, Bool.false_eq_true, if_false,
              if_true]
            rfl
        · apply Handled.single document
          · simp only [due, isOn, isKnown, Bool.not_true, Bool.false_eq_true, if_false]
          · intro σ check world
            simp only [handleBy, prepare, track, isOn, isKnown, Bool.not_true, Bool.false_eq_true, if_false]
      · apply Handled.idle []
        · simp only [due, isOn, Bool.not_false, if_true]
        · intro σ check world
          simp only [handleBy, prepare, track, isOn, Bool.not_false, if_true, World.noteAll_nil]
  | saved document =>
      by_cases isOn : session.engine.settings.lintOnSave
      · apply Handled.single document
        · simp only [due, isOn, if_true]
        · intro σ check world
          simp only [handleBy, prepare, track, isOn, if_true]
      · apply Handled.idle []
        · simp only [due, isOn, Bool.false_eq_true, if_false]
        · intro σ check world
          simp only [handleBy, prepare, track, isOn, Bool.false_eq_true, if_false, World.noteAll_nil]
  | configurationChanged changedSection settings =>
      by_cases affects : affectsSettings changedSection
      · apply Handled.several
        intro σ check world
        simp only [handleBy, due, prepare, adopted, affects, Bool.not_true, Bool.false_eq_true, if_false,
          if_true]
        cases settings with
        | none => rfl
        | some settings => rfl
      · apply Handled.idle []
        · simp only [due, affects, Bool.false_eq_true, if_false]
        · intro σ check world
          simp only [handleBy, prepare, adopted, affects, Bool.not_false, Bool.false_eq_true, if_true, if_false,
            World.noteAll_nil]
          rfl
  | closed uri =>
      apply Handled.idle []
      · rfl
      · intro σ check world
        rw [World.noteAll_nil]
        rfl

/-! ### The log apart -/

def SameButLog {α : Type} (left right : α × Session τ × World σ) : Prop :=
  left.1 = right.1 ∧ left.2.1 = right.2.1 ∧ left.2.2.state = right.2.2.state

theorem lintOneBy_same_lintAllBy (check : Checker σ τ) (session : Session τ) (document : Document)
    (world : World σ) :
    SameButLog (session.lintOneBy check document world) (lintAllBy check [document] session world) := by
  simp only [lintOneBy, lintAllBy]
  rcases session.lintBy check document world with ⟨result, after, ended⟩
  cases result with
  | error failure => exact ⟨rfl, rfl, rfl⟩
  | ok outcome => exact ⟨rfl, rfl, rfl⟩

/-- Handling an event is preparing the session and checking what is due. -/
theorem handleBy_same_lintAllBy (check : Checker σ τ) (session : Session τ) (event : Event)
    (world : World σ) :
    SameButLog (session.handleBy check event world)
      (lintAllBy check (session.due event) (session.prepare event) world) := by
  cases session.handled event with
  | idle records nothingDue handled =>
      rw [handled, nothingDue]
      exact ⟨rfl, rfl, rfl⟩
  | single document onlyDue handled =>
      rw [handled, onlyDue]
      exact lintOneBy_same_lintAllBy check (session.prepare event) document world
  | several handled =>
      rw [handled]
      exact ⟨rfl, rfl, rfl⟩

theorem handle_same_lintAll [Sink τ] (host : Host σ) (session : Session τ) (event : Event)
    (world : World σ) :
    SameButLog (session.handle host event world)
      (lintAll host (session.due event) (session.prepare event) world) := by
  rw [handle_eq_handleBy, lintAll_eq_lintAllBy]
  exact handleBy_same_lintAllBy _ session event world

end Session

end TemplateLint
