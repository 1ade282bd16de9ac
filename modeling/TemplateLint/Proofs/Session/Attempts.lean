import TemplateLint.Proofs.Session.Handling

set_option autoImplicit false

/-!
The checks of an event, each with the world that it started from and what came of it.

A session is watched by giving it a checker that also writes something down about every check.  Watching adds
the notes and changes nothing else.
-/

namespace TemplateLint

variable {σ τ α ρ : Type}

structure Attempt (σ : Type) where
  document : Document
  before : World σ
  result : Except Failure Outcome

def World.beside (world : World σ) (notes : List ρ) : World (σ × List ρ) :=
  ⟨(world.state, notes), world.log⟩

theorem World.beside_note (world : World σ) (notes : List ρ) (level : LogLevel) (message : String) :
    (world.beside notes).note level message = (world.note level message).beside notes := rfl

def Checker.noted (about : Attempt σ → ρ) (check : Checker σ τ) : Checker (σ × List ρ) τ :=
  fun engine document world =>
    let before : World σ := ⟨world.state.1, world.log⟩
    let (result, engine, ended) := check engine document before
    (result, engine, ended.beside (world.state.2 ++ [about ⟨document, before, result⟩]))

namespace Session

def beside (notes : List ρ) (step : α × Session τ × World σ) : α × Session τ × World (σ × List ρ) :=
  (step.1, step.2.1, step.2.2.beside notes)

def attemptsBy (check : Checker σ τ) : List Document → Session τ → World σ → List (Attempt σ)
  | [], _, _ => []
  | document :: rest, session, world =>
      match session.lintBy check document world with
      | (.error failure, after, ended) =>
          let ended :=
            ended.note .error ("Failed to lint " ++ document.uri ++ ": " ++ failure.message)
          ⟨document, world, .error failure⟩ :: attemptsBy check rest after ended
      | (.ok outcome, after, ended) =>
          ⟨document, world, .ok outcome⟩ :: attemptsBy check rest after ended

theorem map_document_attemptsBy (check : Checker σ τ) (documents : List Document) (session : Session τ)
    (world : World σ) : (attemptsBy check documents session world).map Attempt.document = documents := by
  induction documents generalizing session world with
  | nil => rfl
  | cons document rest ih =>
      simp only [attemptsBy]
      rcases session.lintBy check document world with ⟨result, after, ended⟩
      cases result with
      | error failure => simp only [List.map_cons, ih]
      | ok outcome => simp only [List.map_cons, ih]

/-! ### Notes beside a step -/

variable (about : Attempt σ → ρ) (check : Checker σ τ)

theorem lintBy_noted (session : Session τ) (document : Document) (world : World σ) (notes : List ρ) :
    session.lintBy (check.noted about) document (world.beside notes) =
      beside (notes ++ [about ⟨document, world, (session.lintBy check document world).1⟩])
        (session.lintBy check document world) := rfl

theorem lintOneBy_noted (session : Session τ) (document : Document) (world : World σ) (notes : List ρ) :
    session.lintOneBy (check.noted about) document (world.beside notes) =
      beside (notes ++ (attemptsBy check [document] session world).map about)
        (session.lintOneBy check document world) := by
  simp only [lintOneBy, attemptsBy, lintBy_noted]
  rcases session.lintBy check document world with ⟨result, after, ended⟩
  cases result with
  | error failure => rfl
  | ok outcome => rfl

theorem lintAllBy_noted (documents : List Document) (session : Session τ) (world : World σ) (notes : List ρ) :
    lintAllBy (check.noted about) documents session (world.beside notes) =
      beside (notes ++ (attemptsBy check documents session world).map about)
        (lintAllBy check documents session world) := by
  induction documents generalizing session world notes with
  | nil => simp only [lintAllBy, attemptsBy, beside, List.map_nil, List.append_nil]
  | cons document rest ih =>
      simp only [lintAllBy, attemptsBy, lintBy_noted]
      rcases session.lintBy check document world with ⟨result, after, ended⟩
      cases result with
      | error failure =>
          simp only [beside, World.beside_note, ih, List.map_cons, List.append_assoc, List.singleton_append]
      | ok outcome =>
          simp only [beside, ih, List.map_cons, List.append_assoc, List.singleton_append]

/-- The notes of an event are about the checks of the documents that are due, in order. -/
theorem handleBy_noted (session : Session τ) (event : Event) (world : World σ) (notes : List ρ) :
    session.handleBy (check.noted about) event (world.beside notes) =
      beside (notes ++ (attemptsBy check (session.due event) (session.prepare event) world).map about)
        (session.handleBy check event world) := by
  cases session.handled event with
  | idle records nothingDue handled =>
      rw [handled, handled, nothingDue, attemptsBy, List.map_nil, List.append_nil]
      rfl
  | single document onlyDue handled =>
      rw [handled, handled, onlyDue]
      exact lintOneBy_noted about check (session.prepare event) document world notes
  | several handled =>
      rw [handled, handled]
      exact lintAllBy_noted about check (session.due event) (session.prepare event) world notes

/-! ### The result of several checks -/

/-- The first check that fails decides; when none does, there is one outcome for each. -/
theorem lintAllBy_result (documents : List Document) (session : Session τ) (world : World σ) :
    (lintAllBy check documents session world).1 =
      (attemptsBy check documents session world).mapM Attempt.result := by
  induction documents generalizing session world with
  | nil => rfl
  | cons document rest ih =>
      simp only [lintAllBy, attemptsBy]
      rcases session.lintBy check document world with ⟨result, after, ended⟩
      cases result with
      | error failure =>
          rw [List.mapM_cons]
          rfl
      | ok outcome =>
          simp only [List.mapM_cons, ih]
          cases (attemptsBy check rest after ended).mapM Attempt.result with
          | error failure => rfl
          | ok others => rfl

/-- The first of several checks leaves a world for the others that may differ in its log only. -/
theorem attempts_cons [Sink τ] (host : Host σ) (document : Document) (rest : List Document)
    (session : Session τ) (world : World σ) :
    ∃ ended : World σ, ended.state = (session.lint host document world).2.2.state ∧
      attemptsBy (fun engine => engine.lint host) (document :: rest) session world =
        ⟨document, world, (session.lint host document world).1⟩ ::
          attemptsBy (fun engine => engine.lint host) rest (session.lint host document world).2.1 ended ∧
      (lintAll host (document :: rest) session world).2 =
        (lintAll host rest (session.lint host document world).2.1 ended).2 := by
  have checker : session.lintBy (fun engine => engine.lint host) document world =
      session.lint host document world := rfl
  simp only [lintAll, attemptsBy, checker]
  rcases session.lint host document world with ⟨result, after, ended⟩
  cases result with
  | error failure =>
      exact ⟨ended.note .error ("Failed to lint " ++ document.uri ++ ": " ++ failure.message), rfl, rfl, rfl⟩
  | ok outcome => exact ⟨ended, rfl, rfl, rfl⟩

/-! ### Checks of an event -/

/-- The calls of `Engine.lint` that handling an event makes, in order. -/
def attempts [Sink τ] (host : Host σ) (session : Session τ) (event : Event) (world : World σ) :
    List (Attempt σ) :=
  (session.handleBy (Checker.noted id fun engine => engine.lint host) event (world.beside [])).2.2.state.2

/-- The notes from which `attempts` are read are made while the event is handled, and disturb nothing. -/
theorem handle_attempts [Sink τ] (host : Host σ) (session : Session τ) (event : Event) (world : World σ) :
    session.handleBy (Checker.noted id fun engine => engine.lint host) event (world.beside []) =
      beside (session.attempts host event world) (session.handle host event world) := by
  rw [attempts, handle_eq_handleBy, handleBy_noted]
  rfl

theorem attempts_eq [Sink τ] (host : Host σ) (session : Session τ) (event : Event) (world : World σ) :
    session.attempts host event world =
      attemptsBy (fun engine => engine.lint host) (session.due event) (session.prepare event) world := by
  rw [attempts, handleBy_noted]
  exact List.map_id _

theorem map_document_attempts [Sink τ] (host : Host σ) (session : Session τ) (event : Event)
    (world : World σ) : (session.attempts host event world).map Attempt.document = session.due event := by
  rw [attempts_eq, map_document_attemptsBy]

end Session

end TemplateLint
