import TemplateLint.Proofs.Session.Attempts

set_option autoImplicit false

/-!
Which documents an event has checked.

A session is watched by giving it a checker that also writes down every document it is asked to check.  Watching
adds the record and changes nothing else.
-/

namespace TemplateLint

variable {σ τ α : Type}

def World.withRecord (world : World σ) (record : List Document) : World (σ × List Document) :=
  ⟨(world.state, record), world.log⟩

def Checker.recorded (check : Checker σ τ) : Checker (σ × List Document) τ :=
  fun engine document world =>
    let (result, engine, ended) := check engine document ⟨world.state.1, world.log⟩
    (result, engine, ended.withRecord (world.state.2 ++ [document]))

namespace Session

def withRecord (record : List Document) (step : α × Session τ × World σ) :
    α × Session τ × World (σ × List Document) :=
  (step.1, step.2.1, step.2.2.withRecord record)

theorem handleBy_recorded (check : Checker σ τ) (session : Session τ) (event : Event) (world : World σ)
    (record : List Document) :
    session.handleBy check.recorded event (world.withRecord record) =
      withRecord (record ++ session.due event) (session.handleBy check event world) := by
  have documents := map_document_attemptsBy check (session.due event) (session.prepare event) world
  rw [← documents]
  exact handleBy_noted Attempt.document check session event world record

/-! ### Checks started by an event -/

/-- The documents for which handling an event calls `Engine.lint`, in order. -/
def started [Sink τ] (host : Host σ) (session : Session τ) (event : Event) (world : World σ) :
    List Document :=
  (session.handleBy (Checker.recorded fun engine => engine.lint host) event
    (world.withRecord [])).2.2.state.2

/-- The record from which `started` is read is made while the event is handled, and disturbs nothing. -/
theorem handle_started [Sink τ] (host : Host σ) (session : Session τ) (event : Event) (world : World σ) :
    session.handleBy (Checker.recorded fun engine => engine.lint host) event (world.withRecord []) =
      withRecord (session.started host event world) (session.handle host event world) := by
  rw [started, handle_eq_handleBy, handleBy_recorded]
  rfl

theorem started_eq_due [Sink τ] (host : Host σ) (session : Session τ) (event : Event) (world : World σ) :
    session.started host event world = session.due event := by
  rw [started, handleBy_recorded]
  rfl

end Session

end TemplateLint
