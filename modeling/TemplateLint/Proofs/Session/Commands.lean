import TemplateLint.Proofs.Commands
import TemplateLint.Proofs.Session.Run

set_option autoImplicit false

/-!
The commands that a session starts: for every event those that are planned for the documents that are due.
-/

namespace TemplateLint.Session

variable {σ τ : Type}

theorem settings_lint [Sink τ] (host : Host σ) (session : Session τ) (document : Document) (world : World σ) :
    (session.lint host document world).2.1.engine.settings = session.engine.settings := by
  rw [engine_lint, (session.engine.lint_eq_survey host document world).2.1, Engine.settings_absorb]

theorem projectRoot_lint [Sink τ] (host : Host σ) (session : Session τ) (document : Document) (world : World σ) :
    (session.lint host document world).2.1.engine.projectRoot = session.engine.projectRoot := by
  rw [engine_lint, (session.engine.lint_eq_survey host document world).2.1, Engine.projectRoot_absorb]

def plans (session : Session τ) (documents : List Document) : List Command :=
  documents.flatMap (planned session.engine.settings session.engine.projectRoot false)

/-! ### On a machine that keeps its commands -/

theorem lint_recorded [Sink τ] (host : Host σ) (session : Session τ) (document : Document) (world : World σ)
    (commands : List Command) (log : List LogRecord) :
    let plain := session.lint host document world
    let recorded := session.lint host.recorded document ⟨(world.state, commands), log⟩
    recorded.1 = plain.1 ∧ recorded.2.1 = plain.2.1 ∧
      recorded.2.2.state = (plain.2.2.state, commands ++ session.plans [document]) := by
  intro plain recorded
  obtain ⟨result, after, ended⟩ := session.engine.lint_eq_survey host document world
  obtain ⟨recordedResult, recordedAfter, recordedEnded⟩ :=
    session.engine.lint_eq_survey host.recorded document ⟨(world.state, commands), log⟩
  rw [survey_recorded] at recordedResult recordedAfter recordedEnded
  have sameEngine := recordedAfter.trans after.symm
  refine ⟨recordedResult.trans result.symm, ?_, ?_⟩
  · simp only [plain, recorded, lint, sameEngine]
  · have planned : session.plans [document] =
        planned session.engine.settings session.engine.projectRoot false document := List.append_nil _
    rw [planned]
    exact recordedEnded.trans (congrArg (·, _) ended.symm)

theorem lintAll_recorded [Sink τ] (host : Host σ) (documents : List Document) (session : Session τ)
    (world : World σ) (commands : List Command) (log : List LogRecord) :
    let plain := lintAll host documents session world
    let recorded := lintAll host.recorded documents session ⟨(world.state, commands), log⟩
    recorded.1 = plain.1 ∧ recorded.2.1 = plain.2.1 ∧
      recorded.2.2.state = (plain.2.2.state, commands ++ session.plans documents) := by
  -- the two runs go side by side, with one session and one state; their logs do not matter
  induction documents generalizing session world commands log with
  | nil => exact ⟨rfl, rfl, congrArg (world.state, ·) (List.append_nil commands).symm⟩
  | cons document rest ih =>
      intro plain recorded
      obtain ⟨sameResult, sameAfter, ended⟩ := lint_recorded host session document world commands log
      have sameSettings := settings_lint host session document world
      have sameRoot := projectRoot_lint host session document world
      obtain ⟨before, sameState, parts⟩ := lintAll_cons_eq host document rest session world
      obtain ⟨⟨recordedState, recordedLog⟩, sameRecorded, recordedParts⟩ :=
        lintAll_cons_eq host.recorded document rest session ⟨(world.state, commands), log⟩
      rw [ended, ← sameState] at sameRecorded
      obtain ⟨laterResult, laterAfter, laterEnded⟩ := ih (session.lint host document world).2.1 before
        (commands ++ session.plans [document]) recordedLog
      rw [← sameRecorded] at laterResult laterAfter laterEnded
      simp only [plain, recorded, parts, recordedParts, sameResult, sameAfter, laterResult, laterAfter, laterEnded,
        true_and]
      rw [List.append_assoc, plans, plans, plans, sameSettings, sameRoot, ← List.flatMap_append,
        List.singleton_append]

def commands [Sink τ] (host : Host σ) (session : Session τ) (event : Event) (world : World σ) : List Command :=
  (session.handle host.recorded event ⟨(world.state, []), world.log⟩).2.2.state.2

/-- The record from which `commands` are read disturbs nothing, and they are those planned for what is due. -/
structure FaithfullyRecorded [Sink τ] (host : Host σ) (session : Session τ) (event : Event) (world : World σ) :
    Prop where
  result : (session.handle host.recorded event ⟨(world.state, []), world.log⟩).1 =
    (session.handle host event world).1
  after : (session.handle host.recorded event ⟨(world.state, []), world.log⟩).2.1 =
    (session.handle host event world).2.1
  state : (session.handle host.recorded event ⟨(world.state, []), world.log⟩).2.2.state.1 =
    (session.handle host event world).2.2.state
  planned : session.commands host event world = (session.prepare event).plans (session.due event)

theorem handle_recorded [Sink τ] (host : Host σ) (session : Session τ) (event : Event) (world : World σ) :
    session.FaithfullyRecorded host event world := by
  obtain ⟨result, after, ended⟩ := handle_same_lintAll host session event world
  obtain ⟨recordedResult, recordedAfter, recordedEnded⟩ :=
    handle_same_lintAll host.recorded session event ⟨(world.state, []), world.log⟩
  obtain ⟨sameResult, sameAfter, sameEnded⟩ := lintAll_recorded host (session.due event) (session.prepare event)
    world [] world.log
  have endedWhole := recordedEnded.trans sameEnded
  exact {
    result := (recordedResult.trans sameResult).trans result.symm
    after := (recordedAfter.trans sameAfter).trans after.symm
    state := (congrArg Prod.fst endedWhole).trans ended.symm
    planned := congrArg Prod.snd endedWhole }

end TemplateLint.Session
