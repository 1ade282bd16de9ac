import TemplateLint.Proofs.Session.Trigger

set_option autoImplicit false

/-!
Sessions told by their events and checks, with what came of the checks.
-/

namespace TemplateLint

variable {σ τ : Type}

/-- What a session goes through; in a chronicle the latest comes first. -/
inductive Incident where
  | arrived (event : Event)
  | checked (document : Document) (result : Except Failure Outcome)

def Incident.happening : Incident → Happening
  | .arrived event => .arrived event
  | .checked document _ => .checked document

def chronicled (past : List Incident) (attempts : List (Attempt σ)) : List Incident :=
  attempts.foldl (fun earlier attempt => .checked attempt.document attempt.result :: earlier) past

namespace Session

def chronicle [Sink τ] (host : Host σ) :
    List Incident → List Event → Session τ → World σ → List Incident
  | past, [], _, _ => past
  | past, event :: rest, session, world =>
      let attempts := session.attempts host event world
      let (_, session, world) := session.handle host event world
      chronicle host (chronicled (.arrived event :: past) attempts) rest session world

def freshChronicle [Sink τ] (host : Host σ) (settings : Settings) (projectRoot : Path) (sink : τ)
    (events : List Event) (world : World σ) : List Incident :=
  let (engine, world) := Engine.start settings projectRoot sink world
  chronicle host [] events (start engine) world

/-! ### Sessions and their incidents -/

section

variable [Sink τ] (host : Host σ) (related : Session τ → List Incident → Prop)
  (byEvent : ∀ session past event, related session past → related (session.prepare event) (.arrived event :: past))
  (byCheck : ∀ session past document world, related session past →
    related (session.lint host document world).2.1
      (.checked document (session.lint host document world).1 :: past))

include byCheck

theorem lintAll_chronicled (documents : List Document) (session : Session τ) (past : List Incident)
    (world : World σ) (holds : related session past) :
    related (lintAll host documents session world).2.1
      (chronicled past (attemptsBy (fun engine => engine.lint host) documents session world)) := by
  induction documents generalizing session past world with
  | nil => exact holds
  | cons document rest ih =>
      obtain ⟨ended, _, made, after⟩ := attempts_cons host document rest session world
      rw [made, after]
      exact ih _ _ ended (byCheck session past document world holds)

include byEvent

theorem handle_chronicled (session : Session τ) (past : List Incident) (event : Event) (world : World σ)
    (holds : related session past) :
    related (session.handle host event world).2.1
      (chronicled (.arrived event :: past) (session.attempts host event world)) := by
  rw [(handle_same_lintAll host session event world).2.1, attempts_eq]
  exact lintAll_chronicled host related byCheck (session.due event) (session.prepare event) _ world
    (byEvent session past event holds)

/-- What events and checks keep between a session and its incidents is kept by a run. -/
theorem run_chronicled (events : List Event) (session : Session τ) (past : List Incident) (world : World σ)
    (holds : related session past) :
    related (run host events session world).1 (chronicle host past events session world) := by
  induction events generalizing session past world with
  | nil => exact holds
  | cons event rest ih =>
      exact ih _ _ _ (handle_chronicled host related byEvent byCheck session past event world holds)

end

end Session

end TemplateLint
