import TemplateLint.Proofs.Engine.Survey

set_option autoImplicit false

/-!
Runs of an engine: the calls that it answers, the history they leave, and what its memory has to do with the
collection that it publishes to.
-/

namespace TemplateLint

variable {σ τ : Type}

/-! ### Calls and their history -/

inductive Call where
  | check (isForced : Bool) (document : Document)
  | forget (uri : String)
  | setSettings (settings : Settings)

inductive Entry where
  | checked (uri : String) (result : Except Failure Outcome)
  | forgotten (uri : String)
  | configured (settings : Settings)

structure Publication where
  uri : String
  diagnostics : List Diagnostic
deriving DecidableEq

/-- What an entry has to say about a document: the diagnostics of a check that succeeded and was not skipped. -/
def Entry.publication? : Entry → Option Publication
  | .checked _ (.ok .skipped) => none
  | .checked uri (.ok (.unchanged diagnostics)) => some ⟨uri, diagnostics⟩
  | .checked uri (.ok (.published diagnostics)) => some ⟨uri, diagnostics⟩
  | _ => none

def Entry.isPublished : Entry → Bool
  | .checked _ (.ok (.published _)) => true
  | _ => false

namespace Engine

def answer [Sink τ] (host : Host σ) (engine : Engine τ) (call : Call) (world : World σ) :
    Entry × Engine τ × World σ :=
  match call with
  | .check isForced document =>
      let (result, engine, world) := engine.check host isForced document world
      (.checked document.uri result, engine, world)
  | .forget uri => (.forgotten uri, engine.forget uri, world)
  | .setSettings settings => (.configured settings, engine.setSettings settings, world)

/-- Answers a call without regard to what was published before: a document is forgotten before it is
checked, so whatever is found in it is published. -/
def answerEagerly [Sink τ] (host : Host σ) (engine : Engine τ) (call : Call) (world : World σ) :
    Entry × Engine τ × World σ :=
  match call with
  | .check _ document => (engine.forget document.uri).answer host call world
  | _ => engine.answer host call world

end Engine

abbrev Answerer (σ τ : Type) : Type :=
  Engine τ → Call → World σ → Entry × Engine τ × World σ

structure Run (σ τ : Type) where
  history : List Entry
  engine : Engine τ
  world : World σ

def Run.over (answer : Answerer σ τ) : List Call → Engine τ → World σ → Run σ τ
  | [], engine, world => ⟨[], engine, world⟩
  | call :: rest, engine, world =>
      let (entry, engine, world) := answer engine call world
      let later := Run.over answer rest engine world
      { later with history := entry :: later.history }

theorem Run.engine_over_cons (answer : Answerer σ τ) (call : Call) (rest : List Call) (engine : Engine τ)
    (world : World σ) :
    (Run.over answer (call :: rest) engine world).engine =
      (Run.over answer rest (answer engine call world).2.1 (answer engine call world).2.2).engine := rfl

theorem Run.history_over_cons (answer : Answerer σ τ) (call : Call) (rest : List Call) (engine : Engine τ)
    (world : World σ) :
    (Run.over answer (call :: rest) engine world).history =
      (answer engine call world).1 ::
        (Run.over answer rest (answer engine call world).2.1 (answer engine call world).2.2).history := rfl

def Run.fresh [Sink τ] (host : Host σ) (settings : Settings) (projectRoot : Path) (sink : τ)
    (calls : List Call) (world : World σ) : Run σ τ :=
  let (engine, world) := Engine.start settings projectRoot sink world
  Run.over (Engine.answer host) calls engine world

def Run.eager [Sink τ] (host : Host σ) (settings : Settings) (projectRoot : Path) (sink : τ)
    (calls : List Call) (world : World σ) : Run σ τ :=
  let (engine, world) := Engine.start settings projectRoot sink world
  Run.over (Engine.answerEagerly host) calls engine world

/-! ### One call -/

inductive Engine.Answered [Sink τ] (engine : Engine τ) : Entry → Engine τ → Prop where
  | checked (uri : String) (found : Except Failure (Option (List Diagnostic))) :
      Engine.Answered engine (.checked uri (engine.outcome uri found)) (engine.absorb uri found)
  | forgotten (uri : String) : Engine.Answered engine (.forgotten uri) (engine.forget uri)
  | configured (settings : Settings) :
      Engine.Answered engine (.configured settings) (engine.setSettings settings)

theorem Engine.answer_answered [Sink τ] (host : Host σ) (engine : Engine τ) (call : Call) (world : World σ) :
    engine.Answered (engine.answer host call world).1 (engine.answer host call world).2.1 := by
  cases call with
  | check isForced document =>
      obtain ⟨result, after, _⟩ := engine.check_eq_survey host isForced document world
      simp only [answer, result, after]
      exact .checked document.uri _
  | forget uri => exact .forgotten uri
  | setSettings settings => exact .configured settings

/-- What an entry says of a check is what the check found, whatever the engine remembered. -/
theorem publication_of_outcome (engine : Engine τ) (uri : String)
    (found : Except Failure (Option (List Diagnostic))) :
    (Entry.checked uri (engine.outcome uri found)).publication? =
      found.toOption.bind fun diagnostics => diagnostics.map (⟨uri, ·⟩) := by
  match found with
  | .error _ => rfl
  | .ok none => rfl
  | .ok (some diagnostics) =>
      by_cases same : engine.latest.get? uri = some diagnostics
      · simp only [Engine.outcome, if_pos same]
        rfl
      · simp only [Engine.outcome, if_neg same]
        rfl

/-! ### Memory -/

/-- What an engine remembers of a document after a history, the latest entry first: the diagnostics of the
last check that was not skipped, unless the document was forgotten since. -/
def remembered (uri : String) : List Entry → Option (List Diagnostic)
  | [] => none
  | .forgotten other :: earlier => if uri = other then none else remembered uri earlier
  | entry :: earlier =>
      match entry.publication? with
      | some publication =>
          if uri = publication.uri then some publication.diagnostics else remembered uri earlier
      | none => remembered uri earlier

def Engine.Remembers (engine : Engine τ) (past : List Entry) : Prop :=
  ∀ uri, engine.latest.get? uri = remembered uri past

theorem Engine.Remembers.step [Sink τ] {engine next : Engine τ} {entry : Entry} {past : List Entry}
    (remembers : engine.Remembers past) (answered : engine.Answered entry next) :
    next.Remembers (entry :: past) := by
  intro other
  cases answered with
  | checked uri found =>
      have said := publication_of_outcome engine uri found
      match found with
      | .error _ => exact remembers other
      | .ok none => exact remembers other
      | .ok (some diagnostics) =>
          rw [engine.latest_absorb]
          change (Entry.checked uri _).publication? = some ⟨uri, diagnostics⟩ at said
          simp only [remembered, said, remembers other]
  | forgotten uri =>
      rw [show (engine.forget uri).latest = engine.latest.erase uri from rfl, SortedMap.get?_erase]
      simp only [remembered, remembers other]
  | configured settings => exact remembers other

theorem Engine.start_remembers (settings : Settings) (projectRoot : Path) (sink : τ) (world : World σ) :
    (Engine.start settings projectRoot sink world).1.Remembers [] := fun _ => rfl

/-! ### Memory and collection -/

def Engine.Mirrored (engine : Engine Collection) : Prop :=
  ∀ uri diagnostics, engine.latest.get? uri = some diagnostics →
    engine.sink.shown.get? uri = some diagnostics

theorem Engine.start_mirrored (settings : Settings) (projectRoot : Path) (collection : Collection)
    (world : World σ) : (Engine.start settings projectRoot collection world).1.Mirrored := by
  intro uri diagnostics known
  cases known

theorem Engine.Mirrored.absorb {engine : Engine Collection} (mirrored : engine.Mirrored) (uri : String)
    (found : Except Failure (Option (List Diagnostic))) : (engine.absorb uri found).Mirrored := by
  match found with
  | .error _ => exact mirrored
  | .ok none => exact mirrored
  | .ok (some diagnostics) =>
      by_cases same : engine.latest.get? uri = some diagnostics
      · simp only [Engine.absorb, if_pos same]
        exact mirrored
      · simp only [Engine.absorb, if_neg same]
        intro other shown known
        change (engine.latest.put uri diagnostics).get? other = some shown at known
        change (engine.sink.shown.put uri diagnostics).get? other = some shown
        rw [SortedMap.get?_put] at known ⊢
        by_cases atUri : other = uri
        · rwa [if_pos atUri] at known ⊢
        · rw [if_neg atUri] at known ⊢
          exact mirrored other shown known

theorem Engine.Mirrored.forget {engine : Engine Collection} (mirrored : engine.Mirrored) (uri : String) :
    (engine.forget uri).Mirrored := by
  intro other shown known
  change (engine.latest.erase uri).get? other = some shown at known
  rw [SortedMap.get?_erase] at known
  by_cases atUri : other = uri
  · rw [if_pos atUri] at known
    cases known
  · rw [if_neg atUri] at known
    exact mirrored other shown known

theorem Engine.Mirrored.step {engine next : Engine Collection} {entry : Entry} (mirrored : engine.Mirrored)
    (answered : engine.Answered entry next) : next.Mirrored := by
  cases answered with
  | checked uri found => exact mirrored.absorb uri found
  | forgotten uri => exact mirrored.forget uri
  | configured settings => exact mirrored

theorem Run.over_mirrored (host : Host σ) (calls : List Call) (engine : Engine Collection) (world : World σ)
    (mirrored : engine.Mirrored) : (Run.over (Engine.answer host) calls engine world).engine.Mirrored := by
  induction calls generalizing engine world with
  | nil => exact mirrored
  | cons call rest ih => exact ih _ _ (mirrored.step (engine.answer_answered host call world))

theorem Run.fresh_mirrored (host : Host σ) (settings : Settings) (projectRoot : Path) (collection : Collection)
    (calls : List Call) (world : World σ) :
    (Run.fresh host settings projectRoot collection calls world).engine.Mirrored :=
  Run.over_mirrored host calls _ _ (Engine.start_mirrored settings projectRoot collection world)

end TemplateLint
