import TemplateLint.Proofs.Engine.History

set_option autoImplicit false

/-!
What an engine publishes.

An engine leaves out just the publications that repeat what it remembers of a document, and nobody who looks
at the collection can tell: it shows what it would show if everything had been published.
-/

namespace TemplateLint

variable {σ τ : Type}

/-! ### Sequences of publications -/

/-- A sink that keeps all that is given to it, in order. -/
structure Journal where
  publications : List Publication

def Journal.empty : Journal := ⟨[]⟩

instance : Sink Journal where
  publish journal uri diagnostics := ⟨journal.publications ++ [⟨uri, diagnostics⟩]⟩

def publishAll [Sink τ] (sink : τ) (publications : List Publication) : τ :=
  publications.foldl (fun sink publication => Sink.publish sink publication.uri publication.diagnostics) sink

theorem publishAll_append [Sink τ] (sink : τ) (first second : List Publication) :
    publishAll sink (first ++ second) = publishAll (publishAll sink first) second :=
  List.foldl_append

theorem publications_publishAll (journal : Journal) (publications : List Publication) :
    (publishAll journal publications).publications = journal.publications ++ publications := by
  induction publications generalizing journal with
  | nil => exact (List.append_nil _).symm
  | cons publication rest ih =>
      have later := ih (Sink.publish journal publication.uri publication.diagnostics)
      change (publishAll (Sink.publish journal publication.uri publication.diagnostics) rest).publications = _
      rw [later]
      exact List.append_assoc journal.publications [publication] rest

def allPublications (history : List Entry) : List Publication :=
  history.filterMap Entry.publication?

/-- The publications of a history without those that repeat what the last check of the document said, unless
the document was forgotten in between.  `past` is the history before it, the latest entry first. -/
def news (past : List Entry) : List Entry → List Publication
  | [] => []
  | entry :: rest =>
      match entry.publication? with
      | none => news (entry :: past) rest
      | some publication =>
          if remembered publication.uri past = some publication.diagnostics then news (entry :: past) rest
          else publication :: news (entry :: past) rest

theorem news_cons (past : List Entry) (entry : Entry) (rest : List Entry) :
    news past (entry :: rest) = news past [entry] ++ news (entry :: past) rest := by
  simp only [news]
  cases entry.publication? with
  | none => rfl
  | some publication =>
      dsimp only
      split
      · rfl
      · rfl

theorem allPublications_cons (entry : Entry) (rest : List Entry) :
    allPublications (entry :: rest) = entry.publication?.toList ++ allPublications rest := by
  unfold allPublications
  cases said : entry.publication? with
  | none => exact List.filterMap_cons_none said
  | some publication => exact List.filterMap_cons_some said

/-! ### What a run publishes -/

theorem Engine.Answered.sink [Sink τ] {engine next : Engine τ} {entry : Entry} {past : List Entry}
    (answered : engine.Answered entry next) (remembers : engine.Remembers past) :
    next.sink = publishAll engine.sink (news past [entry]) := by
  cases answered with
  | checked uri found =>
      have said := publication_of_outcome engine uri found
      match found with
      | .error _ => rfl
      | .ok none => rfl
      | .ok (some diagnostics) =>
          change (Entry.checked uri _).publication? = some ⟨uri, diagnostics⟩ at said
          simp only [news, said, ← remembers uri]
          by_cases same : engine.latest.get? uri = some diagnostics
          · simp only [absorb, if_pos same]
            rfl
          · simp only [absorb, if_neg same]
            rfl
  | forgotten uri => rfl
  | configured settings => rfl

/-- The sink receives the news of the history, in order, and nothing else. -/
theorem Run.over_sink [Sink τ] (host : Host σ) (calls : List Call) (engine : Engine τ) (world : World σ)
    (past : List Entry) (remembers : engine.Remembers past) :
    let run := Run.over (Engine.answer host) calls engine world
    run.engine.sink = publishAll engine.sink (news past run.history) := by
  induction calls generalizing engine world past with
  | nil => rfl
  | cons call rest ih =>
      intro run
      have answered := engine.answer_answered host call world
      have later := ih (engine.answer host call world).2.1 (engine.answer host call world).2.2
        ((engine.answer host call world).1 :: past) (remembers.step answered)
      simp only [run]
      rw [engine_over_cons, history_over_cons, news_cons, publishAll_append, ← answered.sink remembers]
      exact later

theorem Engine.Answered.publishCount {engine next : Engine Collection} {entry : Entry}
    (answered : engine.Answered entry next) :
    next.sink.publishCount = engine.sink.publishCount + if entry.isPublished then 1 else 0 := by
  cases answered with
  | checked uri found =>
      match found with
      | .error _ => rfl
      | .ok none => rfl
      | .ok (some diagnostics) =>
          by_cases same : engine.latest.get? uri = some diagnostics
          · simp only [absorb, outcome, if_pos same]
            rfl
          · simp only [absorb, outcome, if_neg same]
            rfl
  | forgotten uri => rfl
  | configured settings => rfl

theorem Run.over_publishCount (host : Host σ) (calls : List Call) (engine : Engine Collection)
    (world : World σ) :
    let run := Run.over (Engine.answer host) calls engine world
    run.engine.sink.publishCount = engine.sink.publishCount + run.history.countP Entry.isPublished := by
  induction calls generalizing engine world with
  | nil => rfl
  | cons call rest ih =>
      intro run
      have counted := (engine.answer_answered host call world).publishCount
      have later := ih (engine.answer host call world).2.1 (engine.answer host call world).2.2
      simp only [run]
      rw [engine_over_cons, history_over_cons, List.countP_cons, later, counted]
      omega

theorem Engine.Answered.known_of_unchanged [Sink τ] {engine next : Engine τ} {entry : Entry}
    (answered : engine.Answered entry next) {uri : String} {diagnostics : List Diagnostic}
    (unchanged : entry = .checked uri (.ok (.unchanged diagnostics))) :
    engine.latest.get? uri = some diagnostics := by
  cases answered with
  | checked other found =>
      obtain ⟨sameUri, isUnchanged⟩ := Entry.checked.inj unchanged
      subst sameUri
      match found with
      | .error _ => cases isUnchanged
      | .ok none => cases isUnchanged
      | .ok (some shown) =>
          by_cases same : engine.latest.get? other = some shown
          · simp only [outcome, if_pos same] at isUnchanged
            cases isUnchanged
            exact same
          · simp only [outcome, if_neg same] at isUnchanged
            cases isUnchanged
  | forgotten other => cases unchanged
  | configured settings => cases unchanged

/-! ### An engine that publishes everything -/

theorem Engine.sink_absorb_forget [Sink τ] (engine : Engine τ) (uri : String)
    (found : Except Failure (Option (List Diagnostic))) :
    ((engine.forget uri).absorb uri found).sink =
      publishAll engine.sink
        (Entry.checked uri ((engine.forget uri).outcome uri found)).publication?.toList := by
  have said := publication_of_outcome (engine.forget uri) uri found
  match found with
  | .error _ => rfl
  | .ok none => rfl
  | .ok (some diagnostics) =>
      have forgotten : (engine.forget uri).latest.get? uri ≠ some diagnostics := by
        change (engine.latest.erase uri).get? uri ≠ some diagnostics
        rw [SortedMap.get?_erase_self]
        exact nofun
      rw [said]
      simp only [absorb, if_neg forgotten]
      rfl

theorem Engine.sink_answerEagerly [Sink τ] (host : Host σ) (engine : Engine τ) (call : Call)
    (world : World σ) :
    (engine.answerEagerly host call world).2.1.sink =
      publishAll engine.sink (engine.answerEagerly host call world).1.publication?.toList := by
  cases call with
  | check isForced document =>
      obtain ⟨result, after, _⟩ := (engine.forget document.uri).check_eq_survey host isForced document world
      simp only [answerEagerly, answer, result, after]
      exact engine.sink_absorb_forget document.uri _
  | forget uri => rfl
  | setSettings settings => rfl

structure Engine.Alike (left right : Engine τ) : Prop where
  settings : left.settings = right.settings
  projectRoot : left.projectRoot = right.projectRoot

theorem Engine.Alike.absorb [Sink τ] {left right : Engine τ} (alike : left.Alike right) (uri : String)
    (found : Except Failure (Option (List Diagnostic))) :
    (left.absorb uri found).Alike (right.absorb uri found) where
  settings := by
    rw [left.settings_absorb, right.settings_absorb]
    exact alike.settings
  projectRoot := by
    rw [left.projectRoot_absorb, right.projectRoot_absorb]
    exact alike.projectRoot

theorem Engine.Alike.survey {left right : Engine τ} (alike : left.Alike right) (host : Host σ)
    (isForced : Bool) (document : Document) (leftWorld rightWorld : World σ)
    (same : leftWorld.state = rightWorld.state) :
    survey host left.settings left.projectRoot isForced document leftWorld.state =
      survey host right.settings right.projectRoot isForced document rightWorld.state := by
  rw [alike.settings, alike.projectRoot, same]

/-- An engine that remembers and one that does not have the same to say about the same call. -/
theorem Engine.Alike.answer [Sink τ] {engine eager : Engine τ} (alike : engine.Alike eager) (host : Host σ)
    (call : Call) (world eagerWorld : World σ) (same : world.state = eagerWorld.state) :
    let answered := engine.answer host call world
    let eagerly := eager.answerEagerly host call eagerWorld
    answered.1.publication? = eagerly.1.publication? ∧ answered.2.1.Alike eagerly.2.1 ∧
      answered.2.2.state = eagerly.2.2.state := by
  cases call with
  | check isForced document =>
      -- the eager engine forgets the document first, which takes part in no survey
      have forgetful : engine.Alike (eager.forget document.uri) := ⟨alike.settings, alike.projectRoot⟩
      obtain ⟨result, after, ended⟩ := engine.check_eq_survey host isForced document world
      obtain ⟨eagerResult, eagerAfter, eagerEnded⟩ :=
        (eager.forget document.uri).check_eq_survey host isForced document eagerWorld
      rw [← forgetful.survey host isForced document world eagerWorld same]
        at eagerResult eagerAfter eagerEnded
      simp only [answerEagerly, Engine.answer, result, after, ended, eagerResult, eagerAfter, eagerEnded,
        publication_of_outcome]
      exact ⟨trivial, forgetful.absorb document.uri _, trivial⟩
  | forget uri => exact ⟨rfl, ⟨alike.settings, alike.projectRoot⟩, same⟩
  | setSettings settings => exact ⟨rfl, ⟨rfl, alike.projectRoot⟩, same⟩

/-- An engine without memory publishes all that there is to say in the history of an engine with memory. -/
theorem Run.over_eager_sink [Sink τ] (host : Host σ) (calls : List Call) (engine eager : Engine τ)
    (world eagerWorld : World σ) (alike : engine.Alike eager) (same : world.state = eagerWorld.state) :
    (Run.over (Engine.answerEagerly host) calls eager eagerWorld).engine.sink =
      publishAll eager.sink (allPublications (Run.over (Engine.answer host) calls engine world).history) := by
  induction calls generalizing engine eager world eagerWorld with
  | nil => rfl
  | cons call rest ih =>
      obtain ⟨said, alikeAfter, sameAfter⟩ := alike.answer host call world eagerWorld same
      rw [engine_over_cons, history_over_cons, allPublications_cons, publishAll_append, said,
        ← eager.sink_answerEagerly host call eagerWorld]
      exact ih _ _ _ _ alikeAfter sameAfter

/-! ### The collection does not miss what is left out -/

theorem remembered_cons_of_silent {entry : Entry} (silent : entry.publication? = none) (uri : String)
    (past : List Entry) (diagnostics : List Diagnostic)
    (known : remembered uri (entry :: past) = some diagnostics) : remembered uri past = some diagnostics := by
  cases entry with
  | checked other result => simpa only [remembered, silent] using known
  | forgotten other =>
      simp only [remembered] at known
      split at known
      · cases known
      · exact known
  | configured settings => simpa only [remembered, silent] using known

theorem remembered_cons_of_publication {entry : Entry} {publication : Publication}
    (said : entry.publication? = some publication) (uri : String) (past : List Entry) :
    remembered uri (entry :: past) =
      if uri = publication.uri then some publication.diagnostics else remembered uri past := by
  cases entry with
  | checked other result => simp only [remembered, said]
  | forgotten other => cases said
  | configured settings => cases said

/-- The news alone let a collection show the same as all publications do. -/
theorem shown_news (past history : List Entry) (left right : Collection)
    (agree : ∀ uri, left.shown.get? uri = right.shown.get? uri)
    (mirrored : ∀ uri diagnostics, remembered uri past = some diagnostics →
      left.shown.get? uri = some diagnostics) (uri : String) :
    (publishAll left (news past history)).shown.get? uri =
      (publishAll right (allPublications history)).shown.get? uri := by
  induction history generalizing past left right with
  | nil => exact agree uri
  | cons entry rest ih =>
      cases said : entry.publication? with
      | none =>
          simp only [news, allPublications_cons, said]
          apply ih (entry :: past) left right agree
          intro other diagnostics known
          exact mirrored other diagnostics (remembered_cons_of_silent said other past diagnostics known)
      | some publication =>
          simp only [news, allPublications_cons, said]
          by_cases repeated : remembered publication.uri past = some publication.diagnostics
          · -- the collection that is spared the publication shows it already
            rw [if_pos repeated]
            apply ih (entry :: past) left
            · intro other
              change left.shown.get? other =
                (right.shown.put publication.uri publication.diagnostics).get? other
              rw [SortedMap.get?_put]
              by_cases atUri : other = publication.uri
              · rw [if_pos atUri, atUri]
                exact mirrored publication.uri publication.diagnostics repeated
              · rw [if_neg atUri]
                exact agree other
            · intro other diagnostics known
              rw [remembered_cons_of_publication said] at known
              by_cases atUri : other = publication.uri
              · rw [if_pos atUri] at known
                rw [atUri, ← known]
                exact mirrored publication.uri publication.diagnostics repeated
              · rw [if_neg atUri] at known
                exact mirrored other diagnostics known
          · rw [if_neg repeated]
            apply ih (entry :: past)
            · intro other
              change (left.shown.put publication.uri publication.diagnostics).get? other =
                (right.shown.put publication.uri publication.diagnostics).get? other
              rw [SortedMap.get?_put, SortedMap.get?_put, agree other]
            · intro other diagnostics known
              change (left.shown.put publication.uri publication.diagnostics).get? other = some diagnostics
              rw [remembered_cons_of_publication said] at known
              rw [SortedMap.get?_put]
              by_cases atUri : other = publication.uri
              · rwa [if_pos atUri] at known ⊢
              · rw [if_neg atUri] at known ⊢
                exact mirrored other diagnostics known

/-! ### A new engine -/

theorem Run.fresh_sink [Sink τ] (host : Host σ) (settings : Settings) (projectRoot : Path) (sink : τ)
    (calls : List Call) (world : World σ) :
    let run := Run.fresh host settings projectRoot sink calls world
    run.engine.sink = publishAll sink (news [] run.history) :=
  Run.over_sink host calls _ _ [] (Engine.start_remembers settings projectRoot sink world)

theorem Run.eager_sink [Sink τ] (host : Host σ) (settings : Settings) (projectRoot : Path) (sink : τ)
    (calls : List Call) (world : World σ) :
    (Run.eager host settings projectRoot sink calls world).engine.sink =
      publishAll sink (allPublications (Run.fresh host settings projectRoot sink calls world).history) :=
  Run.over_eager_sink host calls _ _ _ _ ⟨rfl, rfl⟩ rfl

/-- An engine with memory publishes what an engine without memory does, less the publications that repeat
what the last check of the same document said since it was forgotten.  The collection shows the same in the
end, and at every time an unchanged document is shown with its diagnostics. -/
theorem Run.fresh_publishes_news (host : Host σ) (settings : Settings) (projectRoot : Path)
    (calls : List Call) (world : World σ) :
    let written := Run.fresh host settings projectRoot Journal.empty calls world
    let writtenEagerly := Run.eager host settings projectRoot Journal.empty calls world
    let shown := Run.fresh host settings projectRoot Collection.empty calls world
    let shownEagerly := Run.eager host settings projectRoot Collection.empty calls world
    writtenEagerly.engine.sink.publications = allPublications written.history ∧
      written.engine.sink.publications = news [] written.history ∧
      (∀ uri, shown.engine.sink.shown.get? uri = shownEagerly.engine.sink.shown.get? uri) ∧
      shown.engine.sink.publishCount = shown.history.countP Entry.isPublished ∧
      ∀ call uri diagnostics,
        (shown.engine.answer host call shown.world).1 = .checked uri (.ok (.unchanged diagnostics)) →
          shown.engine.sink.shown.get? uri = some diagnostics := by
  intro written writtenEagerly shown shownEagerly
  refine ⟨?_, ?_, ?_, ?_, ?_⟩
  · rw [Run.eager_sink, publications_publishAll]
    rfl
  · rw [Run.fresh_sink, publications_publishAll]
    rfl
  · intro uri
    rw [Run.eager_sink, Run.fresh_sink]
    apply shown_news
    · exact fun _ => rfl
    · intro other diagnostics known
      cases known
  · have counted := Run.over_publishCount host calls
      (Engine.start settings projectRoot Collection.empty world).1
      (Engine.start settings projectRoot Collection.empty world).2
    exact counted.trans (Nat.zero_add _)
  · intro call uri diagnostics unchanged
    have answered := shown.engine.answer_answered host call shown.world
    apply Run.fresh_mirrored host settings projectRoot Collection.empty calls world
    exact answered.known_of_unchanged unchanged

/-! ### A template that is checked twice -/

def bareHost : Host Unit where
  entry _ _ := .absent
  start _ _ := (.notStarted "No such file or directory (os error 2)", ())
  currentDirectory := Path.ofString "/"
  home := none

def stackTemplate : Document :=
  ⟨"file:///stack.yaml", 1, "AWSTemplateFormatVersion: 1\nResources:\n"⟩

def runOverTemplate : Run Unit Collection :=
  Run.fresh bareHost Settings.empty (Path.ofString "/") Collection.empty [.check false stackTemplate] ⟨(), []⟩

/-- What the first check published is shown when the second one finds nothing new. -/
theorem Run.shown_when_checked_again :
    (runOverTemplate.engine.answer bareHost (.check false stackTemplate) runOverTemplate.world).1 =
        .checked stackTemplate.uri (.ok (.unchanged [Diagnostic.synthetic startFailureText])) ∧
      runOverTemplate.engine.sink.shown.get? stackTemplate.uri =
        some [Diagnostic.synthetic startFailureText] :=
  ⟨rfl, (Run.fresh_publishes_news bareHost Settings.empty (Path.ofString "/") [.check false stackTemplate]
    ⟨(), []⟩).2.2.2.2 (.check false stackTemplate) stackTemplate.uri _ rfl⟩

end TemplateLint
