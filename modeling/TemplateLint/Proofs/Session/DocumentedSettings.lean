import TemplateLint.Proofs.Detection
import TemplateLint.Proofs.Session.Commands
import TemplateLint.Proofs.Session.Isolation

set_option autoImplicit false

/-!
Two sessions that go through the same events under different settings.

Only documented settings can make a difference, and of the settings that the program reads itself only values of
the right shape can.
-/

namespace TemplateLint

variable {σ τ : Type}

/-! ### Settings that count for the same -/

def Settings.without (settings : Settings) (name : String) : Settings := ⟨settings.values.erase name⟩

theorem Settings.get?_without_self (settings : Settings) (name : String) :
    (settings.without name).get? name = none :=
  settings.values.get?_erase_self name

theorem Settings.get?_without_of_ne (settings : Settings) {name other : String} (different : other ≠ name) :
    (settings.without name).get? other = settings.get? other :=
  settings.values.get?_erase_of_ne name other different

structure OwnSetting where
  name : String
  shape : Shape
deriving DecidableEq

def ownSettings : List OwnSetting := [
  ⟨"path", .string⟩,
  ⟨"detectCfnRegExps", .stringList⟩,
  ⟨"ignoreRulesRegExps", .stringList⟩,
  ⟨"lintOnOpen", .boolean⟩,
  ⟨"lintOnChange", .boolean⟩,
  ⟨"lintOnSave", .boolean⟩]

def documentedNames : List String := flagTable.map FlagRow.key ++ ownSettings.map OwnSetting.name

namespace OwnSetting

def IsMisfit (own : OwnSetting) (settings : Settings) : Prop :=
  ∃ value, settings.get? own.name = some value ∧ value.shape ≠ own.shape

def IsUnset (own : OwnSetting) (settings : Settings) : Prop :=
  ∀ value, settings.get? own.name = some value → value.shape ≠ own.shape

/-- The right settings are the left ones, or these without a value of the wrong shape. -/
def MisfitDropped (own : OwnSetting) (left right : Settings) : Prop :=
  right = left ∨ own.IsMisfit left ∧ right = left.without own.name

end OwnSetting

namespace Settings

def AgreeOnDocumented (left right : Settings) : Prop :=
  ∀ name ∈ documentedNames, left.get? name = right.get? name

/-- The same values are passed on, and what the program reads itself is the same or unset. -/
structure CountAlike (left right : Settings) : Prop where
  flags : ∀ row ∈ flagTable, left.get? row.key = right.get? row.key
  own : ∀ own ∈ ownSettings,
    left.get? own.name = right.get? own.name ∨ own.IsUnset left ∧ own.IsUnset right

theorem AgreeOnDocumented.countAlike {left right : Settings} (agree : left.AgreeOnDocumented right) :
    left.CountAlike right where
  flags row isRow := agree row.key (List.mem_append_left _ (List.mem_map_of_mem isRow))
  own own isOwn := .inl (agree own.name (List.mem_append_right _ (List.mem_map_of_mem isOwn)))

theorem countAlike_of_misfitDropped {own : OwnSetting} (isOwn : own ∈ ownSettings) {left right : Settings}
    (dropped : own.MisfitDropped left right) : left.CountAlike right := by
  rcases dropped with rfl | ⟨⟨value, known, misfit⟩, rfl⟩
  · exact ⟨fun _ _ => rfl, fun _ _ => .inl rfl⟩
  · have apart : ∀ row ∈ flagTable, ∀ own ∈ ownSettings, row.key ≠ own.name := by
      decide
    have distinct : ∀ first ∈ ownSettings, ∀ second ∈ ownSettings, first.name = second.name → first = second := by
      decide
    constructor
    · intro row isRow
      exact (left.get?_without_of_ne (apart row isRow own isOwn)).symm
    · intro found isFound
      -- the setting that was dropped counted as none before; no other one has its name
      by_cases same : found.name = own.name
      · have isSame := distinct found isFound own isOwn same
        subst isSame
        refine .inr ⟨?_, ?_⟩
        · intro otherValue isOther
          rw [known] at isOther
          cases isOther
          exact misfit
        · intro otherValue isOther
          rw [left.get?_without_self] at isOther
          cases isOther
      · exact .inl (left.get?_without_of_ne same).symm

structure SameSession (left right : Settings) : Prop extends SameRun left right where
  detectPatterns : left.detectPatterns = right.detectPatterns
  lintOnOpen : left.lintOnOpen = right.lintOnOpen
  lintOnChange : left.lintOnChange = right.lintOnChange
  lintOnSave : left.lintOnSave = right.lintOnSave

theorem linterPath_of_unset {settings : Settings} (unset : OwnSetting.IsUnset ⟨"path", .string⟩ settings) :
    settings.linterPath = defaultLinter := by
  unfold linterPath
  split
  · rename_i text known
    exact absurd rfl (unset _ known)
  · rfl

theorem listOf_of_unset {settings : Settings} {name : String} (unset : OwnSetting.IsUnset ⟨name, .stringList⟩ settings) :
    settings.listOf name = [] := by
  unfold listOf
  split
  · rename_i items known
    exact absurd rfl (unset _ known)
  · rfl

theorem flagOf_of_unset {settings : Settings} {name : String} (default : Bool)
    (unset : OwnSetting.IsUnset ⟨name, .boolean⟩ settings) : settings.flagOf name default = default := by
  unfold flagOf
  split
  · rename_i value known
    exact absurd rfl (unset _ known)
  · rfl

section

variable {left right : Settings} (alike : left.CountAlike right)

include alike

theorem CountAlike.listOf {name : String} (isOwn : ⟨name, .stringList⟩ ∈ ownSettings) :
    left.listOf name = right.listOf name := by
  rcases alike.own _ isOwn with same | ⟨leftUnset, rightUnset⟩
  · rw [Settings.listOf, Settings.listOf, same]
  · rw [listOf_of_unset leftUnset, listOf_of_unset rightUnset]

theorem CountAlike.flagOf {name : String} (default : Bool) (isOwn : ⟨name, .boolean⟩ ∈ ownSettings) :
    left.flagOf name default = right.flagOf name default := by
  rcases alike.own _ isOwn with same | ⟨leftUnset, rightUnset⟩
  · rw [Settings.flagOf, Settings.flagOf, same]
  · rw [flagOf_of_unset default leftUnset, flagOf_of_unset default rightUnset]

theorem CountAlike.linterPath : left.linterPath = right.linterPath := by
  rcases alike.own ⟨"path", .string⟩ List.mem_cons_self with same | ⟨leftUnset, rightUnset⟩
  · rw [Settings.linterPath, Settings.linterPath, same]
  · rw [linterPath_of_unset leftUnset, linterPath_of_unset rightUnset]

theorem CountAlike.sameSession : left.SameSession right where
  linterPath := alike.linterPath
  ignorePatterns := alike.listOf (by decide)
  flags := alike.flags
  detectPatterns := alike.listOf (by decide)
  lintOnOpen := alike.flagOf true (by decide)
  lintOnChange := alike.flagOf false (by decide)
  lintOnSave := alike.flagOf true (by decide)

end

end Settings

/-! ### Checks and events -/

inductive Event.Alike (related : Settings → Settings → Prop) : Event → Event → Prop where
  | opened (document : Document) : Alike related (.opened document) (.opened document)
  | changed (document : Document) : Alike related (.changed document) (.changed document)
  | saved (document : Document) : Alike related (.saved document) (.saved document)
  | reread (changedSection : String) :
      Alike related (.configurationChanged changedSection none) (.configurationChanged changedSection none)
  | replaced (changedSection : String) {left right : Settings} (isRelated : related left right) :
      Alike related (.configurationChanged changedSection (some left))
        (.configurationChanged changedSection (some right))
  | closed (uri : String) : Alike related (.closed uri) (.closed uri)

theorem Event.Alike.mono {related others : Settings → Settings → Prop}
    (weaker : ∀ left right, related left right → others left right) {left right : Event}
    (alike : Alike related left right) : Alike others left right := by
  cases alike with
  | opened document => exact .opened document
  | changed document => exact .changed document
  | saved document => exact .saved document
  | reread changedSection => exact .reread changedSection
  | replaced changedSection isRelated => exact .replaced changedSection (weaker _ _ isRelated)
  | closed uri => exact .closed uri

theorem Engine.lint_of_same_session [Sink τ] (host : Host σ) (engine : Engine τ) (document : Document)
    (world : World σ) {settings : Settings} (same : settings.SameSession engine.settings) :
    let checked := engine.lint host document world
    (engine.setSettings settings).lint host document world =
      (checked.1, checked.2.1.setSettings settings, checked.2.2) := by
  have sameJudgement : Template.judge document.text (engine.setSettings settings).settings.detectPatterns =
      Template.judge document.text engine.settings.detectPatterns :=
    congrArg (Template.judge document.text) same.detectPatterns
  unfold lint
  rw [sameJudgement]
  cases Template.judge document.text engine.settings.detectPatterns with
  | error failure => rfl
  | ok verdict =>
      dsimp only
      split
      · exact engine.lintUnchecked_of_same_run host document _ same.toSameRun
      · rfl

namespace Session

def withSettings (session : Session τ) (settings : Settings) : Session τ :=
  { session with engine := session.engine.setSettings settings }

theorem settings_withSettings (session : Session τ) (settings : Settings) :
    (session.withSettings settings).engine.settings = settings :=
  rfl

theorem lastVersions_withSettings (session : Session τ) (settings : Settings) :
    (session.withSettings settings).lastVersions = session.lastVersions :=
  rfl

theorem track_withSettings (session : Session τ) (settings : Settings) (document : Document) :
    (session.withSettings settings).track document = (session.track document).withSettings settings :=
  rfl

def under {α : Type} (settings : Settings) (step : α × Session τ × World σ) : α × Session τ × World σ :=
  (step.1, step.2.1.withSettings settings, step.2.2)

section

variable [Sink τ] (host : Host σ) {settings : Settings}

theorem lint_of_same_session (session : Session τ) (document : Document) (world : World σ)
    (same : settings.SameSession session.engine.settings) :
    (session.withSettings settings).lint host document world =
      under settings (session.lint host document world) := by
  have byEngine := session.engine.lint_of_same_session host document world same
  unfold under lint withSettings
  dsimp only at byEngine ⊢
  rw [byEngine]

theorem lintOne_of_same_session (session : Session τ) (document : Document) (world : World σ)
    (same : settings.SameSession session.engine.settings) :
    (session.withSettings settings).lintOne host document world =
      under settings (session.lintOne host document world) := by
  unfold lintOne
  rw [lint_of_same_session host session document world same]
  rcases session.lint host document world with ⟨result, after, ended⟩
  cases result with
  | error failure => rfl
  | ok outcome => rfl

theorem lintAll_of_same_session (documents : List Document) (session : Session τ) (world : World σ)
    (same : settings.SameSession session.engine.settings) :
    lintAll host documents (session.withSettings settings) world =
      under settings (lintAll host documents session world) := by
  induction documents generalizing session world with
  | nil => rfl
  | cons document rest ih =>
      -- a check leaves the settings as they are, so those for the rest are still alike
      have sameBehind : settings.SameSession (session.lint host document world).2.1.engine.settings := by
        rw [settings_lint]
        exact same
      rw [lintAll, lintAll, lint_of_same_session host session document world same]
      generalize session.lint host document world = checked at sameBehind ⊢
      obtain ⟨result, after, ended⟩ := checked
      cases result with
      | error failure => simp only [under, ih after _ sameBehind]
      | ok outcome => simp only [under, ih after _ sameBehind]

/-- Events that are alike have the same effect on sessions that read the same from their settings, and leave
them reading the same. -/
theorem handle_of_same_session (session : Session τ) (world : World σ)
    (same : settings.SameSession session.engine.settings) {event other : Event}
    (alike : Event.Alike Settings.SameSession other event) :
    ∃ after : Settings, after.SameSession (session.handle host event world).2.1.engine.settings ∧
      (session.withSettings settings).handle host other world = under after (session.handle host event world) := by
  rw [settings_handle]
  cases alike with
  | opened document =>
      refine ⟨settings, same, ?_⟩
      have sameFlag : settings.lintOnOpen = (session.track document).engine.settings.lintOnOpen := same.lintOnOpen
      simp only [handle, track_withSettings, settings_withSettings, sameFlag]
      split
      · exact lintOne_of_same_session host (session.track document) document world same
      · rfl
  | changed document =>
      refine ⟨settings, same, ?_⟩
      have sameFlag : settings.lintOnChange = (session.track document).engine.settings.lintOnChange :=
        same.lintOnChange
      simp only [handle, track_withSettings, settings_withSettings, lastVersions_withSettings, sameFlag]
      split
      · rfl
      · by_cases isKnown : (session.track document).lastVersions.get? document.uri = some document.version
        · rw [if_pos isKnown]
          exact if_pos isKnown
        · rw [if_neg isKnown]
          exact (if_neg isKnown).trans (lintOne_of_same_session host (session.track document) document world same)
  | saved document =>
      refine ⟨settings, same, ?_⟩
      have sameFlag : settings.lintOnSave = (session.track document).engine.settings.lintOnSave := same.lintOnSave
      simp only [handle, track_withSettings, settings_withSettings, sameFlag]
      split
      · exact lintOne_of_same_session host (session.track document) document world same
      · rfl
  | reread changedSection =>
      refine ⟨settings, ?_, ?_⟩
      · simp only [prepare, Engine.setSettings, adopted, Option.getD_none, ite_self]
        exact same
      · cases affects : affectsSettings changedSection with
        | false => simp [handle, affects, under]
        | true =>
            simp only [handle, affects]
            exact lintAll_of_same_session host _ session world same
  | @replaced changedSection left right isRelated =>
      -- both sessions drop the settings that they had, so only the new ones have to be alike
      cases affects : affectsSettings changedSection with
      | false =>
          refine ⟨settings, ?_, ?_⟩
          · simp only [prepare, Engine.setSettings, adopted, affects]
            exact same
          · simp [handle, affects, under]
      | true =>
          refine ⟨left, ?_, ?_⟩
          · simp only [prepare, Engine.setSettings, adopted, affects]
            exact isRelated
          · simp only [handle, affects]
            exact lintAll_of_same_session host _ (session.withSettings right) world isRelated
  | closed uri => exact ⟨settings, same, rfl⟩

end

/-! ### Runs -/

/-- What can be seen of a session after an event: what came of the event, the commands that it started, what the
session keeps and shows of documents, and the machine with its log. -/
structure Sight (σ τ : Type) where
  result : Except Failure (List Outcome)
  commands : List Command
  openDocuments : SortedMap Document
  lastVersions : SortedMap Int
  latest : SortedMap (List Diagnostic)
  sink : τ
  world : World σ

def sights [Sink τ] (host : Host σ) : List Event → Session τ → World σ → List (Sight σ τ)
  | [], _, _ => []
  | event :: rest, session, world =>
      let (result, after, ended) := session.handle host event world
      ⟨result, session.commands host event world, after.openDocuments, after.lastVersions, after.engine.latest,
        after.engine.sink, ended⟩ :: sights host rest after ended

def freshSights [Sink τ] (host : Host σ) (settings : Settings) (projectRoot : Path) (sink : τ)
    (events : List Event) (world : World σ) : List (Sight σ τ) :=
  let (engine, world) := Engine.start settings projectRoot sink world
  sights host events (start engine) world

section

variable [Sink τ] (host : Host σ)

theorem commands_of_same_session {settings : Settings} (session : Session τ) (world : World σ)
    (same : settings.SameSession session.engine.settings) {event other : Event}
    (alike : Event.Alike Settings.SameSession other event) :
    (session.withSettings settings).commands host other world = session.commands host event world := by
  obtain ⟨after, -, handled⟩ := handle_of_same_session host.recorded session ⟨(world.state, []), world.log⟩ same alike
  rw [commands, handled]
  rfl

theorem sights_of_same_session {events others : List Event}
    (alike : List.Forall₂ (Event.Alike Settings.SameSession) others events) {settings : Settings}
    (session : Session τ) (world : World σ) (same : settings.SameSession session.engine.settings) :
    sights host others (session.withSettings settings) world = sights host events session world := by
  induction alike generalizing session settings world with
  | nil => rfl
  | @cons other event others events alikeFirst _ ih =>
      obtain ⟨after, sameAfter, handled⟩ := handle_of_same_session host session world same alikeFirst
      have sameCommands := commands_of_same_session host session world same alikeFirst
      rw [sights, sights, handled, sameCommands]
      have behind := ih (session.handle host event world).2.1 (session.handle host event world).2.2 sameAfter
      exact congrArg (_ :: ·) behind

/-- No run of a new session shows which of two settings is in force where they are so related. -/
def Indifferent (τ : Type) [Sink τ] (host : Host σ) (related : Settings → Settings → Prop) : Prop :=
  ∀ (projectRoot : Path) (sink : τ) (world : World σ) (left right : Settings) (leftEvents rightEvents : List Event),
    related left right → List.Forall₂ (Event.Alike related) leftEvents rightEvents →
      freshSights host left projectRoot sink leftEvents world =
        freshSights host right projectRoot sink rightEvents world

theorem indifferent_of_countAlike (τ : Type) [Sink τ] {related : Settings → Settings → Prop}
    (countAlike : ∀ left right, related left right → left.CountAlike right) : Indifferent τ host related := by
  intro projectRoot sink world left right leftEvents rightEvents isRelated alike
  have alikeEvents : List.Forall₂ (Event.Alike Settings.SameSession) leftEvents rightEvents :=
    alike.imp fun _ _ alikeEvent => alikeEvent.mono fun _ _ each => (countAlike _ _ each).sameSession
  exact sights_of_same_session host alikeEvents (start (Engine.start right projectRoot sink world).1)
    (Engine.start right projectRoot sink world).2 (countAlike left right isRelated).sameSession

/-- Settings that are not documented make no difference to a session, and to no setting that the program reads
itself does it make a difference whether a value of the wrong shape is there or none.  The commands are compared
as well, and keeping a record of them changes nothing else that is compared. -/
theorem indifferent_to_undocumented (τ : Type) [Sink τ] :
    Indifferent τ host Settings.AgreeOnDocumented ∧
    (∀ own ∈ ownSettings, Indifferent τ host own.MisfitDropped) ∧
    ∀ (session : Session τ) (event : Event) (world : World σ), session.FaithfullyRecorded host event world := by
  refine ⟨?undocumented, ?misfits, ?recorded⟩
  case undocumented => exact indifferent_of_countAlike host τ fun _ _ agree => agree.countAlike
  case misfits =>
    intro own isOwn
    exact indifferent_of_countAlike host τ fun _ _ dropped => Settings.countAlike_of_misfitDropped isOwn dropped
  case recorded => exact handle_recorded host

end

/-! ### A setting that is not documented, and a path that is a list -/

def timedSettings : Settings := Settings.ofList [("timeout", .boolean true), ("ignoreChecks", .stringList ["W"])]

def listedPath : Settings := Settings.ofList [("path", .stringList ["sh"]), ("ignoreChecks", .stringList ["W"])]

def checkedSettings : Settings := Settings.ofList [("ignoreChecks", .stringList ["W"])]

def eventsUnder (settings : Settings) : List Event := [
  .opened (templateAt "file:///b.yaml" 1),
  .configurationChanged "cfnlint" (some settings)]

theorem indifferent_to_timeout_and_listed_path :
    let root := Path.ofString "/"
    let seen := freshSights countingHost checkedSettings root Collection.empty (eventsUnder checkedSettings) ⟨0, []⟩
    seen.map (·.commands.length) = [1, 1] ∧
    timedSettings.AgreeOnDocumented checkedSettings ∧
    freshSights countingHost timedSettings root Collection.empty (eventsUnder timedSettings) ⟨0, []⟩ = seen ∧
    OwnSetting.MisfitDropped ⟨"path", .string⟩ listedPath checkedSettings ∧
    freshSights countingHost listedPath root Collection.empty (eventsUnder listedPath) ⟨0, []⟩ = seen := by
  intro root seen
  obtain ⟨toUndocumented, toMisfits, -⟩ := indifferent_to_undocumented countingHost Collection
  have agree : timedSettings.AgreeOnDocumented checkedSettings := by
    unfold Settings.AgreeOnDocumented
    decide +kernel
  have dropped : OwnSetting.MisfitDropped ⟨"path", .string⟩ listedPath checkedSettings :=
    .inr ⟨⟨.stringList ["sh"], by decide +kernel, by decide⟩, by decide +kernel⟩
  have alike {related : Settings → Settings → Prop} {left right : Settings} (isRelated : related left right) :
      List.Forall₂ (Event.Alike related) (eventsUnder left) (eventsUnder right) :=
    .cons (.opened _) (.cons (.replaced _ isRelated) .nil)
  refine ⟨by decide +kernel, agree, ?_, dropped, ?_⟩
  · exact toUndocumented root Collection.empty ⟨0, []⟩ _ _ _ _ agree (alike agree)
  · exact toMisfits _ (by decide) root Collection.empty ⟨0, []⟩ _ _ _ _ dropped (alike dropped)

end Session

end TemplateLint
