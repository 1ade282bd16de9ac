import TemplateLint.Engine

set_option autoImplicit false

/-!
The events of an editor, and which of them check documents.
-/

namespace TemplateLint

inductive Event where
  | opened (document : Document)
  | changed (document : Document)
  | saved (document : Document)
  | configurationChanged (changedSection : String) (settings : Option Settings)
  | closed (uri : String)
deriving DecidableEq

/-- True of the sections that hold settings of the linter: the section of settings and what is below it. -/
def affectsSettings (name : String) : Bool :=
  match afterStart? settingsSection.toList name.toList with
  | some [] => true
  | some (c :: _) => c == '.'
  | none => false

structure Session (τ : Type) where
  engine : Engine τ
  openDocuments : SortedMap Document
  lastVersions : SortedMap Int

namespace Session

variable {σ τ : Type}

def start (engine : Engine τ) : Session τ :=
  ⟨engine, SortedMap.empty, SortedMap.empty⟩

def track (session : Session τ) (document : Document) : Session τ :=
  { session with openDocuments := session.openDocuments.put document.uri document }

/-- Checks a document and remembers its version, whatever comes of it. -/
def lint [Sink τ] (host : Host σ) (session : Session τ) (document : Document) (world : World σ) :
    Except Failure Outcome × Session τ × World σ :=
  let versions := session.lastVersions.put document.uri document.version
  let (result, engine, world) := session.engine.lint host document world
  (result, { session with engine := engine, lastVersions := versions }, world)

def lintOne [Sink τ] (host : Host σ) (session : Session τ) (document : Document) (world : World σ) :
    Except Failure (List Outcome) × Session τ × World σ :=
  match session.lint host document world with
  | (.error failure, session, world) => (.error failure, session, world)
  | (.ok outcome, session, world) => (.ok [outcome], session, world)

/-- Checks documents in order, past those that fail.  The first failure is the result. -/
def lintAll [Sink τ] (host : Host σ) :
    List Document → Session τ → World σ → Except Failure (List Outcome) × Session τ × World σ
  | [], session, world => (.ok [], session, world)
  | document :: rest, session, world =>
      match session.lint host document world with
      | (.error failure, session, world) =>
          let world :=
            world.note .error ("Failed to lint " ++ document.uri ++ ": " ++ failure.message)
          let (_, session, world) := lintAll host rest session world
          (.error failure, session, world)
      | (.ok outcome, session, world) =>
          let (others, session, world) := lintAll host rest session world
          (others.map (outcome :: ·), session, world)

def handle [Sink τ] (host : Host σ) (session : Session τ) (event : Event) (world : World σ) :
    Except Failure (List Outcome) × Session τ × World σ :=
  match event with
  | .opened document =>
      let session := session.track document
      if session.engine.settings.lintOnOpen then session.lintOne host document world
      else (.ok [], session, world)
  | .changed document =>
      let session := session.track document
      if !session.engine.settings.lintOnChange then (.ok [], session, world)
      else if session.lastVersions.get? document.uri = some document.version then
        (.ok [], session,
          world.note .debug
            ("Skipping " ++ document.uri ++ ": version " ++ toString document.version ++ " already linted"))
      else session.lintOne host document world
  | .saved document =>
      let session := session.track document
      if session.engine.settings.lintOnSave then session.lintOne host document world
      else (.ok [], session, world)
  | .configurationChanged changedSection settings =>
      if !affectsSettings changedSection then (.ok [], session, world)
      else
        let session :=
          match settings with
          | some settings => { session with engine := session.engine.setSettings settings }
          | none => session
        lintAll host session.openDocuments.values session world
  | .closed uri =>
      (.ok [],
        { session with
          engine := session.engine.forget uri
          openDocuments := session.openDocuments.erase uri
          lastVersions := session.lastVersions.erase uri },
        world)

end Session

end TemplateLint
