import TemplateLint.Document
import TemplateLint.Linting

set_option autoImplicit false

/-!
Checking documents and publishing their diagnostics.

The diagnostics of a document are replaced as a whole, and only when they differ from those published last.
-/

namespace TemplateLint

class Sink (τ : Type) where
  publish : τ → String → List Diagnostic → τ

/-- The diagnostics that are shown, and how often any were published. -/
structure Collection where
  shown : SortedMap (List Diagnostic) := SortedMap.empty
  publishCount : Nat := 0
deriving DecidableEq

def Collection.empty : Collection := {}

instance : Sink Collection where
  publish collection uri diagnostics :=
    ⟨collection.shown.put uri diagnostics, collection.publishCount + 1⟩

inductive Outcome where
  | skipped
  | unchanged (diagnostics : List Diagnostic)
  | published (diagnostics : List Diagnostic)
deriving DecidableEq, Repr

namespace Outcome

def diagnostics : Outcome → List Diagnostic
  | .skipped => []
  | .unchanged diagnostics => diagnostics
  | .published diagnostics => diagnostics

def isSkipped : Outcome → Bool
  | .skipped => true
  | _ => false

end Outcome

/-- An engine checks documents with its settings from its project root.  `latest` holds the diagnostics
published last for each document that has not been forgotten since. -/
structure Engine (τ : Type) where
  settings : Settings
  projectRoot : Path
  sink : τ
  latest : SortedMap (List Diagnostic)

namespace Engine

variable {σ τ : Type}

def start (settings : Settings) (projectRoot : Path) (sink : τ) (world : World σ) : Engine τ × World σ :=
  (⟨settings, projectRoot, sink, SortedMap.empty⟩,
    world.note .info
      ("Using " ++ projectRoot.display ++ " as the working directory to execute cfn-lint"))

def setSettings (engine : Engine τ) (settings : Settings) : Engine τ :=
  { engine with settings := settings }

def forget (engine : Engine τ) (uri : String) : Engine τ :=
  { engine with latest := engine.latest.erase uri }

def trackedDocuments (engine : Engine τ) : Nat := engine.latest.size

/-- Publishes the diagnostics of a document unless they are those published last. -/
def publish [Sink τ] (engine : Engine τ) (uri : String) (diagnostics : List Diagnostic) (world : World σ) :
    Outcome × Engine τ × World σ :=
  if engine.latest.get? uri = some diagnostics then (.unchanged diagnostics, engine, world)
  else
    (.published diagnostics,
      { engine with
        latest := engine.latest.put uri diagnostics
        sink := Sink.publish engine.sink uri diagnostics },
      world.note .info "Lint results have changed. Refreshing collection")

def lintUnchecked [Sink τ] (host : Host σ) (engine : Engine τ) (document : Document) (world : World σ) :
    Except Failure Outcome × Engine τ × World σ :=
  let path := document.path
  let world := world.note .info ("Linting " ++ path.display ++ "...")
  match lintFile host engine.settings path engine.projectRoot world with
  | (.error failure, world) => (.error failure, engine, world)
  | (.ok diagnostics, world) =>
      let (outcome, engine, world) := engine.publish document.uri diagnostics world
      (.ok outcome, engine, world)

def lint [Sink τ] (host : Host σ) (engine : Engine τ) (document : Document) (world : World σ) :
    Except Failure Outcome × Engine τ × World σ :=
  match Template.judge document.text engine.settings.detectPatterns with
  | .error failure => (.error failure, engine, world)
  | .ok verdict =>
      let world := world.note .info (verdict.note document.path.display)
      if verdict.isTemplate then engine.lintUnchecked host document world
      else (.ok .skipped, engine, world)

end Engine

end TemplateLint
