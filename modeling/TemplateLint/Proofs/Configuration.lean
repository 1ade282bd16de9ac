import TemplateLint.Configuration
import TemplateLint.Proofs.FirstFailure

set_option autoImplicit false

/-!
Settings come from one source.

Which source it is depends on what exists, never on what a file holds.  So a file that cannot be used is a failure
even if another one could have been used, and what the other candidates hold does not matter.
-/

namespace TemplateLint

theorem FileEntry.isPresent_iff (entry : FileEntry) : entry.isPresent = true ↔ entry ≠ .absent := by
  cases entry with
  | absent => exact ⟨nofun, fun present => absurd rfl present⟩
  | unreadable => exact ⟨fun _ => nofun, fun _ => rfl⟩
  | file content => exact ⟨fun _ => nofun, fun _ => rfl⟩

namespace Configuration

/-! ### Sources -/

inductive Source where
  | missing (path : Path)
  | file (path : Path)
  | nowhere
deriving DecidableEq, Repr

/-- The source that decides.  A file that was asked for is the only candidate, and otherwise the file of the project
comes before the one in the home directory.  It counts what exists, and not what it holds. -/
inductive Selects (entry : Path → FileEntry) (home : Option Path) :
    (explicit project : Option Path) → Source → Prop where
  | missing {path : Path} {project : Option Path} (absent : entry path = .absent) :
      Selects entry home (some path) project (.missing path)
  | explicit {path : Path} {project : Option Path} (present : entry path ≠ .absent) :
      Selects entry home (some path) project (.file path)
  | project {directory : Path} (present : entry (pathIn directory) ≠ .absent) :
      Selects entry home none (some directory) (.file (pathIn directory))
  | home {project : Option Path} {directory : Path}
      (noProject : ∀ other ∈ project, entry (pathIn other) = .absent) (isHome : home = some directory)
      (present : entry (pathIn directory) ≠ .absent) :
      Selects entry home none project (.file (pathIn directory))
  | nowhere {project : Option Path} (noProject : ∀ other ∈ project, entry (pathIn other) = .absent)
      (noHome : ∀ directory ∈ home, entry (pathIn directory) = .absent) :
      Selects entry home none project .nowhere

inductive Yields (entry : Path → FileEntry) : Source → Except Failure Settings → Prop where
  | missing (path : Path) : Yields entry (.missing path) (.error (.notFound path.display))
  | nowhere : Yields entry .nowhere (.ok Settings.empty)
  | unreadable {path : Path} (noText : (entry path).text? = none) : Yields entry (.file path) (.error .io)
  | malformed {path : Path} {text : String} (isText : (entry path).text? = some text)
      (noDocument : Toml.parse? text.toList = none) : Yields entry (.file path) (.error .parsingFailed)
  | unusable {path : Path} {text : String} {document : Toml} (isText : (entry path).text? = some text)
      (isDocument : Toml.parse? text.toList = some document)
      (noSettings : Settings.ofDocument? document = none) : Yields entry (.file path) (.error .parsingFailed)
  | usable {path : Path} {text : String} {document : Toml} {settings : Settings}
      (isText : (entry path).text? = some text) (isDocument : Toml.parse? text.toList = some document)
      (isSettings : Settings.ofDocument? document = some settings) : Yields entry (.file path) (.ok settings)

variable {entry entry' : Path → FileEntry} {home home' explicit explicit' project project' : Option Path}
  {source other : Source}

theorem exists_selects_project (entry : Path → FileEntry) (home project : Option Path) :
    ∃ source, Selects entry home none project source := by
  by_cases inProject : ∃ directory ∈ project, entry (pathIn directory) ≠ .absent
  · obtain ⟨directory, rfl, present⟩ := inProject
    exact ⟨_, .project present⟩
  · have noProject : ∀ other ∈ project, entry (pathIn other) = .absent := by
      intro other isProject
      exact Decidable.byContradiction fun present => inProject ⟨other, isProject, present⟩
    by_cases inHome : ∃ directory ∈ home, entry (pathIn directory) ≠ .absent
    · obtain ⟨directory, isHome, present⟩ := inHome
      exact ⟨_, .home noProject isHome present⟩
    · refine ⟨_, .nowhere noProject fun directory isHome => ?_⟩
      exact Decidable.byContradiction fun present => inHome ⟨directory, isHome, present⟩

theorem exists_selects (entry : Path → FileEntry) (home explicit project : Option Path) :
    ∃ source, Selects entry home explicit project source := by
  cases explicit with
  | none => exact exists_selects_project entry home project
  | some path =>
      by_cases absent : entry path = .absent
      · exact ⟨_, .missing absent⟩
      · exact ⟨_, .explicit absent⟩

theorem Selects.unique (selected : Selects entry home explicit project source)
    (selectedToo : Selects entry home explicit project other) : other = source := by
  cases selected with
  | missing absent =>
      cases selectedToo with
      | missing => rfl
      | explicit present => exact absurd absent present
  | explicit present =>
      cases selectedToo with
      | missing absent => exact absurd absent present
      | explicit => rfl
  | project present =>
      cases selectedToo with
      | project => rfl
      | home noProject => exact absurd (noProject _ rfl) present
      | nowhere noProject => exact absurd (noProject _ rfl) present
  | home noProject isHome present =>
      cases selectedToo with
      | project presentToo => exact absurd (noProject _ rfl) presentToo
      | home _ isHomeToo =>
          cases isHome.symm.trans isHomeToo
          rfl
      | nowhere _ noHome => exact absurd (noHome _ isHome) present
  | nowhere noProject noHome =>
      cases selectedToo with
      | project present => exact absurd (noProject _ rfl) present
      | home _ isHome present => exact absurd (noHome _ isHome) present
      | nowhere => rfl

/-! ### Loading -/

/-- The settings of a source and what the log says about it.  Of the machine it reads one entry. -/
def Source.load (entry : Path → FileEntry) : Source → Except Failure Settings × List LogRecord
  | .missing path => (.error (.notFound path.display), [])
  | .file path =>
      match ofEntry (entry path) with
      | .error failure => (.error failure, [])
      | .ok settings => (.ok settings, [⟨.debug, "Loaded configuration from " ++ path.display⟩])
  | .nowhere => defaults

theorem loadFile_of_absent {path : Path} (absent : entry path = .absent) :
    loadFile entry path = (Source.missing path).load entry := by
  rw [loadFile, if_neg fun present => (FileEntry.isPresent_iff _).1 present absent]
  rfl

theorem loadFile_of_present {path : Path} (present : entry path ≠ .absent) :
    loadFile entry path = (Source.file path).load entry := by
  rw [loadFile, if_pos ((FileEntry.isPresent_iff _).2 present)]
  rfl

theorem loadHome_of_absent (noHome : ∀ directory ∈ home, entry (pathIn directory) = .absent) :
    loadHome entry home = defaults := by
  cases home with
  | none => rfl
  | some directory =>
      rw [loadHome, if_neg fun present => (FileEntry.isPresent_iff _).1 present (noHome directory rfl)]

theorem load_of_absent (noProject : ∀ other ∈ project, entry (pathIn other) = .absent) :
    load entry home project = loadHome entry home := by
  cases project with
  | none => rfl
  | some directory =>
      rw [load, if_neg fun present => (FileEntry.isPresent_iff _).1 present (noProject directory rfl)]

theorem Selects.resolve_eq (selected : Selects entry home explicit project source) :
    resolve entry home explicit project = source.load entry := by
  cases selected with
  | missing absent => exact loadFile_of_absent absent
  | explicit present => exact loadFile_of_present present
  | project present =>
      rw [resolve, load, if_pos ((FileEntry.isPresent_iff _).2 present), loadFile_of_present present]
  | home noProject isHome present =>
      rw [resolve, load_of_absent noProject, isHome, loadHome, if_pos ((FileEntry.isPresent_iff _).2 present),
        loadFile_of_present present]
  | nowhere noProject noHome =>
      rw [resolve, load_of_absent noProject, loadHome_of_absent noHome]
      rfl

theorem ofEntry_of_no_text {content : FileEntry} (noText : content.text? = none) : ofEntry content = .error .io := by
  rw [ofEntry, noText]

theorem ofEntry_of_no_document {content : FileEntry} {text : String} (isText : content.text? = some text)
    (noDocument : Toml.parse? text.toList = none) : ofEntry content = .error .parsingFailed := by
  rw [ofEntry, isText]
  dsimp only
  rw [noDocument]
  rfl

theorem ofEntry_of_document {content : FileEntry} {text : String} {document : Toml}
    (isText : content.text? = some text) (isDocument : Toml.parse? text.toList = some document) :
    ofEntry content =
      match Settings.ofDocument? document with
      | some settings => .ok settings
      | none => .error .parsingFailed := by
  rw [ofEntry, isText]
  dsimp only
  rw [isDocument]
  rfl

theorem yields_ofEntry (entry : Path → FileEntry) (path : Path) :
    Yields entry (.file path) (ofEntry (entry path)) := by
  cases isText : (entry path).text? with
  | none =>
      rw [ofEntry_of_no_text isText]
      exact .unreadable isText
  | some text =>
      cases isDocument : Toml.parse? text.toList with
      | none =>
          rw [ofEntry_of_no_document isText isDocument]
          exact .malformed isText isDocument
      | some document =>
          rw [ofEntry_of_document isText isDocument]
          cases isSettings : Settings.ofDocument? document with
          | none => exact .unusable isText isDocument isSettings
          | some settings => exact .usable isText isDocument isSettings

theorem Source.load_file (entry : Path → FileEntry) (path : Path) :
    ((Source.file path).load entry).1 = ofEntry (entry path) := by
  rw [load]
  cases ofEntry (entry path) with
  | error failure => rfl
  | ok settings => rfl

theorem Source.yields_load (entry : Path → FileEntry) (source : Source) :
    Yields entry source (source.load entry).1 := by
  cases source with
  | missing path => exact .missing path
  | nowhere => exact .nowhere
  | file path =>
      rw [load_file]
      exact yields_ofEntry entry path

theorem Source.load_congr (same : ∀ path, source = .file path → entry path = entry' path) :
    source.load entry = source.load entry' := by
  cases source with
  | missing path => rfl
  | nowhere => rfl
  | file path => rw [load, load, same path rfl]

/-- Exactly one source is selected, and what comes of it comes of the whole.  Of two machines with the same source
and the same file there, whatever else they hold, comes the same. -/
theorem resolve_from_one_source :
    (∀ entry home explicit project, ∃ source, Selects entry home explicit project source ∧
      (∀ other, Selects entry home explicit project other → other = source) ∧
        Yields entry source (resolve entry home explicit project).1) ∧
    (∀ entry entry' home home' explicit explicit' project project' source,
      Selects entry home explicit project source → Selects entry' home' explicit' project' source →
        (∀ path, source = .file path → entry path = entry' path) →
          resolve entry home explicit project = resolve entry' home' explicit' project') := by
  constructor
  · intro entry home explicit project
    obtain ⟨source, selected⟩ := exists_selects entry home explicit project
    refine ⟨source, selected, fun other => selected.unique, ?_⟩
    rw [selected.resolve_eq]
    exact source.yields_load entry
  · intro entry entry' home home' explicit explicit' project project' source selected selected' same
    rw [selected.resolve_eq, selected'.resolve_eq, Source.load_congr same]

/-! ### A broken file of a project -/

def workDirectory : Path := Path.ofString "/work"

def homeDirectory : Path := Path.ofString "/home"

def entryWithBrokenProject (atHome : FileEntry) (path : Path) : FileEntry :=
  if path = pathIn workDirectory then .file (Text.Utf8.bytes "[cfnlint\nregions = ")
  else if path = pathIn homeDirectory then atHome
  else .absent

/-- The file in the home directory is not taken in place of the broken one. -/
theorem resolve_from_broken_project :
    let broken := entryWithBrokenProject .absent
    let usable := entryWithBrokenProject (.file (Text.Utf8.bytes "[cfnlint]\nlintOnSave = false\n"))
    Selects broken (some homeDirectory) none (some workDirectory) (.file (pathIn workDirectory)) ∧
    Selects usable (some homeDirectory) none (some workDirectory) (.file (pathIn workDirectory)) ∧
    broken (pathIn workDirectory) = usable (pathIn workDirectory) ∧
    resolve broken (some homeDirectory) none (some workDirectory) =
      resolve usable (some homeDirectory) none (some workDirectory) ∧
    (resolve usable (some homeDirectory) none (some workDirectory)).1 = .error .parsingFailed ∧
    (resolve usable (some homeDirectory) none none).1 = .ok (Settings.ofList [("lintOnSave", .boolean false)]) := by
  intro broken usable
  have present (atHome : FileEntry) : entryWithBrokenProject atHome (pathIn workDirectory) ≠ .absent := by
    rw [entryWithBrokenProject, if_pos rfl]
    exact nofun
  have same : broken (pathIn workDirectory) = usable (pathIn workDirectory) := rfl
  refine ⟨.project (present _), .project (present _), same, ?_, by decide +kernel, by decide +kernel⟩
  refine resolve_from_one_source.2 broken usable _ _ none none _ _ (.file (pathIn workDirectory))
    (.project (present _)) (.project (present _)) ?_
  intro path isPath
  cases isPath
  exact same

end Configuration

end TemplateLint
