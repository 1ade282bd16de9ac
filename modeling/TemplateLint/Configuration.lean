import TemplateLint.Host
import TemplateLint.Settings.Table

set_option autoImplicit false

/-!
Where settings come from: a file that is asked for, else the file of the project, else the file in the home
directory, else nothing.  The first of these that exists decides alone; if it is unusable, that is a failure.
-/

namespace TemplateLint.Configuration

def fileName : Path := Path.ofString ".cfn-lint-bridge.toml"

def pathIn (directory : Path) : Path := directory.join fileName

def ofEntry (entry : FileEntry) : Except Failure Settings :=
  match entry.text? with
  | none => .error .io
  | some text =>
      match (Toml.parse? text.toList).bind Settings.ofDocument? with
      | some settings => .ok settings
      | none => .error .parsingFailed

/-- The settings of a file, which has to exist, and what the log says about it. -/
def loadFile (entry : Path → FileEntry) (path : Path) : Except Failure Settings × List LogRecord :=
  if (entry path).isPresent then
    match ofEntry (entry path) with
    | .error failure => (.error failure, [])
    | .ok settings => (.ok settings, [⟨.debug, "Loaded configuration from " ++ path.display⟩])
  else (.error (.notFound path.display), [])

def defaults : Except Failure Settings × List LogRecord :=
  (.ok Settings.empty, [⟨.debug, "No configuration file found; using defaults"⟩])

def loadHome (entry : Path → FileEntry) (home : Option Path) : Except Failure Settings × List LogRecord :=
  match home with
  | some directory =>
      if (entry (pathIn directory)).isPresent then loadFile entry (pathIn directory) else defaults
  | none => defaults

/-- The settings of the file of a project, if there is one.  Without a project only the home directory is
looked at. -/
def load (entry : Path → FileEntry) (home project : Option Path) : Except Failure Settings × List LogRecord :=
  match project with
  | some directory =>
      if (entry (pathIn directory)).isPresent then loadFile entry (pathIn directory) else loadHome entry home
  | none => loadHome entry home

def resolve (entry : Path → FileEntry) (home : Option Path) (explicit project : Option Path) :
    Except Failure Settings × List LogRecord :=
  match explicit with
  | some path => loadFile entry path
  | none => load entry home project

end TemplateLint.Configuration
