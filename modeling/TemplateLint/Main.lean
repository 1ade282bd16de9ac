import TemplateLint.Machine.Basic
import TemplateLint.Program

set_option autoImplicit false

/-!
The command line.

The files that the program may look at are read first: those that the command line names, the settings of the
project and of the home directory, and the files in the command of the linter.  The program then runs on a
machine with these files, and so does the linter.
-/

namespace TemplateLint.Main

open TemplateLint.Machine (FileTree Place)

/-- The place that a path names from a directory when every name on the way is a directory. -/
def placeFrom (directory : Place) (path : Path) : Place :=
  (Machine.partsOf path.bytes).foldl (fun place name =>
    if name = [] || name = Machine.selfName then place
    else if name = Machine.parentName then place.dropLast
    else place ++ [name]) (FileTree.startOf directory path)

def placeOfText (text : String) : Place := placeFrom [] (Path.ofString text)

/-- The places of the files that a request names, and of the settings that may hold for it. -/
def namedPlaces (machine : Machine) (request : CommandLine.Request) : List Place :=
  let directory := machine.currentDirectory
  let root := placeFrom directory (Program.projectRoot (Place.path directory) request.task)
  let files := match request.task with
    | .lint files _ _ _ => files
    | .detect file => [file]
    | .arguments _ _ => []
    | .doctor _ => []
  (files ++ request.configuration.toList).map (placeFrom directory) ++
    [placeFrom root Configuration.fileName, placeFrom machine.home Configuration.fileName]

def linterPlaces (machine : Machine) (request : CommandLine.Request) (tree : FileTree) : List Place :=
  let host := machine.host
  let root := Program.projectRoot host.currentDirectory request.task
  match (Configuration.resolve (host.entry tree) host.home request.configuration (some root)).1 with
  | .error _ => []
  | .ok settings =>
      match splitLinter? settings.linterPath with
      | none => []
      | some (program, first) =>
          (program :: first).map fun word =>
            placeFrom (placeFrom machine.currentDirectory root) (Path.ofString word)

def load (tree : FileTree) (place : Place) : IO FileTree := do
  try
    let content ← IO.FS.readBinFile (Place.path place).display
    pure (tree.install place (.file content.toList) true)
  catch _ => pure tree

def loadFor (machine : Machine) (request : CommandLine.Request) : IO FileTree := do
  let root := Program.projectRoot (Place.path machine.currentDirectory) request.task
  let tree := (Machine.bareTree.makeDirectories machine.currentDirectory).makeDirectories
    (placeFrom machine.currentDirectory root)
  let tree ← (namedPlaces machine request).foldlM load tree
  (linterPlaces machine request tree).foldlM load tree

def lineOf (record : LogRecord) : String := "[" ++ record.level.name ++ "] " ++ record.message

end TemplateLint.Main

def main (words : List String) : IO UInt32 := do
  let directory := (← IO.getEnv "PWD").getD "/"
  let home := (← IO.getEnv "HOME").getD "/"
  let machine : TemplateLint.Machine :=
    ⟨TemplateLint.Main.placeOfText directory, TemplateLint.Main.placeOfText home⟩
  let tree ← match TemplateLint.CommandLine.read words with
    | .ok request => TemplateLint.Main.loadFor machine request
    | .error _ => pure TemplateLint.Machine.bareTree
  let output ← IO.getStdout
  let (ending, _) := TemplateLint.Program.run machine.host (← output.isTty) words tree
  for record in ending.log do
    IO.eprintln (TemplateLint.Main.lineOf record)
  output.putStr ending.output
  match ending.complaint with
  | some text => IO.eprint text
  | none => pure ()
  pure (UInt32.ofNat ending.code)
