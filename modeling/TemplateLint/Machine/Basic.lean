import TemplateLint.Machine.Shell.Run

set_option autoImplicit false

/-!
A machine with a tree of files, a shell and some small programs, as a host for the program.

Its state is the tree of files.  A command that is started reads nothing, and what it writes to its outputs is
kept; what it does to the files stays.
-/

namespace TemplateLint

structure Machine where
  currentDirectory : Machine.Place
  home : Machine.Place

namespace Machine

open TemplateLint.Machine.Shell (Process Flow)

def placeOf (names : List String) : Place := names.map Text.Utf8.bytes

def commonDirectories : List Place :=
  [["usr", "bin"], ["usr", "sbin"], ["usr", "local", "bin"], ["usr", "lib"], ["dev"], ["tmp"], ["etc"], ["home"],
    ["root"], ["var", "tmp"]].map placeOf

def commonNodes : List (Place × Node) :=
  [(placeOf ["bin"], .link (Text.Utf8.bytes "usr/bin")), (placeOf ["sbin"], .link (Text.Utf8.bytes "usr/sbin")),
    (placeOf ["lib"], .link (Text.Utf8.bytes "usr/lib")), (placeOf ["dev", "null"], .device .empty),
    (placeOf ["dev", "zero"], .device .zero), (placeOf ["dev", "full"], .device .full)]

def programNames : List (String × String) :=
  ["sh", "dash", "bash"].map (fun name => (name, "sh")) ++
    (Utility.utilityNames ++ Utility.launcherNames).map fun name => (name, name)

/-- A tree with nothing besides the directories, programs and devices that every machine has. -/
def bareTree : FileTree :=
  let directories := commonDirectories.foldl FileTree.makeDirectories FileTree.bare
  let programs := programNames.map fun (name, program) =>
    (placeOf ["usr", "bin", name], Node.program program)
  let nodes := programs ++ commonNodes
  { directories with
    entries := nodes.zipIdx directories.items.size |>.foldl (fun entries (node, number) =>
      (node.1, number) :: entries) directories.entries
    items := directories.items ++ (nodes.map fun node => Item.mk node.2 (modeFor true) 0).toArray }

def depthLimit : Nat := 1000000

def firstNumber : Nat := 1000

/-- The state of a process at its start: a stream for each output, and nothing to read. -/
def process (machine : Machine) (files : FileTree) (directory : Place) : Process where
  shared := {
    files := files
    streams := #[.device .empty, .collector [] 0 none, .collector [] 0 none]
    signals := []
    next := firstNumber + 1 }
  number := firstNumber
  shellNumber := firstNumber
  parentNumber := firstNumber - 1
  directory := directory
  directoryText := Shell.placeText directory
  bindings := ⟨[("PATH", programPath), ("HOME", Shell.placeText machine.home),
    ("PWD", Shell.placeText directory)].map fun (name, value) => ⟨name.toList, some value, true, false⟩, false⟩
  aliases := []
  parameters := []
  optionPlace := ⟨1, 0⟩
  scriptName := []
  functions := []
  known := []
  channels := [(0, 0), (1, 1), (2, 2)]
  status := 0
  innerStatus := 0
  statusOutside := none
  options := []
  loops := 0
  calls := 0
  hidden := none
  hiddenOptions := none
  line := 0
  commandName := none
  traps := []
  pending := []
  jobs := []
  lastJob := none
  mask := 0o022
  writeError := none
  isUnread := false

def launchOf (result : Flow × Process) : Launch :=
  let output := fun (code : Option Nat) => Launch.finished {
    stdout := bytesOf (result.2.shared.collected 1)
    stderr := bytesOf (result.2.shared.collected 2)
    code := code }
  match result.1 with
  | .killed _ => output none
  | .endless => .lost
  | _ => output (some (result.2.status % 256))

/-- The number that the system has for the reason why a command cannot be started. -/
def errorNumber : StartError → Option Nat
  | .path .missing => some 2
  | .path .notDirectory => some 20
  | .path .isDirectory => some 21
  | .path .tooLong => some 36
  | .path .endless => some 40
  | .denied => some 13
  | .notExecutable => some 8
  | .invalidText => none

def startMessage (error : StartError) : String :=
  match errorNumber error with
  | some number => error.message ++ " (os error " ++ toString number ++ ")"
  | none => error.message

def hasNul (text : String) : Bool := text.toList.contains nul

def directoryOf (machine : Machine) (files : FileTree) (command : Command) : Except StartError Place :=
  match command.directory with
  | none => .ok machine.currentDirectory
  | some path =>
      match files.locate machine.currentDirectory path with
      | .ok place => if files.isDirectory place then .ok place else .error (.path .notDirectory)
      | .error error => .error (.path error)

def start (machine : Machine) (command : Command) (files : FileTree) : Launch × FileTree :=
  let refuse := fun (error : StartError) => (Launch.notStarted (startMessage error), files)
  if (command.program :: command.arguments).any hasNul ||
      (command.directory.map fun path => path.bytes.contains 0) == some true then refuse .invalidText
  else
    match machine.directoryOf files command with
    | .error error => refuse error
    | .ok directory =>
        match imageNamed files directory programPath (octetsOfString command.program) with
        | .error error => refuse error
        | .ok image =>
            let result := Shell.runProgram depthLimit image (command.arguments.map octetsOfString)
              (machine.process files directory)
            (launchOf result, result.2.files)

def host (machine : Machine) : Host FileTree where
  entry := fun files path => files.entry machine.currentDirectory path
  start := machine.start
  currentDirectory := Place.path machine.currentDirectory
  home := some (Place.path machine.home)

end Machine

end TemplateLint
