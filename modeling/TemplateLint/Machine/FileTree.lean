import TemplateLint.Host
import TemplateLint.Machine.Octets

set_option autoImplicit false

/-!
The files of a machine, and what paths name among them.

A place is the list of names that lead to it from the root, without any `.` or `..` and without links.  The
entries of a tree give numbers to places, and the items of the tree stand at these numbers, so that one item
may have several places.  What is written later has a later time.
-/

namespace TemplateLint.Machine

abbrev Name := List UInt8

abbrev Place := List Name

inductive Device where
  | empty
  | zero
  | full
deriving DecidableEq, Repr

inductive Node where
  | directory
  | file (content : List UInt8)
  | link (target : List UInt8)
  | device (device : Device)
  | program (name : String)
deriving DecidableEq, Repr

/-- True of the files and programs, which can be executed if their permissions say so. -/
def Node.isRunnable : Node → Bool
  | .file _ => true
  | .program _ => true
  | _ => false

/-- What stands at a place, with its permissions and the time of its last change. -/
structure Item where
  node : Node
  mode : Nat
  time : Nat
deriving DecidableEq, Repr

structure FileTree where
  entries : List (Place × Nat)
  items : Array Item
  time : Nat
deriving DecidableEq, Repr

inductive PathError where
  | missing
  | notDirectory
  | isDirectory
  | endless
  | tooLong
deriving DecidableEq, Repr

def PathError.message : PathError → String
  | .missing => "No such file or directory"
  | .notDirectory => "Not a directory"
  | .isDirectory => "Is a directory"
  | .endless => "Too many levels of symbolic links"
  | .tooLong => "File name too long"

def partsOf (bytes : List UInt8) : List Name :=
  bytes.foldr (fun byte parts =>
    match parts with
    | [] => if byte = Path.separator then [[], []] else [[byte]]
    | part :: rest => if byte = Path.separator then [] :: part :: rest else (byte :: part) :: rest) [[]]

def selfName : Name := [0x2E]

def parentName : Name := [0x2E, 0x2E]

def Place.path (place : Place) : Path :=
  match place with
  | [] => ⟨[Path.separator]⟩
  | _ => ⟨place.flatMap fun name => Path.separator :: name⟩

def executeBits : Nat := 0o111

/-- The permissions of what is made without saying which: all may be read, and executed if asked for. -/
def modeFor (isExecutable : Bool) : Nat := if isExecutable then 0o755 else 0o644

def Item.isExecutable (item : Item) : Bool := item.mode &&& executeBits != 0

def nameLimit : Nat := 255

def linkLimit : Nat := 40

namespace FileTree

def bare : FileTree := ⟨[([], 0)], #[⟨.directory, modeFor true, 0⟩], 0⟩

def number? (tree : FileTree) (place : Place) : Option Nat :=
  (tree.entries.find? fun entry => entry.1 == place).map Prod.snd

def item? (tree : FileTree) (place : Place) : Option Item :=
  (tree.number? place).bind fun number => tree.items[number]?

def node? (tree : FileTree) (place : Place) : Option Node := (tree.item? place).map Item.node

def isDirectory (tree : FileTree) (place : Place) : Bool :=
  tree.node? place == some .directory

/-! ### Paths -/

def startOf (directory : Place) (path : Path) : Place :=
  if path.isAbsolute then [] else directory

/-- The place to which names lead from a place.  A link at the end is passed only if that is asked for. -/
def follow (tree : FileTree) (passesLast : Bool) (links : Nat) (place : Place) (names : List Name) :
    Except PathError Place :=
  match names with
  | [] => .ok place
  | name :: rest =>
      if !tree.isDirectory place then .error .notDirectory
      else if name = [] || name = selfName then follow tree passesLast links place rest
      else if name = parentName then follow tree passesLast links place.dropLast rest
      else if name.length > nameLimit then .error .tooLong
      else
        match tree.node? (place ++ [name]) with
        | none => .error .missing
        | some (.link target) =>
            if rest.isEmpty && !passesLast then .ok (place ++ [name])
            else
              match links with
              | 0 => .error .endless
              | links + 1 =>
                  follow tree passesLast links (startOf place ⟨target⟩) (partsOf target ++ rest)
        | some _ => follow tree passesLast links (place ++ [name]) rest
termination_by (links, names.length)

/-- True of the texts that can be paths: they are not empty and have no NUL byte. -/
def isPathText (path : Path) : Bool :=
  !path.bytes.isEmpty && !path.bytes.contains 0

/-- The existing place that a path names from a directory; a link at its end is passed only if that is asked
for. -/
def locateWith (tree : FileTree) (passesLast : Bool) (directory : Place) (path : Path) :
    Except PathError Place :=
  if isPathText path then
    tree.follow passesLast linkLimit (startOf directory path) (partsOf path.bytes)
  else .error .missing

def locate (tree : FileTree) (directory : Place) (path : Path) : Except PathError Place :=
  tree.locateWith true directory path

def locate? (tree : FileTree) (directory : Place) (path : Path) : Option Place :=
  (tree.locate directory path).toOption

/-- The place where names lead to something that exists or that could be made there. -/
def followNew (tree : FileTree) (links : Nat) (start : Place) (names : List Name) : Except PathError Place :=
  match names.getLast? with
  | none => .error .missing
  | some last => do
      let parent ← tree.follow true links start names.dropLast
      if !tree.isDirectory parent then throw .notDirectory
      if last = [] then throw .isDirectory
      if last = selfName then return parent
      if last = parentName then return parent.dropLast
      if last.length > nameLimit then throw .tooLong
      match tree.node? (parent ++ [last]), links with
      | some (.link _), 0 => throw .endless
      | some (.link target), links + 1 => followNew tree links (startOf parent ⟨target⟩) (partsOf target)
      | _, _ => return parent ++ [last]

/-- The place that a path names from a directory, whether it exists or could be made. -/
def locateNew (tree : FileTree) (directory : Place) (path : Path) : Except PathError Place :=
  if isPathText path then tree.followNew linkLimit (startOf directory path) (partsOf path.bytes)
  else .error .missing

/-! ### Changes -/

def setEntry (tree : FileTree) (place : Place) (number : Nat) : FileTree :=
  { tree with entries := (place, number) :: tree.entries.filter fun entry => entry.1 != place }

def create (tree : FileTree) (place : Place) (node : Node) (mode : Nat) : FileTree :=
  { tree with items := tree.items.push ⟨node, mode, tree.time⟩ }.setEntry place tree.items.size

def changeItem (tree : FileTree) (number : Nat) (change : Item → Item) : FileTree :=
  { tree with items := tree.items.modify number change }

def setContent (tree : FileTree) (number : Nat) (content : List UInt8) : FileTree :=
  tree.changeItem number fun item => { item with node := .file content, time := tree.time }

def remove (tree : FileTree) (place : Place) : FileTree :=
  { tree with entries := tree.entries.filter fun entry => !place.isPrefixOf entry.1 }

def move (tree : FileTree) (origin target : Place) : FileTree :=
  let moved := fun (entry : Place × Nat) =>
    if origin.isPrefixOf entry.1 then (target ++ entry.1.drop origin.length, entry.2) else entry
  { tree with entries := (tree.remove target).entries.map moved }

/-- The tree with directories at all places on the way to a place, the place itself included. -/
def makeDirectories (tree : FileTree) (place : Place) : FileTree :=
  (List.range (place.length + 1)).foldl (fun tree count =>
    if tree.isDirectory (place.take count) then tree
    else tree.create (place.take count) .directory (modeFor true)) tree

/-- The tree with something at a place, below new directories where they are missing. -/
def install (tree : FileTree) (place : Place) (node : Node) (isExecutable : Bool) : FileTree :=
  (tree.makeDirectories place.dropLast).create place node (modeFor isExecutable)

def children (tree : FileTree) (place : Place) : List Name :=
  tree.entries.filterMap fun (other, _) =>
    if !other.isEmpty && other.dropLast == place then other.getLast? else none

def countPlaces (tree : FileTree) (number : Nat) : Nat :=
  (tree.entries.filter fun entry => entry.2 == number).length

def entry (tree : FileTree) (directory : Place) (path : Path) : FileEntry :=
  match (tree.locate? directory path).bind tree.node? with
  | none => .absent
  | some (.device .empty) => .file []
  | some (.file content) => .file content
  | some _ => .unreadable

end FileTree

end TemplateLint.Machine
