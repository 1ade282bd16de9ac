import TemplateLint.Machine.FileTree

set_option autoImplicit false

/-!
What is started when a path is executed.

A program of the machine is started as it is.  A script names an interpreter in its first line, and what is
started is the interpreter, with the path of the script before the operands; an interpreter may be a script
itself.
-/

namespace TemplateLint.Machine

inductive StartError where
  | path (error : PathError)
  | denied
  | notExecutable
  | invalidText
deriving DecidableEq, Repr

def StartError.message : StartError → String
  | .path error => error.message
  | .denied => "Permission denied"
  | .notExecutable => "Exec format error"
  | .invalidText => "nul byte found in provided data"

/-- A program that is started, with its own name and the operands that come before those given. -/
structure Image where
  program : String
  name : Octets
  first : List Octets
deriving DecidableEq, Repr

/-! ### The first line of a script -/

def headSize : Nat := 256

def endsInterpreter (c : Char) : Bool := isSpaceOrTab c || c == nul

def interpreterIn? (line : Octets) : Option (Octets × Option Octets) :=
  let text := (dropEndWhile isSpaceOrTab line).dropWhile isSpaceOrTab
  let name := text.takeWhile fun c => !endsInterpreter c
  match text, text.drop name.length with
  | [], _ => none
  | _, c :: rest =>
      if c = nul then some (name, none)
      else some (name, some ((rest.dropWhile isSpaceOrTab).takeWhile (· != nul)))
  | _, [] => some (name, none)

/-- The interpreter that a script names, with the operand behind it.  The line has to end in the part of the
file that is looked at, or else the path of the interpreter has to. -/
def interpreter? (content : Octets) : Option (Octets × Option Octets) :=
  match content with
  | '#' :: '!' :: _ =>
      let read := content.take headSize
      let body := (read ++ List.replicate (headSize - read.length) nul).drop 2
      if (body.takeWhile (· != nul)).contains '\n' then interpreterIn? (body.takeWhile (· != '\n'))
      else if (body.dropWhile isSpaceOrTab).any endsInterpreter then interpreterIn? body.dropLast
      else none
  | _ => none

/-! ### Images -/

def interpreterLimit : Nat := 6

/-- What is started at a path, with operands that come before those given; at most `fuel` scripts are passed. -/
def imageWithin (files : FileTree) (directory : Place) : Nat → Octets → Octets → List Octets →
    Except StartError Image
  | 0, _, _, _ => .error (.path .endless)
  | fuel + 1, path, name, first =>
      match files.locate directory ⟨bytesOf path⟩ with
      | .error error => .error (.path error)
      | .ok place =>
          match files.item? place with
          | none => .error (.path .missing)
          | some item =>
              match item.node with
              | .program program =>
                  if item.isExecutable then .ok ⟨program, name, first⟩ else .error .denied
              | .file content =>
                  if !item.isExecutable then .error .denied
                  else
                    match interpreter? (octetsOf (content.take headSize)) with
                    | none => .error .notExecutable
                    | some (interpreter, operand) =>
                        imageWithin files directory fuel interpreter interpreter
                          (operand.toList ++ path :: first)
              | _ => .error .denied

def image (files : FileTree) (directory : Place) (path name : Octets) : Except StartError Image :=
  imageWithin files directory interpreterLimit path name []

def programPath : Octets := "/usr/local/sbin:/usr/local/bin:/usr/sbin:/usr/bin:/sbin:/bin".toList

def nameIn (directory name : Octets) : Octets :=
  if directory.isEmpty then name else directory ++ '/' :: name

/-- What is started under a name in the first of some directories that has it.  A directory where it may not
be started is remembered, and any other hindrance ends the search. -/
def imageAmong (files : FileTree) (directory : Place) (name : Octets) :
    List Octets → StartError → Except StartError Image
  | [], error => .error error
  | first :: rest, error =>
      match image files directory (nameIn first name) name with
      | .ok found => .ok found
      | .error .denied => imageAmong files directory name rest .denied
      | .error (.path .missing) => imageAmong files directory name rest error
      | .error (.path .notDirectory) => imageAmong files directory name rest error
      | .error other => .error other

def imageNamed (files : FileTree) (directory : Place) (path name : Octets) : Except StartError Image :=
  if name.contains '/' then image files directory name name
  else if name.isEmpty then .error (.path .missing)
  else imageAmong files directory name (splitAt ':' path) (.path .missing)

end TemplateLint.Machine
