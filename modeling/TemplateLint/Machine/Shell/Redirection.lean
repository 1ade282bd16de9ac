import TemplateLint.Machine.Shell.Expansion

set_option autoImplicit false

/-!
Redirections: descriptors that lead to files, to other descriptors or to texts.
-/

namespace TemplateLint.Machine.Shell

def descriptorOf? (path : Octets) : Option Nat :=
  match String.ofList path with
  | "/dev/stdin" => some 0
  | "/dev/stdout" => some 1
  | "/dev/stderr" => some 2
  | _ =>
      if "/dev/fd/".toList.isPrefixOf path then decimal? (path.drop 8)
      else if "/proc/self/fd/".toList.isPrefixOf path then decimal? (path.drop 14)
      else none

def openReason (isMade : Bool) : PathError → Octets
  | .missing | .notDirectory => if isMade then "Directory nonexistent".toList else "No such file".toList
  | other => other.message.toList

def readStream (files : FileTree) (place : Place) : Stream :=
  match files.number? place, files.node? place with
  | some number, some (.file _) => .file number 0 ⟨true, false, false⟩
  | _, some (.device device) => .device device
  | _, _ => .source []

structure RedirectionError where
  text : Octets
  isFatal : Bool

namespace Process

def openToRead (process : Process) (descriptor : Nat) (path : Octets) : Except PathError Process :=
  match (descriptorOf? path).bind process.channel? with
  | some index => .ok (process.connect descriptor index)
  | none => do
      let place ← process.locate path
      return process.connectNew descriptor (readStream process.files place)

/-- The state with a descriptor that leads to a file at a path, which is made if it is not there. -/
def openToWrite (process : Process) (descriptor : Nat) (path : Octets) (access : Access) (empties : Bool) :
    Except PathError Process :=
  match (descriptorOf? path).bind process.channel? with
  | some index => .ok (process.connect descriptor index)
  | none => do
      let place ← process.locateNew path
      match process.files.number? place, process.files.node? place with
      | some number, some (.file _) =>
          let files := if empties then process.files.setContent number [] else process.files
          return (process.withFiles files).connectNew descriptor (.file number 0 access)
      | _, some (.device device) => return process.connectNew descriptor (.device device)
      | _, some .directory => throw .isDirectory
      | _, some _ => return process.connectNew descriptor (.device .empty)
      | _, none =>
          let files := process.files.create place (.file []) (process.modeOf 0o666)
          return (process.withFiles files).connectNew descriptor (.file process.files.items.size 0 access)

def isFile (process : Process) (path : Octets) : Bool :=
  match (process.item? path).map Item.node with
  | some (.file _) => true
  | _ => false

def duplicate (process : Process) (descriptor : Nat) (text : Octets) : Except RedirectionError Process :=
  if text = ['-'] then .ok (process.close descriptor)
  else
    match if text.length = 1 then decimal? text else none with
    | none => .error ⟨"Syntax error: Bad fd number".toList, true⟩
    | some number =>
        match process.channel? number with
        | some index => .ok (process.connect descriptor index)
        | none => .error ⟨text ++ ": Bad file descriptor".toList, false⟩

/-- Carries out a redirection whose word has been expanded, or gives the reason why it cannot. -/
def redirect (process : Process) (descriptor : Nat) (kind : RedirectionKind) (text : Octets) :
    Except RedirectionError Process :=
  let refuse := fun (action reason : Octets) =>
    RedirectionError.mk (action ++ text ++ ": ".toList ++ reason) false
  let make := fun (access : Access) (empties : Bool) =>
    (process.openToWrite descriptor text access empties).mapError fun error =>
      refuse "cannot create ".toList (openReason true error)
  match kind with
  | .hereText => .ok (process.connectNew descriptor (.source text))
  | .duplicate => process.duplicate descriptor text
  | .read =>
      (process.openToRead descriptor text).mapError fun error =>
        refuse "cannot open ".toList (openReason false error)
  | .write =>
      if process.has 'C' && process.isFile text then
        .error (refuse "cannot create ".toList "File exists".toList)
      else make ⟨false, true, false⟩ true
  | .replace => make ⟨false, true, false⟩ true
  | .append => make ⟨false, true, true⟩ false
  | .both => make ⟨true, true, false⟩ false

end Process

/-- Carries out redirections in order; the result says whether all of them could be carried out. -/
def redirectAll (substitute : Substitute) : List Redirection → Process → Expanded Bool
  | [], process => (.ok true, process)
  | .mk descriptor kind word :: rest, process =>
      let rule := if kind = .hereText then TildeRule.never else .atStart
      (expandText substitute rule word process).bind fun text process =>
        match process.redirect descriptor kind text with
        | .ok process => redirectAll substitute rest process
        | .error error =>
            let (flow, process) := process.fail error.text
            (if error.isFatal then .error flow else .ok false, process)

end TemplateLint.Machine.Shell
