import TemplateLint.Machine.Shell.Builtin.Basic

set_option autoImplicit false

/-!
The commands about the directory of a shell and about the limits that it sets.
-/

namespace TemplateLint.Machine.Shell

/-! ### The directory -/

/-- The path to which another one leads from a directory, where `..` drops the name before it. -/
def joinPath (directory path : Octets) : Octets :=
  let isAbsolute := path.head? = some '/'
  let hasTwoSlashes := fun (text : Octets) => text.take 2 == ['/', '/'] && (text.drop 2).head? != some '/'
  let root : Octets := if hasTwoSlashes (if isAbsolute then path else directory) then ['/', '/'] else ['/']
  let start := if isAbsolute then [] else splitAt '/' directory
  let names := (start ++ splitAt '/' path).foldl (fun names name =>
    if name = [] || name = ['.'] then names
    else if name = ['.', '.'] then names.drop 1
    else name :: names) []
  root ++ joinWith ['/'] names.reverse

def placeText (place : Place) : Octets := octetsOf (Place.path place).bytes

/-- The state in another directory; the path by which it is reached is the one given, or that of its place. -/
def enter? (isPhysical : Bool) (path : Octets) (process : Process) : Option Process :=
  let target := if isPhysical then path else joinPath process.directoryText path
  match process.locate target with
  | .error _ => none
  | .ok place =>
      if !process.files.isDirectory place then none
      else
        let text := if isPhysical then placeText place else target
        let bindings := (process.bindings.set "OLDPWD".toList process.directoryText).markExported "OLDPWD".toList
        let bindings := (bindings.set "PWD".toList text).markExported "PWD".toList
        some { process with directory := place, directoryText := text, bindings := bindings }

/-- The directories in which the operand of `cd` is looked for; each comes with the truth value that its path
is shown. -/
def directoriesToTry (process : Process) (target : Octets) : List (Bool × Octets) :=
  let first := target.takeWhile (· != '/')
  if target.head? = some '/' || first = ['.'] || first = ['.', '.'] then [(false, target)]
  else
    let target : Octets := if target.isEmpty then ['.'] else target
    let others := match process.bindings.get? "CDPATH".toList with
      | none => []
      | some text => (splitAt ':' text).map fun directory =>
          (!directory.isEmpty, if directory.isEmpty then target else directory ++ '/' :: target)
    others ++ [(false, target)]

def runCd (operands : List Octets) (process : Process) : Flow × Process :=
  withOptions "LP" operands process fun options operands =>
    let isPhysical := (options.getLast?.map Prod.fst) == some 'P'
    let (isBack, target) := match operands with
      | [] => (false, (process.bindings.get? "HOME".toList).getD [])
      | ['-'] :: _ => (true, (process.bindings.get? "OLDPWD".toList).getD [])
      | operand :: _ => (false, operand)
    let isDirectory := fun (path : Octets) =>
      ((process.item? path).map fun item => item.node == .directory).getD false
    let tries := directoriesToTry process target
    let chosen := (tries.find? fun entry => isDirectory entry.2).orElse fun _ => tries.getLast?
    match chosen.bind fun entry => (enter? isPhysical entry.2 process).map fun process => (entry.1, process) with
    | none => process.fail ("can't cd to ".toList ++ target)
    | some (isShown, process) =>
        goOn (if isShown || isBack then process.say (process.directoryText ++ ['\n']) else process) 0

def runPwd (operands : List Octets) (process : Process) : Flow × Process :=
  withOptions "LP" operands process fun options _ =>
    let isPhysical := (options.getLast?.map Prod.fst) == some 'P'
    let text := if isPhysical then placeText process.directory else process.directoryText
    goOn (process.say (text ++ ['\n'])) 0

/-! ### Permissions -/

structure ModeClause where
  who : Nat
  operator : Char
  bits : Nat
  /-- Permissions to execute are given only where there are some already, or to directories. -/
  ifExecutable : Bool
  copied : Option Char
deriving DecidableEq, Repr

def whoBits : Char → Option Nat
  | 'u' => some 0o4700
  | 'g' => some 0o2070
  | 'o' => some 0o1007
  | 'a' => some 0o7777
  | _ => none

def permissionBits : Char → Option Nat
  | 'r' => some 0o444
  | 'w' => some 0o222
  | 'x' => some 0o111
  | 'X' => some 0
  | 's' => some 0o6000
  | 't' => some 0o1000
  | _ => none

/-- The changes in the text behind those for whom they are; at most `fuel` of them. -/
def readActions (who : Nat) : Nat → Octets → Option (List ModeClause)
  | 0, _ => none
  | fuel + 1, text =>
      match text with
      | [] => some []
      | operator :: rest =>
          if operator != '+' && operator != '-' && operator != '=' then none
          else
            let letters := rest.takeWhile fun c => (permissionBits c).isSome
            let copied := if letters.isEmpty then rest.head?.filter fun c => "ugo".toList.contains c else none
            let behind := if copied.isSome then rest.drop 1 else rest.drop letters.length
            let bits := letters.foldl (fun bits c => bits ||| (permissionBits c).getD 0) 0
            let clause : ModeClause := ⟨who, operator, bits, letters.contains 'X', copied⟩
            (readActions who fuel behind).map (clause :: ·)

/-- The changes that a text writes with letters; `mask` are the permissions that are left alone when it is not
said for whom a change is. -/
def readMode? (mask : Nat) (text : Octets) : Option (List ModeClause) :=
  let parts := (splitAt ',' text).mapM fun part =>
    let letters := part.takeWhile fun c => (whoBits c).isSome
    let who := letters.foldl (fun bits c => bits ||| (whoBits c).getD 0) 0
    let rest := part.drop letters.length
    if rest.isEmpty then none
    else readActions (if letters.isEmpty then 0o7777 - mask else who) (rest.length + 1) rest
  parts.map List.flatten

def ModeClause.apply (clause : ModeClause) (isDirectory : Bool) (mode : Nat) : Nat :=
  let spread := fun (bits : Nat) => bits ||| bits * 8 ||| bits * 64
  let bits := match clause.copied with
    | some 'u' => spread (mode / 64 % 8)
    | some 'g' => spread (mode / 8 % 8)
    | some _ => spread (mode % 8)
    | none =>
        if clause.ifExecutable && (isDirectory || mode &&& 0o111 != 0) then clause.bits ||| 0o111 else clause.bits
  let bits := bits &&& clause.who
  match clause.operator with
  | '+' => mode ||| bits
  | '-' => mode - (mode &&& bits)
  | _ =>
      let kept := if isDirectory then clause.who &&& 0o777 else clause.who
      (mode - (mode &&& kept)) ||| bits

def applyMode (clauses : List ModeClause) (isDirectory : Bool) (mode : Nat) : Nat :=
  clauses.foldl (fun mode clause => clause.apply isDirectory mode) mode

def modeText (mode : Nat) : Octets :=
  let letters := fun (bits : Nat) =>
    (if bits &&& 4 != 0 then ['r'] else []) ++ (if bits &&& 2 != 0 then ['w'] else []) ++
      (if bits &&& 1 != 0 then ['x'] else [])
  "u=".toList ++ letters (mode / 64 % 8) ++ ",g=".toList ++ letters (mode / 8 % 8) ++ ",o=".toList ++
    letters (mode % 8)

def octalText (width mode : Nat) : Octets :=
  let digits := Nat.toDigits 8 mode
  List.replicate (width - digits.length) '0' ++ digits

def runUmask (operands : List Octets) (process : Process) : Flow × Process :=
  withOptions "S" operands process fun options operands =>
    let allowed := 0o777 - process.mask
    match operands with
    | [] =>
        let text := if hasOption options 'S' then modeText allowed else octalText 4 process.mask
        goOn (process.say (text ++ ['\n'])) 0
    | text :: _ =>
        if (text.head?.map Char.isDigit).getD false then
          if text.all isOctal then goOn { process with mask := numberIn 8 text % 512 } 0
          else process.fail ("Illegal number: ".toList ++ text)
        else
          match readMode? 0 text with
          | some clauses =>
              goOn { process with mask := 0o777 - (applyMode clauses false allowed &&& 0o777) } 0
          | none => process.fail ("Illegal mode: ".toList ++ text)

def runUlimit (operands : List Octets) (process : Process) : Flow × Process :=
  withOptions "HSatfdscmlpnvwr" operands process fun _ operands =>
    goOn (if operands.isEmpty then process.say "unlimited\n".toList else process) 0

end TemplateLint.Machine.Shell
