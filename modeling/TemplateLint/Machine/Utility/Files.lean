import TemplateLint.Machine.Utility.Basic
import TemplateLint.Machine.Utility.Print
import TemplateLint.Machine.Shell.Builtin.Directory

set_option autoImplicit false

/-!
Programs that make, remove, move and describe files.
-/

namespace TemplateLint.Machine.Utility

open Shell (Process)

def entryAt? (process : Process) (path : Octets) : Option (Place × Item) :=
  match process.locateLink path with
  | .ok place => (process.files.item? place).map fun item => (place, item)
  | .error _ => none

def isDirectoryAt (process : Process) (path : Octets) : Bool :=
  ((process.item? path).map fun item => item.node == .directory).getD false

def below (directory name : Octets) : Octets :=
  if directory.getLast? = some '/' then directory ++ name else directory ++ '/' :: name

def create (process : Process) (place : Place) (node : Node) (mode : Nat) : Process :=
  process.withFiles (process.files.create place node (process.modeOf mode))

def writeFile (process : Process) (path : Octets) (appends : Bool) (text : Octets) : Except PathError Process :=
  (process.openToWrite 200 path ⟨false, true, appends⟩ (!appends)).map fun opened =>
    (opened.write 200 text).close 200

/-! ### Making -/

def touchFile (given : List Given) (path : Octets) (process : Process) : Bool × Process :=
  let fail := fun (error : PathError) =>
    let verb := if error = .missing && path.isEmpty then "cannot touch " else "cannot touch "
    (false, warn process (verb.toList ++ quoted path ++ ": ".toList ++ reasonOf error))
  match process.locate path with
  | .ok place =>
      match process.files.number? place with
      | some number =>
          (true, process.withFiles (process.files.changeItem number fun item =>
            { item with time := process.files.time }))
      | none => (true, process)
  | .error _ =>
      if has given "c" then (true, process)
      else
        match process.locateNew path with
        | .error error => fail error
        | .ok place => (true, create process place (.file []) 0o666)

def runTouch : Tool :=
  withOptions (optionsOf "acd:fhmr:t:" [("no-create", "c"), ("date=", "d"), ("reference=", "r")]) 1
    fun given operands process =>
      if operands.isEmpty then misuse process 1 "missing file operand".toList
      else
        match (textOf? given "r").map fun path => (process.item? path).map Item.time with
        | some none =>
            refuse process 1 ("failed to get attributes of ".toList ++
              quoted ((textOf? given "r").getD []) ++ ": ".toList ++ reasonOf .missing)
        | some (some time) =>
            forEach operands process fun path process =>
              let (isGood, process) := touchFile given path process
              match (process.locate path).toOption.bind process.files.number? with
              | some number => (isGood, process.withFiles (process.files.changeItem number fun item =>
                  { item with time := time }))
              | none => (isGood, process)
        | none => forEach operands process (touchFile given)

/-- The permissions that a text writes, in digits or letters, from earlier ones. -/
def modeFrom? (text : Octets) (isDirectory : Bool) (mask mode : Nat) : Option Nat :=
  if (text.head?.map Char.isDigit).getD false then
    if text.all isOctal && numberIn 8 text ≤ 0o7777 then some (numberIn 8 text) else none
  else (Shell.readMode? mask text).map fun clauses => Shell.applyMode clauses isDirectory mode

def makeDirectory (given : List Given) (path : Octets) (process : Process) : Bool × Process :=
  let fail := fun (error : Octets) =>
    (false, warn process ("cannot create directory ".toList ++ quoted path ++ ": ".toList ++ error))
  let say := fun (process : Process) =>
    if has given "v" then process.say ("mkdir: created directory ".toList ++ quoted path ++ ['\n']) else process
  let trimmed := match dropEndWhile (· == '/') path with
    | [] => path
    | shorter => shorter
  let mode := ((textOf? given "m").bind fun text => modeFrom? text true process.mask 0o777).getD
    (process.modeOf 0o777)
  match process.locate trimmed with
  | .ok place =>
      if has given "p" && process.files.isDirectory place then (true, process) else fail "File exists".toList
  | .error _ =>
      match process.locateNew trimmed with
      | .ok place =>
          if (process.files.node? place).isSome then fail "File exists".toList
          else (true, say (process.withFiles (process.files.create place .directory mode)))
      | .error error =>
          if !has given "p" then fail (reasonOf error)
          else
            let start := FileTree.startOf process.directory (Process.pathOf trimmed)
            let names := (partsOf (bytesOf trimmed)).filter fun name => name != [] && name != selfName
            let made : Except (Nat × PathError) (Nat × Place × FileTree) :=
              names.foldlM (fun (count, place, files) name =>
                match files.follow true linkLimit place [name] with
                | .ok next =>
                    if files.isDirectory next then .ok (count + 1, next, files) else .error (count, .notDirectory)
                | .error .missing =>
                    .ok (count + 1, place ++ [name], files.create (place ++ [name]) .directory mode)
                | .error error => .error (count, error)) (0, start, process.files)
            match made with
            | .ok (_, _, files) => (true, say (process.withFiles files))
            | .error (count, error) =>
                let lead : Octets := if trimmed.head? = some '/' then ['/'] else []
                let reached := lead ++ joinWith ['/'] ((names.take (count + 1)).map octetsOf)
                (false, warn process ("cannot create directory ".toList ++ quoted reached ++ ": ".toList ++
                  reasonOf error))

def runMkdir : Tool :=
  withOptions (optionsOf "m:pvZ" [("mode=", "m"), ("parents", "p"), ("verbose", "v")]) 1
    fun given operands process =>
      if operands.isEmpty then misuse process 1 "missing operand".toList
      else forEach operands process (makeDirectory given)

/-! ### Removing -/

def withParents (path : Octets) : List Octets :=
  let parts := splitAt '/' (dropEndWhile (· == '/') path)
  ((List.range parts.length).map fun count => joinWith ['/'] (parts.take (count + 1))).reverse.filter
    fun path => !path.isEmpty

def removeDirectory (given : List Given) (path : Octets) (process : Process) : Bool × Process :=
  let fail := fun (reason : Octets) =>
    (false, warn process ("failed to remove ".toList ++ quoted path ++ ": ".toList ++ reason))
  match process.locateLink path with
  | .error error => fail (reasonOf error)
  | .ok place =>
      if !process.files.isDirectory place then fail (reasonOf .notDirectory)
      else if !(process.files.children place).isEmpty then
        if has given "i" then (true, process) else fail "Directory not empty".toList
      else
        let process := if has given "v" then
            process.say ("rmdir: removing directory, ".toList ++ quoted path ++ ['\n'])
          else process
        (true, process.withFiles (process.files.remove place))

def runRmdir : Tool :=
  withOptions (optionsOf "pv" [("parents", "p"), ("verbose", "v"), ("ignore-fail-on-non-empty", "i")]) 1
    fun given operands process =>
      if operands.isEmpty then misuse process 1 "missing operand".toList
      else
        forEach operands process fun path process =>
          let paths := if has given "p" then withParents path else [path]
          paths.foldl (fun (isGood, process) path =>
            if isGood then removeDirectory given path process else (false, process)) (true, process)

def removeFile (given : List Given) (path : Octets) (process : Process) : Bool × Process :=
  let isDeep := has given "r" || has given "R"
  let fail := fun (reason : Octets) =>
    (false, warn process ("cannot remove ".toList ++ quoted path ++ ": ".toList ++ reason))
  let last := lastPart path
  if isDeep && (last = ['.'] || last = ['.', '.']) then
    (false, warn process ("refusing to remove '.' or '..' directory: skipping ".toList ++ quoted path))
  else
    match process.locateLink path with
    | .error error =>
        if has given "f" && (error = .missing || error = .notDirectory) then (true, process)
        else fail (reasonOf error)
    | .ok place =>
        if process.files.isDirectory place && !isDeep &&
            !(has given "d" && (process.files.children place).isEmpty) then
          fail (reasonOf .isDirectory)
        else
          let process := process.withFiles (process.files.remove place)
          (true, if has given "v" then process.say ("removed ".toList ++ quoted path ++ ['\n']) else process)

def runRm : Tool :=
  withOptions (optionsOf "dfirRvI" [("force", "f"), ("recursive", "r"), ("dir", "d"), ("verbose", "v")]) 1
    fun given operands process =>
      if operands.isEmpty then
        if has given "f" then process.withStatus 0 else misuse process 1 "missing operand".toList
      else forEach operands process (removeFile given)

/-! ### Copying and moving -/

def copyTree (files : FileTree) (origin target : Place) : FileTree :=
  let found := files.entries.filter fun entry => origin.isPrefixOf entry.1
  let sorted := found.mergeSort fun left right => left.1.length ≤ right.1.length
  sorted.foldl (fun (files : FileTree) (place, number) =>
    match files.items[number]? with
    | none => files
    | some item =>
        let goal := target ++ place.drop origin.length
        match files.number? goal, item.node with
        | some _, .directory => files
        | some other, .file content => files.setContent other content
        | _, node => files.create goal node item.mode) files

def goalOf (given : List Given) (process : Process) (source target : Octets) : Octets :=
  if !has given "T" && isDirectoryAt process target then below target (lastPart source) else target

def cannotMake (what : String) (path reason : Octets) : Octets :=
  ("cannot create " ++ what).toList ++ quoted path ++ ": ".toList ++ reason

def copyFile (given : List Given) (source goal : Octets) (process : Process) : Bool × Process :=
  let isDeep := has given "r" || has given "R" || has given "a"
  let keepsLinks := has given "P" || has given "d" || (isDeep && !has given "L")
  let located := if keepsLinks then process.locateLink source else process.locate source
  match located with
  | .error error =>
      (false, warn process ("cannot stat ".toList ++ quoted source ++ ": ".toList ++ reasonOf error))
  | .ok place =>
      match process.files.item? place with
      | none => (true, process)
      | some item =>
          let goal := if item.node == .directory then dropEndWhile (· == '/') goal else goal
          if item.node == .directory && !isDeep then
            (false, warn process ("-r not specified; omitting directory ".toList ++ quoted source))
          else
            match process.locateNew goal with
            | .error error =>
                let error := if error == .missing && goal.getLast? == some '/' then .notDirectory else error
                (false, warn process (cannotMake
                  (if item.node == .directory then "directory " else "regular file ") goal (reasonOf error)))
            | .ok target =>
                let same := process.files.number? target == process.files.number? place
                if same && (process.files.number? target).isSome then
                  (false, warn process (quoted source ++ " and ".toList ++ quoted goal ++
                    " are the same file".toList))
                else if has given "n" && (process.files.node? target).isSome then (true, process)
                else if item.node == .directory then
                  match process.files.node? target with
                  | some .directory | none =>
                      (true, process.withFiles (copyTree process.files place target))
                  | some _ =>
                      (false, warn process ("cannot overwrite non-directory ".toList ++ quoted goal ++
                        " with directory ".toList ++ quoted source))
                else if process.files.isDirectory target then
                  (false, warn process ("cannot overwrite directory ".toList ++ quoted goal ++
                    " with non-directory".toList))
                else
                  let text : List UInt8 := match item.node with
                    | .file content => content
                    | _ => []
                  let files := process.files
                  match item.node, files.number? target, files.node? target with
                  | .link path, _, _ =>
                      (true, process.withFiles ((files.remove target).create target (.link path) item.mode))
                  | _, some number, some (.file _) => (true, process.withFiles (files.setContent number text))
                  | _, _, some (.device _) => (true, process)
                  | _, _, some (.program _) => (true, process)
                  | .program name, _, _ => (true, process.withFiles (files.create target (.program name) item.mode))
                  | _, _, _ => (true, process.withFiles (files.create target (.file text) (process.modeOf item.mode)))

def moveFile (given : List Given) (source goal : Octets) (process : Process) : Bool × Process :=
  match process.locateLink source with
  | .error error =>
      (false, warn process ("cannot stat ".toList ++ quoted source ++ ": ".toList ++ reasonOf error))
  | .ok place =>
      let isDirectory := process.files.isDirectory place
      let goal := if isDirectory then dropEndWhile (· == '/') goal else goal
      let refuseMove := fun (reason : Octets) =>
        (false, warn process ("cannot move ".toList ++ quoted source ++ " to ".toList ++ quoted goal ++
          ": ".toList ++ reason))
      let parent := leadingParts goal
      match process.locate parent with
      | .error error => refuseMove (reasonOf error)
      | .ok directory =>
          if !process.files.isDirectory directory then refuseMove (reasonOf .notDirectory)
          else
            let target := directory ++ [bytesOf (lastPart goal)]
            let there := process.files.node? target
            if has given "n" && there.isSome then (true, process)
            else if target == place then
              (false, warn process (quoted source ++ " and ".toList ++ quoted goal ++
                " are the same file".toList))
            else if place.isPrefixOf target then
              (false, warn process ("cannot move ".toList ++ quoted source ++
                " to a subdirectory of itself, ".toList ++ quoted goal))
            else if there == some .directory && !isDirectory then
              (false, warn process ("cannot overwrite directory ".toList ++ quoted goal ++
                " with non-directory".toList))
            else if there.isSome && there != some .directory && isDirectory then
              (false, warn process ("cannot overwrite non-directory ".toList ++ quoted goal ++
                " with directory ".toList ++ quoted source))
            else if there == some .directory && !(process.files.children target).isEmpty then
              refuseMove "Directory not empty".toList
            else (true, process.withFiles (process.files.move place target))

def runTransfer (act : List Given → Octets → Octets → Process → Bool × Process) (letters : String) : Tool :=
  withOptions (optionsOf letters [("recursive", "r"), ("force", "f"), ("archive", "a"), ("no-clobber", "n"),
      ("verbose", "v"), ("target-directory=", "t"), ("no-target-directory", "T"), ("preserve?", "p"),
      ("update?", "u"), ("no-dereference", "P"), ("dereference", "L")]) 1
    fun given operands process =>
      let (sources, target) := match textOf? given "t" with
        | some target => (operands, some target)
        | none => (operands.dropLast, operands.getLast?)
      match operands, target with
      | [], _ => misuse process 1 "missing file operand".toList
      | [only], some _ =>
          if has given "t" then
            forEach sources process fun source process =>
              act given source (goalOf given process source (target.getD [])) process
          else misuse process 1 ("missing destination file operand after ".toList ++ quoted only)
      | _, none => misuse process 1 "missing file operand".toList
      | _, some target =>
          if sources.length > 1 && !isDirectoryAt process target then
            let reason := match process.locate target with
              | .ok _ => reasonOf .notDirectory
              | .error error => reasonOf error
            refuse process 1 ("target ".toList ++ quoted target ++ ": ".toList ++ reason)
          else
            forEach sources process fun source process =>
              let goal := goalOf given process source target
              let (isGood, process) := act given source goal process
              (isGood, if has given "v" && isGood then
                process.say (quoted source ++ " -> ".toList ++ quoted goal ++ ['\n']) else process)

def runCp : Tool := runTransfer copyFile "adfinprst:uvLPRTHx"

def runMv : Tool := runTransfer moveFile "finut:vTb"

/-! ### Links -/

def existsReason : Octets := "File exists".toList

def makeLink (given : List Given) (source goal : Octets) (process : Process) : Bool × Process :=
  let isSymbolic := has given "s"
  let fail := fun (reason : Octets) =>
    let kind := if isSymbolic then "failed to create symbolic link " else "failed to create hard link "
    let origin := if isSymbolic || reason == existsReason then [] else " => ".toList ++ quoted source
    (false, warn process (kind.toList ++ quoted goal ++ origin ++ ": ".toList ++ reason))
  let origin := if isSymbolic then Except.ok [] else process.locateLink source
  match origin with
  | .error error =>
      (false, warn process ("failed to access ".toList ++ quoted source ++ ": ".toList ++ reasonOf error))
  | .ok place =>
      if !isSymbolic && process.files.isDirectory place then
        (false, warn process (source ++ ": hard link not allowed for directory".toList))
      else
        match process.locate (leadingParts goal) with
        | .error error => fail (reasonOf error)
        | .ok directory =>
            let target := directory ++ [bytesOf (lastPart goal)]
            if (process.files.node? target).isSome && !has given "f" then fail existsReason
            else
              let files := process.files.remove target
              if isSymbolic then
                (true, process.withFiles (files.create target (.link (bytesOf source)) 0o777))
              else
                match files.number? place with
                | some number => (true, process.withFiles (files.setEntry target number))
                | none => (true, process)

def runLn : Tool :=
  withOptions (optionsOf "bfinrst:vTLP" [("symbolic", "s"), ("force", "f"), ("no-dereference", "n"),
      ("verbose", "v"), ("target-directory=", "t"), ("no-target-directory", "T"), ("relative", "r")]) 1
    fun given operands process =>
      let intoDirectory := fun (target : Octets) =>
        !has given "T" && isDirectoryAt process target &&
          !(has given "n" && (((entryAt? process target).map fun entry => entry.2.node != .directory).getD false))
      let goal := fun (source target : Octets) =>
        if intoDirectory target then below target (lastPart source) else target
      match operands, textOf? given "t" with
      | [], _ => misuse process 1 "missing file operand".toList
      | sources, some target => forEach sources process fun source process =>
          makeLink given source (goal source target) process
      | [source], none => forEach [source] process fun source process =>
          makeLink given source (lastPart source) process
      | several, none =>
          let target := several.getLast?.getD []
          if several.length > 2 && !isDirectoryAt process target then
            let reason := match process.locate target with
              | .ok _ => reasonOf .notDirectory
              | .error error => reasonOf error
            refuse process 1 ("target ".toList ++ quoted target ++ ": ".toList ++ reason)
          else
            forEach several.dropLast process fun source process =>
              makeLink given source (goal source target) process

def runReadlink : Tool :=
  withOptions (optionsOf "efmnqsvz" [("canonicalize", "f"), ("canonicalize-existing", "e"),
      ("canonicalize-missing", "m"), ("no-newline", "n"), ("zero", "z")]) 1
    fun given operands process =>
      if operands.isEmpty then misuse process 1 "missing operand".toList
      else
        let ending : Octets := if has given "n" then [] else if has given "z" then [nul] else ['\n']
        forEach operands process fun path process =>
          let shown : Option Octets :=
            match lastOf? given ["e", "f", "m"] with
            | none =>
                match (entryAt? process path).map fun entry => entry.2.node with
                | some (Node.link target) => some (octetsOf target)
                | _ => none
            | some "e" => (process.locate path).toOption.map Shell.placeText
            | some "f" =>
                ((process.locate path).toOption.orElse fun _ => (process.locateNew path).toOption).map
                  Shell.placeText
            | some _ =>
                some (((process.locate path).toOption.map Shell.placeText).getD
                  (Shell.joinPath (Shell.placeText process.directory) path))
          match shown with
          | some text => (true, process.say (text ++ ending))
          | none => (false, process)

def runRealpath : Tool :=
  withOptions (optionsOf "emqsLPz" [("canonicalize-existing", "e"), ("canonicalize-missing", "m"),
      ("no-symlinks", "s"), ("strip", "s"), ("quiet", "q"), ("zero", "z")]) 1
    fun given operands process =>
      if operands.isEmpty then misuse process 1 "missing operand".toList
      else
        forEach operands process fun path process =>
          let missing := Shell.joinPath (Shell.placeText process.directory) path
          let found : Except PathError Octets :=
            if has given "s" then .ok missing
            else
              match process.locate path with
              | .ok place => .ok (Shell.placeText place)
              | .error error =>
                  if has given "m" then .ok missing
                  else if has given "e" then .error error
                  else (process.locateNew path).map Shell.placeText
          match found with
          | .ok text => (true, process.say (text ++ ['\n']))
          | .error error =>
              (false, if has given "q" then process else warn process (plainWording path (reasonOf error)))

/-! ### Permissions -/

/-- Permissions in nine letters.  A special bit shows in the place of an execute bit, in a capital letter when that
one is missing. -/
def permissionText (mode : Nat) : Octets :=
  let bit := fun (letter : Char) (mask : Nat) => if mode &&& mask != 0 then letter else '-'
  let last := fun (special : Char) (mask executable : Nat) =>
    if mode &&& mask = 0 then bit 'x' executable
    else if mode &&& executable = 0 then special.toUpper else special
  [bit 'r' 256, bit 'w' 128, last 's' 0o4000 64, bit 'r' 32, bit 'w' 16, last 's' 0o2000 8, bit 'r' 4, bit 'w' 2,
    last 't' 0o1000 1]

def letterText (item : Item) : Octets :=
  let kind := match item.node with
    | .directory => 'd'
    | .link _ => 'l'
    | .device _ => 'c'
    | _ => '-'
  kind :: permissionText item.mode

def setMode (given : List Given) (text path : Octets) (place : Place) (process : Process) : Process :=
  match process.files.number? place, process.files.item? place with
  | some number, some item =>
      let isDirectory := process.files.isDirectory place
      let mode := (modeFrom? text isDirectory process.mask item.mode).getD item.mode
      let shown := fun (mode : Nat) =>
        padFront 4 '0' (Nat.toDigits 8 mode) ++ " (".toList ++ permissionText mode ++ [')']
      let name := "mode of ".toList ++ quoted path
      let said : Octets :=
        if mode = item.mode then
          if has given "v" then name ++ " retained as ".toList ++ shown mode ++ ['\n'] else []
        else if has given "v" || has given "c" then
          name ++ " changed from ".toList ++ shown item.mode ++ " to ".toList ++ shown mode ++ ['\n']
        else []
      let changed := process.files.changeItem number fun item => { item with mode := mode }
      (process.withFiles changed).say said
  | _, _ => process

/-- True of the texts that are permissions to be taken away, although they look like options. -/
def isModeText (word : Octets) : Bool :=
  match word with
  | '-' :: rest => !rest.isEmpty && rest.all fun c => "rwxXst,+-=ugoa".toList.contains c && c != 'R'
  | _ => false

def runChmod : Tool := fun words process =>
  let modes := words.filter isModeText
  let words := words.filter fun word => !isModeText word
  withOptions (optionsOf "cfvR" [("recursive", "R"), ("silent", "f"), ("quiet", "f"), ("verbose", "v"),
      ("changes", "c"), ("reference=", "r")]) 1
    (fun given operands process =>
      let (mode, paths) := match modes.head? with
        | some mode => (some mode, operands)
        | none => (operands.head?, operands.drop 1)
      match mode with
      | none => misuse process 1 "missing operand".toList
      | some mode =>
          if paths.isEmpty then misuse process 1 ("missing operand after ".toList ++ quoted mode)
          else if (modeFrom? mode false 0 0).isNone then
            misuse process 1 ("invalid mode: ".toList ++ quoted mode)
          else
            forEach paths process fun path process =>
              match process.locate path with
              | .error error =>
                  (false, if has given "f" then process else
                    warn process ("cannot access ".toList ++ quoted path ++ ": ".toList ++ reasonOf error))
              | .ok place =>
                  let places := if has given "R" then
                      (process.files.entries.map Prod.fst).filter fun other => place.isPrefixOf other
                    else [place]
                  (true, places.foldl (fun process other =>
                    let rest := other.drop place.length
                    let shown := joinWith ['/'] (path :: rest.map octetsOf)
                    setMode given mode shown other process) process)) words process

def runChown : Tool :=
  withOptions (optionsOf "cfhvR" [("recursive", "R")]) 1 fun _ operands process =>
    if operands.length < 2 then misuse process 1 "missing operand".toList
    else
      forEach (operands.drop 1) process fun path process =>
        match process.locate path with
        | .ok _ => (true, process)
        | .error error =>
            (false, warn process ("cannot access ".toList ++ quoted path ++ ": ".toList ++ reasonOf error))

/-! ### Descriptions -/

def sortedNames (process : Process) (place : Place) : List Octets :=
  ((process.files.children place).map octetsOf).mergeSort notAfter

def signOf (item : Item) (isPlain : Bool) : Octets :=
  match item.node with
  | .directory => ['/']
  | .link _ => if isPlain then [] else ['@']
  | _ => if item.isExecutable && !isPlain then ['*'] else []

def sizeOf (item : Item) : Nat :=
  match item.node with
  | .file content => content.length
  | .link target => target.length
  | .directory => 4096
  | _ => 0

def listing (given : List Given) (process : Process) (entries : List (Octets × Place)) : Octets :=
  let items := entries.filterMap fun (name, place) => (process.files.item? place).map fun item => (name, place, item)
  let items := if has given "S" then
      items.mergeSort fun left right => sizeOf left.2.2 ≥ sizeOf right.2.2
    else if has given "t" then items.mergeSort fun left right => left.2.2.time ≥ right.2.2.time
    else items
  let items := if has given "r" then items.reverse else items
  let width := (items.map fun entry => (natText (sizeOf entry.2.2)).length).foldl max 0
  let lines := items.map fun (name, place, item) =>
    let name := if has given "Q" then '"' :: name ++ ['"'] else name
    let shown := name ++ (if has given "F" then signOf item false else if has given "p" then signOf item true else [])
    let number := if has given "i" then natText ((process.files.number? place).getD 0) ++ [' '] else []
    if has given "l" || has given "n" then
      let links := natText (if item.node == .directory then 2
        else process.files.countPlaces ((process.files.number? place).getD 0))
      let target := match item.node with
        | .link target => " -> ".toList ++ octetsOf target
        | _ => []
      let owners := if has given "n" then " 0 0 " else " root root "
      number ++ letterText item ++ ' ' :: links ++ owners.toList ++
        padFront width ' ' (natText (sizeOf item)) ++ " Jan  1 00:00 ".toList ++ shown ++ target
    else number ++ shown
  if has given "m" then joinWith ", ".toList lines ++ (if lines.isEmpty then [] else ['\n'])
  else asLines lines

def shownEntries (given : List Given) (process : Process) (place : Place) : List (Octets × Place) :=
  let names := (sortedNames process place).filter fun name =>
    has given "a" || has given "A" || name.head? != some '.'
  let dots : List (Octets × Place) := if has given "a" && !has given "A" then
      [(['.'], place), (['.', '.'], place.dropLast)] else []
  dots ++ names.map fun name => (name, place ++ [bytesOf name])

/-- Lists a directory and, if that is asked for, those below it; at most `fuel` levels. -/
def listDirectory (given : List Given) (isNamed : Bool) (process : Process) : Nat → Octets → Place → List Octets
  | 0, _, _ => []
  | fuel + 1, path, place =>
      let entries := shownEntries given process place
      let total := if has given "l" || has given "n" then "total 0\n".toList else []
      let own := (if isNamed then path ++ ":\n".toList else []) ++ total ++ listing given process entries
      let deeper := if has given "R" then
          (entries.filter fun entry => entry.1 != ['.'] && entry.1 != ['.', '.'] &&
            process.files.isDirectory entry.2).flatMap fun entry =>
              listDirectory given true process fuel (below path entry.1) entry.2
        else []
      own :: deeper

def runLs : Tool :=
  withOptions (optionsOf "1AaBCcdFfGghHiklLmnopQqRrSstUuvxX"
      [("all", "a"), ("almost-all", "A"), ("directory", "d"), ("recursive", "R"), ("reverse", "r"),
        ("color?", "color"), ("classify?", "F")]) 2
    fun given operands process =>
      let operands := (if operands.isEmpty then [['.']] else operands).mergeSort notAfter
      let located := operands.map fun path =>
        (path, if has given "d" || has given "l" || has given "F" then
            (process.locateLink path).toOption.elim (process.locateLink path) .ok
          else process.locate path)
      let passed := located.map fun (path, place) =>
        match place with
        | .ok found => (path, Except.ok found)
        | .error error =>
            match process.locateLink path with
            | .ok found => (path, .ok found)
            | .error _ => (path, Except.error error)
      let process := passed.foldl (fun process (path, place) =>
        match place with
        | .ok _ => process
        | .error error =>
            warn process ("cannot access ".toList ++ quoted path ++ ": ".toList ++ reasonOf error)) process
      let isGood := passed.all fun (_, place) => place.toOption.isSome
      let found := passed.filterMap fun (path, place) => place.toOption.map fun place => (path, place)
      let isOpened := fun (entry : Octets × Place) => !has given "d" && process.files.isDirectory entry.2
      let plain := found.filter fun entry => !isOpened entry
      let directories := found.filter isOpened
      let isNamed := operands.length > 1 || has given "R"
      let blocks := directories.flatMap fun (path, place) => listDirectory given isNamed process 64 path place
      let first := if plain.isEmpty then [] else [listing given process plain]
      (process.say (joinWith ['\n'] (first ++ blocks))).withStatus (if isGood then 0 else 2)

def kindText (item : Item) : Octets :=
  match item.node with
  | .directory => "directory".toList
  | .link _ => "symbolic link".toList
  | .device _ => "character special file".toList
  | .file [] => "regular empty file".toList
  | _ => "regular file".toList

def describeItem (path : Octets) (links : Nat) (item : Item) (letter : Char) : Octets :=
  match letter with
  | 'n' => path
  | 'N' => quoted path
  | 's' => natText (sizeOf item)
  | 'F' => kindText item
  | 'a' => Nat.toDigits 8 item.mode
  | 'A' => letterText item
  | 'U' | 'G' => "root".toList
  | 'u' | 'g' => ['0']
  | 'h' => natText links
  | 'Y' | 'X' | 'Z' => natText item.time
  | c => [c]

def fillFormat (shown : Char → Octets) : Nat → Octets → Octets
  | 0, _ => []
  | fuel + 1, text =>
      match text with
      | '%' :: '%' :: rest => '%' :: fillFormat shown fuel rest
      | '%' :: c :: rest => shown c ++ fillFormat shown fuel rest
      | c :: rest => c :: fillFormat shown fuel rest
      | [] => []

def runStat : Tool :=
  withOptions (optionsOf "c:fLt" [("format=", "c"), ("printf=", "printf"), ("dereference", "L")]) 1
    fun given operands process =>
      if operands.isEmpty then misuse process 1 "missing operand".toList
      else
        forEach operands process fun path process =>
          let located := if has given "L" then process.locate path else process.locateLink path
          match located with
          | .error error =>
              (false, warn process ("cannot statx ".toList ++ quoted path ++ ": ".toList ++ reasonOf error))
          | .ok place =>
              match process.files.item? place with
              | none => (true, process)
              | some item =>
                  let links := process.files.countPlaces ((process.files.number? place).getD 0)
                  let shown := describeItem path links item
                  let text := match textOf? given "printf", textOf? given "c" with
                    | some format, _ => (Shell.unescape (fillFormat shown (format.length + 1) format)).1
                    | none, some format => fillFormat shown (format.length + 1) format ++ ['\n']
                    | none, none => "  File: ".toList ++ path ++ ['\n']
                  (true, process.say text)

def runMktemp : Tool :=
  withOptions (optionsOf "dqtup:" [("directory", "d"), ("quiet", "q"), ("dry-run", "u"), ("tmpdir?", "p"),
      ("suffix=", "suffix")]) 1
    fun given operands process =>
      let pattern := operands.head?.getD "tmp.XXXXXXXXXX".toList
      let directory := if operands.isEmpty || has given "t" || has given "p" then
          let chosen := (textOf? given "p").filter fun text => !text.isEmpty
          (chosen.orElse fun _ => process.bindings.get? "TMPDIR".toList).getD "/tmp".toList
        else []
      let marks := (pattern.reverse.takeWhile (· == 'X')).length
      if marks < 3 then refuse process 1 ("too few X's in template ".toList ++ quoted pattern)
      else
        let number := padFront marks 'a' (natText (process.shared.next + process.files.items.size))
        let name := pattern.take (pattern.length - marks) ++ number.drop (number.length - marks) ++
          (textOf? given "suffix").getD []
        let path := if directory.isEmpty then name else below directory name
        match process.locateNew path with
        | .error error =>
            let what := if has given "d" then "directory" else "file"
            refuse process 1 (("failed to create " ++ what ++ " via template ").toList ++
              quoted (if directory.isEmpty then pattern else below directory pattern) ++ ": ".toList ++
              reasonOf error)
        | .ok place =>
            let process := if has given "u" then process
              else if has given "d" then
                process.withFiles (process.files.create place .directory 0o700)
              else process.withFiles (process.files.create place (.file []) 0o600)
            (process.say (path ++ ['\n'])).withStatus 0

def sizeFrom? (text : Octets) : Option Nat :=
  let digits := text.takeWhile Char.isDigit
  let unit := match text.drop digits.length with
    | [] => some 1
    | ['K'] => some 1024
    | ['M'] => some (1024 * 1024)
    | ['k', 'B'] => some 1000
    | _ => none
  if digits.isEmpty then none else unit.map fun unit => decimal digits * unit

def runTruncate : Tool :=
  withOptions (optionsOf "cs:r:o" [("size=", "s"), ("no-create", "c")]) 1 fun given operands process =>
    match textOf? given "s" with
    | none => misuse process 1 "you must specify either '--size' or '--reference'".toList
    | some text =>
        let (sign, digits) := match text with
          | '+' :: rest => (some '+', rest)
          | '-' :: rest => (some '-', rest)
          | _ => (none, text)
        match sizeFrom? digits with
        | none => refuse process 1 ("Invalid number: ".toList ++ quoted text)
        | some size =>
            forEach operands process fun path process =>
              match process.openToWrite 200 path ⟨false, true, false⟩ false with
              | .error error =>
                  (false, warn process ("cannot open ".toList ++ quoted path ++ " for writing: ".toList ++
                    reasonOf error))
              | .ok opened =>
                  let process := opened.close 200
                  match (process.locate path).toOption.bind process.files.number? with
                  | none => (true, process)
                  | some number =>
                      let content := process.shared.contentOf number
                      let length := match sign with
                        | some '+' => content.length + size
                        | some _ => content.length - size
                        | none => size
                      let content := content.take length ++ List.replicate (length - content.length) 0
                      (true, process.withFiles (process.files.setContent number content))

def runUnlink : Tool := fun operands process =>
  match operands with
  | [path] => forEach [path] process fun path process =>
      match process.locateLink path with
      | .ok place =>
          if process.files.isDirectory place then
            (false, warn process ("cannot unlink ".toList ++ quoted path ++ ": ".toList ++ reasonOf .isDirectory))
          else (true, process.withFiles (process.files.remove place))
      | .error error =>
          (false, warn process ("cannot unlink ".toList ++ quoted path ++ ": ".toList ++ reasonOf error))
  | _ => misuse process 1 "missing operand".toList

end TemplateLint.Machine.Utility
