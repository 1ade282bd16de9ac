import TemplateLint.Machine.Utility.Basic
import TemplateLint.Machine.Utility.Sed.Script

set_option autoImplicit false

/-!
The run of scripts that edit lines.
-/

namespace TemplateLint.Machine.Utility.Sed

open Shell (Process)

structure InputLine where
  text : Octets
  isEnded : Bool
  file : Octets

inductive Progress where
  | outside
  | upToLine (number : Nat)
  | upToAddress
deriving DecidableEq, Repr

inductive Later where
  | text (text : Octets)
  | file (path : Octets)

structure State where
  rest : List InputLine
  number : Nat
  space : Octets
  isEnded : Bool
  file : Octets
  held : Octets
  hasReplaced : Bool
  progress : Array Progress
  later : List Later
  lastPattern : Option Pattern
  isLost : Bool
  output : List Octets
  isOpen : Bool
  mark : Char
  width : Nat
  files : List (Octets × Octets)

namespace State

def write (state : State) (text : Octets) (isEnded : Bool) : State :=
  let gap : Octets := if state.isOpen then [state.mark] else []
  { state with
    output := (gap ++ text ++ (if isEnded then [state.mark] else [])) :: state.output
    isOpen := !isEnded }

def writeLines (state : State) (text : Octets) : State :=
  if text.isEmpty then state else state.write text.dropLast true

def printSpace (state : State) : State := state.write state.space state.isEnded

def flush (process : Process) (state : State) : State :=
  let state := state.later.foldl (fun (state : State) later =>
    match later with
    | .text text => state.writeLines text
    | .file path =>
        match Utility.readPath process path with
        | .error _ => state
        | .ok (content, _) =>
            if content.isEmpty then state
            else
              let isEnded := content.getLast? = some '\n'
              state.write (if isEnded then content.dropLast else content) isEnded) state
  { state with later := [] }

def isLast (state : State) : Bool := state.rest.isEmpty

def advance? (state : State) : Option State :=
  match state.rest with
  | [] => none
  | line :: rest =>
      some { state with
        rest := rest
        number := state.number + 1
        space := line.text
        isEnded := line.isEnded
        file := line.file }

end State

def subject (pattern : Pattern) (text : Octets) : Regular.Subject :=
  ⟨text.toArray, pattern.foldsCase, pattern.hasLines, false⟩

def resolve (pattern : Pattern) (state : State) : Option (Regular × Pattern) × State :=
  match pattern.regular with
  | some regular => (some (regular, pattern), { state with lastPattern := some pattern })
  | none =>
      (state.lastPattern.bind fun last => last.regular.map fun regular =>
        (regular, { last with foldsCase := last.foldsCase || pattern.foldsCase }),
        { state with isLost := state.isLost || state.lastPattern.isNone })

def applies (address : Address) (state : State) : Bool × State :=
  match address with
  | .line number => (state.number == number, state)
  | .last => (state.isLast, state)
  | .step first width =>
      (if width = 0 then state.number == first else first ≤ state.number && (state.number - first) % width == 0,
        state)
  | .pattern pattern =>
      match resolve pattern state with
      | (some (regular, pattern), state) =>
          ((regular.find? (subject pattern state.space) 0).isSome, state)
      | (none, state) => (false, state)

def selects (index : Nat) (extent : Extent) (state : State) : Bool × State :=
  let mark := fun (progress : Progress) (state : State) =>
    { state with progress := state.progress.modify index fun _ => progress }
  match extent with
  | .all => (true, state)
  | .one address => applies address state
  | .range first ending =>
      let begin := fun (state : State) =>
        match ending with
        | .address (.line number) =>
            mark (if number ≤ state.number then .outside else .upToLine number) state
        | .address _ => mark .upToAddress state
        | .more count => mark (if count = 0 then .outside else .upToLine (state.number + count)) state
        | .multiple number =>
            let goal := if number = 0 then state.number else (state.number / number + 1) * number
            mark (if goal ≤ state.number then .outside else .upToLine goal) state
      let fromStart : Option Address := match first, ending with
        | .line 0, .address (.pattern pattern) => some (.pattern pattern)
        | _, _ => none
      match (state.progress[index]?).getD .outside, fromStart with
      | .outside, some address =>
          if state.number = 1 then
            let (isEnd, state) := applies address state
            (true, mark (if isEnd then .outside else .upToAddress) state)
          else (false, state)
      | .outside, none =>
          let (isStart, state) := applies first state
          if isStart then (true, begin state) else (false, state)
      | .upToLine number, _ =>
          if state.number < number then (true, state)
          else if state.number = number then (true, mark .outside state)
          else
            let (isStart, state) := applies first (mark .outside state)
            if isStart then (true, begin state) else (false, state)
      | .upToAddress, _ =>
          match ending with
          | .address address =>
              let (isEnd, state) := applies address state
              (true, if isEnd then mark .outside state else state)
          | _ => (true, state)

/-- How the case of characters is changed: for all of them, and for the next one. -/
structure Casing where
  all : CaseChange
  next : CaseChange

def Casing.apply (casing : Casing) (text : Octets) : Octets × Casing :=
  let change := fun (how : CaseChange) (c : Char) => match how with
    | .upper | .upperNext => c.toUpper
    | .lower | .lowerNext => c.toLower
    | .none => c
  match text with
  | [] => ([], casing)
  | c :: rest =>
      let first := if casing.next = .none then change casing.all c else change casing.next c
      (first :: rest.map (change casing.all), { casing with next := .none })

def replacementText (parts : List Part) (subject : Regular.Subject) (found : Regular.Found) : Octets :=
  let (texts, _) := parts.foldl (fun (texts, (casing : Casing)) part =>
    match part with
    | .text text =>
        let (text, casing) := casing.apply text
        (text :: texts, casing)
    | .group index =>
        let (text, casing) := casing.apply ((found.group? subject index).getD [])
        (text :: texts, casing)
    | .change change =>
        match change with
        | .upperNext | .lowerNext => (texts, { casing with next := change })
        | _ => (texts, ⟨change, .none⟩)) (([] : List Octets), Casing.mk .none .none)
  texts.reverse.flatten

/-- A text with matches replaced, from one of them on; none when there is no such match. -/
def substituted? (regular : Regular) (pattern : Pattern) (parts : List Part) (isGlobal : Bool) (index : Nat)
    (text : Octets) : Option Octets :=
  let subject := subject pattern text
  let found := if index = 1 && !isGlobal then (regular.find? subject 0).toList
    else regular.findAll subject (text.length + 2) 0 none
  let chosen := if isGlobal then found.drop (index - 1) else (found.drop (index - 1)).take 1
  if chosen.isEmpty then none
  else
    let (texts, place) := chosen.foldl (fun (texts, place) found =>
      let before := (text.drop place).take (found.start - place)
      (replacementText parts subject found :: before :: texts, found.stop)) (([] : List Octets), 0)
    some ((text.drop place :: texts).reverse.flatten)

def plainSign (c : Char) : Octets :=
  if c = backslash then [backslash, backslash]
  else
    match c.toNat with
    | 7 => [backslash, 'a']
    | 8 => [backslash, 'b']
    | 9 => [backslash, 't']
    | 10 => [backslash, 'n']
    | 11 => [backslash, 'v']
    | 12 => [backslash, 'f']
    | 13 => [backslash, 'r']
    | n => if isPrintable c then [c]
      else backslash :: (List.replicate (3 - (Nat.toDigits 8 n).length) '0' ++ Nat.toDigits 8 n)

/-- A text in signs that can all be seen, in rows of a width that end with a backslash; none stands for one
row. -/
def plainSigns (width : Nat) (text : Octets) : Octets :=
  let (parts, _) := text.foldl (fun (parts, column) c =>
    let sign := plainSign c
    if 1 < width && width - 1 < column + sign.length then (sign :: [backslash, '\n'] :: parts, sign.length)
    else (sign :: parts, column + sign.length)) (([] : List Octets), 0)
  parts.reverse.flatten ++ ['$']

inductive Going where
  | at (index : Nat)
  | ends (prints : Bool)
  | again
  | quits (prints : Bool) (status : Nat)

def target (commands : Array Command) (name : Octets) : Nat :=
  if name.isEmpty then commands.size
  else
    (commands.findIdx? fun command => match command.action with
      | .label other => other == name
      | _ => false).getD commands.size

def act (commands : Array Command) (process : Process) (isQuiet : Bool) (index : Nat) (command : Command)
    (state : State) : Going × State :=
  let next := Going.at (index + 1)
  match command.action with
  | .substitute pattern parts isGlobal which prints file =>
      match resolve pattern state with
      | (none, state) => (next, state)
      | (some (regular, pattern), state) =>
          match substituted? regular pattern parts isGlobal which state.space with
          | none => (next, state)
          | some text =>
              let state := { state with space := text, hasReplaced := true }
              let state := if prints then state.printSpace else state
              (next, match file with
                | none => state
                | some path =>
                    if path == "/dev/stdout".toList then state.printSpace
                    else { state with files := (path, text ++ ['\n']) :: state.files })
  | .transliterate pairs =>
      (next, { state with space := state.space.map fun c =>
        ((pairs.find? fun pair => pair.1 == c).map Prod.snd).getD c })
  | .delete => (.ends false, state)
  | .deleteFirst =>
      let first := state.space.takeWhile (· != '\n')
      if first.length = state.space.length then (.ends false, state)
      else (.again, { state with space := state.space.drop (first.length + 1) })
  | .print => (next, state.printSpace)
  | .printFirst => (next, state.write (state.space.takeWhile (· != '\n')) true)
  | .next =>
      if state.rest.isEmpty then (.quits true 0, state)
      else
        let state := (if isQuiet then state else state.printSpace).flush process
        (next, state.advance?.getD state)
  | .nextAppend =>
      let before := state.space
      match (state.flush process).advance? with
      | none => (.quits true 0, state)
      | some state => (next, { state with space := before ++ '\n' :: state.space })
  | .quit isSilent status => (.quits (!isSilent) status, state)
  | .showNumber => (next, state.write (natText state.number) true)
  | .showPlain width => (next, state.write (plainSigns (width.getD state.width) state.space) true)
  | .showName => (next, state.write state.file true)
  | .append text => (next, { state with later := state.later ++ [.text text] })
  | .insert text => (next, state.writeLines text)
  | .change text =>
      let isInside : Bool := match command.extent with
        | .range _ _ => !command.isNegated && (state.progress[index]?).getD .outside != .outside
        | _ => false
      (.ends false, if isInside then state else state.writeLines text)
  | .hold => (next, { state with held := state.space })
  | .holdAppend => (next, { state with held := state.held ++ '\n' :: state.space })
  | .get => (next, { state with space := state.held })
  | .getAppend => (next, { state with space := state.space ++ '\n' :: state.held })
  | .exchange => (next, { state with space := state.held, held := state.space })
  | .clear => (next, { state with space := [] })
  | .label _ => (next, state)
  | .branch name => (.at (target commands name), state)
  | .branchIf isDone name =>
      if state.hasReplaced == isDone then (.at (target commands name), { state with hasReplaced := false })
      else (next, { state with hasReplaced := false })
  | .readFile path => (next, { state with later := state.later ++ [.file path] })
  | .writeFile path =>
      if path == "/dev/stdout".toList then (next, state.printSpace)
      else (next, { state with files := (path, state.space ++ ['\n']) :: state.files })
  | .writeFirst path =>
      let first := state.space.takeWhile (· != '\n')
      if path == "/dev/stdout".toList then (next, state.write first true)
      else (next, { state with files := (path, first ++ ['\n']) :: state.files })
  | .opening _ => (next, state)
  | .closing => (next, state)

def cycle (commands : Array Command) (process : Process) (isQuiet : Bool) : Nat → Nat → State → Going × State
  | 0, _, state => (.quits true 0, state)
  | fuel + 1, index, state =>
      match commands[index]? with
      | none => (.ends true, state)
      | some command =>
          let (isSelected, state) := selects index command.extent state
          if isSelected != command.isNegated then
            match act commands process isQuiet index command state with
            | (.at index, state) => cycle commands process isQuiet fuel index state
            | other => other
          else
            match command.action with
            | .opening behind => cycle commands process isQuiet fuel (behind + 1) state
            | _ => cycle commands process isQuiet fuel (index + 1) state

def cycleLimit : Nat := 100000

/-- Edits all lines, at most `fuel` of them; `reads` says that a cycle starts with reading a line. -/
def editAll (commands : Array Command) (process : Process) (isQuiet : Bool) : Nat → Bool → State → Nat × State
  | 0, _, state => (0, state)
  | fuel + 1, reads, state =>
      match if reads then state.advance? else some state with
      | none => (0, state)
      | some state =>
          let state := if reads then { state with hasReplaced := false } else state
          let finish := fun (prints : Bool) (state : State) =>
            (if prints && !isQuiet then state.printSpace else state).flush process
          match cycle commands process isQuiet cycleLimit 0 state with
          | (.quits prints status, state) => (status, finish prints state)
          | (.again, state) => editAll commands process isQuiet fuel false (state.flush process)
          | (.ends prints, state) => editAll commands process isQuiet fuel true (finish prints state)
          | (.at _, state) => editAll commands process isQuiet fuel true (finish true state)

def linesOf (mark : Char) (source : Source) : List InputLine :=
  let parts := splitAt mark source.text
  let isOpen := parts.getLast? != some []
  let lines := if isOpen then parts else parts.dropLast
  lines.zipIdx.map fun (text, index) => ⟨text, !isOpen || index + 1 < lines.length, source.name⟩

structure Edited where
  status : Nat
  text : Octets
  files : List (Octets × Octets)
  isLost : Bool

def edit (commands : Array Command) (process : Process) (isQuiet : Bool) (mark : Char) (width : Nat)
    (lines : List InputLine) : Edited :=
  let size := (lines.map fun line => line.text.length).foldl (· + ·) 0
  let (status, state) := editAll commands process isQuiet (4 * (lines.length + size) + 16) true {
    rest := lines, number := 0, space := [], isEnded := true, file := [], held := [], hasReplaced := false
    progress := Array.replicate commands.size .outside, later := [], lastPattern := none, isLost := false
    output := [], isOpen := false, mark := mark, width := width, files := [] }
  ⟨status, state.output.reverse.flatten, state.files.reverse, state.isLost⟩

def writeFiles (written : List (Octets × Octets)) (process : Process) : Process :=
  let paths := (written.map Prod.fst).eraseDups
  paths.foldl (fun process path =>
    let text := (written.filter fun entry => entry.1 == path).flatMap Prod.snd
    match process.openToWrite 200 path ⟨false, true, false⟩ true with
    | .ok opened => (opened.write 200 text).close 200
    | .error error => warn process ("couldn't open file ".toList ++ plainWording path (reasonOf error))) process

def scriptOf (given : List Given) (operands : List Octets) (process : Process) :
    Except Octets (Octets × List Octets) := do
  let texts ← (given.filter fun option => option.name == "e" || option.name == "f").mapM fun option =>
    if option.name == "e" then Except.ok option.text
    else
      match Utility.readPath process option.text with
      | .ok (text, _) => .ok (bareLine text)
      | .error reason => .error ("couldn't open file ".toList ++ plainWording option.text reason)
  if texts.isEmpty then
    match operands with
    | [] => throw []
    | script :: files => return (script, files)
  else return (joinWith ['\n'] texts, operands)

def replaceFile (path text : Octets) (process : Process) : Process :=
  match process.openToWrite 200 path ⟨false, true, false⟩ true with
  | .ok opened => (opened.write 200 text).close 200
  | .error _ => process

def missingLabel? (commands : Array Command) : Option Octets :=
  commands.toList.findSome? fun command =>
    match command.action with
    | .branch name | .branchIf _ name =>
        if !name.isEmpty && target commands name = commands.size then some name else none
    | _ => none

def run : Tool :=
  withOptions (optionsOf "bEe:f:i::l:nrsuz" [("quiet", "n"), ("silent", "n"), ("expression=", "e"), ("file=", "f"),
      ("regexp-extended", "E"), ("in-place?", "i"), ("separate", "s"), ("posix", "posix"),
      ("unbuffered", "u"), ("null-data", "z"), ("line-length=", "l")]) 1
    fun given operands process =>
      match scriptOf given operands process with
      | .error reason =>
          if reason.isEmpty then
            let usage := "Usage: sed [OPTION]... \x7bscript-only-if-no-other-script\x7d [input-file]...\n"
            (process.report usage.toList).withStatus 1
          else refuse process 1 reason
      | .ok (script, files) =>
          match readScript (has given "E" || has given "r") script with
          | .error fault => refuse process 1 (fault.message script.length).toList
          | .ok commands =>
              match missingLabel? commands with
              | some name => refuse process 1 ("can't find label for jump to `".toList ++ name ++ ['\''])
              | none =>
                  let isQuiet := has given "n" || script == ['#', 'n'] || script.take 3 == ['#', 'n', '\n']
                  let mark := if has given "z" then nul else '\n'
                  let width := ((textOf? given "l").bind decimal?).getD 70
                  let inPlace := has given "i"
                  let wording := fun (file reason : Octets) =>
                    if reason == reasonOf .isDirectory then
                      (if inPlace then "couldn't edit ".toList ++ file ++ ": not a regular file".toList
                        else "couldn't read ".toList ++ plainWording file reason)
                    else "can't read ".toList ++ plainWording file reason
                  let (sources, isGood, process) := sourcesOf wording files process
                  let parts := if inPlace || has given "s" then sources.map fun source => [source] else [sources]
                  let (result, process) := parts.foldl (fun (result, process) part =>
                    let edited := edit commands process isQuiet mark width (part.flatMap (linesOf mark))
                    let process := writeFiles edited.files process
                    let process :=
                      if inPlace then
                        part.foldl (fun process source =>
                          let process := match (textOf? given "i").filter fun text => !text.isEmpty with
                            | some suffix => replaceFile (source.name ++ suffix) source.text process
                            | none => process
                          replaceFile source.name edited.text process) process
                      else process.say edited.text
                    let process := if edited.isLost then
                        warn process "-e expression #1, char 0: no previous regular expression".toList
                      else process
                    let status := if edited.isLost then 1 else edited.status
                    (if result = 0 then status else result, process)) (0, process)
                  process.withStatus (if result = 0 && !isGood then 2 else result)

end TemplateLint.Machine.Utility.Sed
