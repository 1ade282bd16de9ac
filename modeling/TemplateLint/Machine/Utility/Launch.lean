import TemplateLint.Machine.Shell.Glob
import TemplateLint.Machine.Utility.Course
import TemplateLint.Machine.Utility.Files

set_option autoImplicit false

/-!
The programs that start other programs.
-/

namespace TemplateLint.Machine.Utility

open Shell (Process)

/-! ### With other values for names -/

/-- The words that a text writes, with quotes and backslashes around what separates; at most `fuel`
characters. -/
def splitWords : Nat → Option Char → Option Octets → Octets → List Octets
  | 0, _, current, _ => current.toList.map List.reverse
  | fuel + 1, quote, current, text =>
      match text with
      | [] => current.toList.map List.reverse
      | c :: rest =>
          match quote with
          | some mark =>
              if c = mark then splitWords fuel none (some (current.getD [])) rest
              else if c = backslash && mark = '"' then
                splitWords fuel quote (some (rest.head?.toList ++ current.getD [])) (rest.drop 1)
              else splitWords fuel quote (some (c :: current.getD [])) rest
          | none =>
              if isSpace c then current.toList.map List.reverse ++ splitWords fuel none none rest
              else if c = '"' || c = '\'' then splitWords fuel (some c) (some (current.getD [])) rest
              else if c = backslash then
                splitWords fuel none (some (rest.head?.toList ++ current.getD [])) (rest.drop 1)
              else splitWords fuel none (some (c :: current.getD [])) rest

def withSplitText (words : List Octets) : List Octets :=
  match words with
  | ('-' :: 'S' :: text) :: rest =>
      if text.isEmpty then
        match rest with
        | text :: rest => splitWords (text.length + 1) none none text ++ rest
        | [] => words
      else splitWords (text.length + 1) none none text ++ rest
  | _ =>
      match words with
      | first :: rest =>
          if "--split-string=".toList.isPrefixOf first then
            splitWords (first.length + 1) none none (first.drop 15) ++ rest
          else words
      | [] => []

def withValue (process : Process) (assignment : Octets) : Process :=
  let name := assignment.takeWhile (· != '=')
  let bindings := (process.bindings.set name (assignment.drop (name.length + 1))).markExported name
  { process with bindings := bindings }

def launchEnv : Launcher := fun words process =>
  let options := { optionsOf "iu:0C:v" [("ignore-environment", "i"), ("unset=", "u"), ("null", "0"),
    ("chdir=", "C")] with mixes := false }
  let words := withSplitText words
  match readWords options (words.length + 1) words with
  | .error complaint => .over (misuse process 125 complaint)
  | .ok (given, operands) =>
      let (isClear, operands) := match operands with
        | ['-'] :: rest => (true, rest)
        | _ => (has given "i", operands)
      let bindings := if isClear then ⟨[], false⟩ else process.bindings
      let bindings := (given.filter fun option => option.name == "u").foldl (fun bindings option =>
        bindings.erase option.text) bindings
      let assignments := operands.takeWhile fun operand => operand.contains '='
      let process := assignments.foldl withValue { process with bindings := bindings }
      let moved := match textOf? given "C" with
        | none => Except.ok process
        | some path =>
            match process.locate path with
            | .ok place =>
                if process.files.isDirectory place then
                  .ok { process with directory := place, directoryText := Shell.placeText place }
                else .error (path, PathError.notDirectory)
            | .error error => .error (path, error)
      match moved with
      | .error (path, error) =>
          .over (refuse process 125 ("cannot change directory to ".toList ++ quoted path ++ ": ".toList ++
            reasonOf error))
      | .ok process =>
          match operands.drop assignments.length with
          | [] => .over (runPrintenv [] process)
          | command => .into process quoted command

def launchNohup : Launcher := fun words process =>
  let words := if words.head? = some ['-', '-'] then words.drop 1 else words
  if words.isEmpty then .over (misuse process 125 "missing operand".toList)
  else .into process (fun name => "failed to run command ".toList ++ quoted name) words

def launchNice : Launcher := fun words process =>
  match readWords { optionsOf "n:" [("adjustment=", "n")] with mixes := false } (words.length + 1) words with
  | .error complaint => .over (misuse process 125 complaint)
  | .ok (_, []) => .over ((process.say ['0', '\n']).withStatus 0)
  | .ok (_, command) => .into process quoted command

/-- How long a command sleeps, in thousandths of a second, when it does nothing else. -/
def sleepingTime (command : List Octets) : Nat :=
  match command with
  | name :: times =>
      if name == "sleep".toList then (times.filterMap interval?).foldl (· + ·) 0 else 0
  | [] => 0

def launchTimeout : Launcher := fun words process =>
  let options := { optionsOf "fk:ps:v" [("kill-after=", "k"), ("signal=", "s"), ("preserve-status", "p"),
    ("foreground", "f")] with mixes := false }
  match readWords options (words.length + 1) words with
  | .error complaint => .over (misuse process 125 complaint)
  | .ok (given, time :: command) =>
      if command.isEmpty then .over ((process.report (hint process)).withStatus 125)
      else
        match interval? time with
        | none => .over (misuse process 125 ("invalid time interval ".toList ++ quoted time))
        | some limit =>
            if 0 < limit && limit < sleepingTime command then
              .over (process.withStatus (if has given "p" then 143 else 124))
            else .into process (fun name => "failed to run command ".toList ++ quoted name) command
  | .ok (_, []) => .over ((process.report (hint process)).withStatus 125)

def launchPlainly (letters : String) : Launcher := fun words process =>
  match readWords { optionsOf letters [] with mixes := false } (words.length + 1) words with
  | .error complaint => .over (misuse process 125 complaint)
  | .ok (_, []) => .over (misuse process 125 "missing operand".toList)
  | .ok (_, command) => .into process (fun name => "failed to run command ".toList ++ quoted name) command

/-! ### With operands from the input -/

def chunks {α : Type} (size : Nat) : Nat → List α → List (List α)
  | 0, _ => []
  | fuel + 1, elements =>
      if elements.isEmpty then [] else elements.take (max size 1) :: chunks size fuel (elements.drop (max size 1))

def replaceMark (mark text : Octets) : Nat → Octets → Octets
  | 0, rest => rest
  | fuel + 1, rest =>
      match rest with
      | [] => []
      | c :: others =>
          if !mark.isEmpty && mark.isPrefixOf rest then text ++ replaceMark mark text fuel (rest.drop mark.length)
          else c :: replaceMark mark text fuel others

/-- The items that a text writes: words, or whole lines without the blanks in front of them.  Quotes and
backslashes are around what does not separate, and a quote is closed on its line.  At most `fuel` characters. -/
def itemsOf (byLines : Bool) : Nat → Option Char → Option Octets → Octets → Except String (List Octets)
  | 0, _, current, _ => .ok (current.toList.map List.reverse)
  | fuel + 1, quote, current, text =>
      let extend := fun (c : Char) => some (c :: current.getD [])
      match quote, text with
      | some mark, c :: rest =>
          if c = '\n' then openQuote mark
          else if c = mark then itemsOf byLines fuel none (some (current.getD [])) rest
          else itemsOf byLines fuel quote (extend c) rest
      | some mark, [] => openQuote mark
      | none, [] => .ok (current.toList.map List.reverse)
      | none, c :: rest =>
          if c = '\n' || (isSpaceOrTab c && (!byLines || current.isNone)) then
            (itemsOf byLines fuel none none rest).map fun items => current.toList.map List.reverse ++ items
          else if c = '"' || c = '\'' then itemsOf byLines fuel (some c) (some (current.getD [])) rest
          else if c = backslash then
            match rest with
            | [] => .ok (current.toList.map List.reverse)
            | d :: behind => itemsOf byLines fuel none (extend d) behind
          else itemsOf byLines fuel none (extend c) rest
where
  openQuote (mark : Char) : Except String (List Octets) :=
    .error ("unmatched " ++ (if mark = '"' then "double" else "single") ++
      " quote; by default quotes are special to xargs unless you use the -0 option")

def joinedLines : List Octets → List Octets
  | [] => []
  | line :: rest =>
      match joinedLines rest with
      | next :: others =>
          if (line.getLast?.map isSpaceOrTab).getD false then (line ++ next) :: others else line :: next :: others
      | [] => [line]

def dropLastEmpty (texts : List Octets) : List Octets :=
  if texts.getLast? = some [] then texts.dropLast else texts

def givenItems (given : List Given) (text : Octets) : Except String (List Octets) :=
  match lastOf? given ["0", "d"] with
  | some "0" => .ok (dropLastEmpty (splitAt nul text))
  | some _ =>
      let separator := ((Shell.unescape ((textOf? given "d").getD [])).1.head?).getD '\n'
      .ok (dropLastEmpty (splitAt separator text))
  | none => itemsOf (has given "I" || has given "i") (text.length + 1) none none text

def commandsFor (given : List Given) (command items lines : List Octets) : Except String (List (List Octets)) :=
  let numberOf := fun (name : String) => (textOf? given name).bind decimal?
  match (textOf? given "I").orElse fun _ => textOf? given "i" with
  | some mark =>
      let mark := if mark.isEmpty then [openBrace, closeBrace] else mark
      .ok (items.map fun item => command.map fun word => replaceMark mark item (word.length + 1) word)
  | none =>
      match numberOf "L", numberOf "n" with
      | some count, _ => do
          let lines := (joinedLines lines).filter fun line => !line.all isSpaceOrTab
          (chunks count (lines.length + 1) lines).mapM fun group => do
            let parts ← group.mapM fun line => itemsOf false (line.length + 1) none none line
            return command ++ parts.flatten
      | none, some count =>
          let groups := chunks count (items.length + 1) items
          .ok (if groups.isEmpty && !has given "r" then [command] else groups.map fun group => command ++ group)
      | none, none => .ok (if items.isEmpty && has given "r" then [] else [command ++ items])

def launchXargs : Launcher := fun words process =>
  let options := { optionsOf "0a:d:E:I:i::L:n:oprP:s:tx" [("null", "0"), ("delimiter=", "d"), ("max-args=", "n"),
    ("max-lines=", "L"), ("replace?", "I"), ("no-run-if-empty", "r"), ("verbose", "t"), ("arg-file=", "a"),
    ("max-procs=", "P")] with mixes := false }
  match readWords options (words.length + 1) words with
  | .error complaint => .over (misuse process 1 complaint)
  | .ok (given, command) =>
      let command := if command.isEmpty then ["echo".toList] else command
      let read : Except Octets (Octets × Process) := match textOf? given "a" with
        | some file => readPath process file
        | none => .ok process.takeInput
      match read with
      | .error reason => .over (refuse process 1 (plainWording ((textOf? given "a").getD []) reason))
      | .ok (text, process) =>
          match (do
              let items ← givenItems given text
              commandsFor given command items (bareLines text) : Except String (List (List Octets))) with
          | .error reason => .over (refuse process 1 reason.toList)
          | .ok commands =>
          let process := (if has given "t" then
            commands.foldl (fun process command => process.report (joinWords command ++ ['\n'])) process
            else process).connectNew 0 (.device .empty)
          { process := process.withStatus 0
            steps := commands.map .run
            replaces := false
            complaint := id
            combine := fun before status =>
              if 256 ≤ status then 125 else if status = 255 then 124 else if status = 0 then before else 123
            stops? := fun name status =>
              if status = 255 then some (name ++ ": exited with status 255; aborting".toList)
              else if 256 ≤ status then some (name ++ ": terminated by signal ".toList ++ natText (status - 256))
              else none }

/-! ### For files in a tree -/

inductive Criterion where
  | named (foldsCase : Bool) (pattern : Octets)
  | located (foldsCase : Bool) (pattern : Octets)
  | kind (letter : Char)
  | empty
  | newer (time : Nat)
  | size (sign : Option Char) (count : Nat) (unit : Nat)
  | mode (sign : Option Char) (bits : Nat)
  | constant (value : Bool)
  | print (ending : Char)
  | printFormat (format : Octets)
  | delete
  | prune
  | quit
  | start (words : List Octets) (isTogether : Bool)
  | negation (body : Criterion)
  | both (left right : Criterion)
  | either (left right : Criterion)

def Criterion.acts : Criterion → Bool
  | .print _ | .printFormat _ | .delete | .quit | .start _ _ => true
  | .negation body => body.acts
  | .both left right | .either left right => left.acts || right.acts
  | _ => false

abbrev CriterionReading := Except Octets (Criterion × List Octets)

def commandWords : List Octets → Option (List Octets × Bool × List Octets)
  | [] => none
  | word :: rest =>
      if word = [';'] then some ([], false, rest)
      else
        match rest with
        | ['+'] :: behind =>
            if word = [openBrace, closeBrace] then some ([word], true, behind)
            else (commandWords rest).map fun (words, isTogether, rest) => (word :: words, isTogether, rest)
        | _ => (commandWords rest).map fun (words, isTogether, rest) => (word :: words, isTogether, rest)

def sizeOf? (text : Octets) : Option (Option Char × Nat × Nat) :=
  let (sign, digits) := match text with
    | '+' :: rest => (some '+', rest)
    | '-' :: rest => (some '-', rest)
    | other => (none, other)
  let number := digits.takeWhile Char.isDigit
  let unit := match digits.drop number.length with
    | [] | ['b'] => some 512
    | ['c'] => some 1
    | ['w'] => some 2
    | ['k'] => some 1024
    | ['M'] => some 1048576
    | _ => none
  if number.isEmpty then none else unit.map fun unit => (sign, decimal number, unit)

mutual

def readEither (process : Process) : Nat → List Octets → CriterionReading
  | 0, _ => .error "expression too deep".toList
  | fuel + 1, words => do
      let (left, rest) ← readBoth process fuel words
      match rest with
      | word :: behind =>
          if word = ['-', 'o'] || word = "-or".toList then
            let (right, rest) ← readEither process fuel behind
            return (.either left right, rest)
          else return (left, rest)
      | [] => return (left, [])

def readBoth (process : Process) : Nat → List Octets → CriterionReading
  | 0, _ => .error "expression too deep".toList
  | fuel + 1, words => do
      let (left, rest) ← readCriterion process fuel words
      match rest with
      | [] => return (left, [])
      | word :: behind =>
          if word = ['-', 'o'] || word = "-or".toList || word = [')'] then return (left, rest)
          else
            let rest := if word = ['-', 'a'] || word = "-and".toList then behind else rest
            let (right, rest) ← readBoth process fuel rest
            return (.both left right, rest)

def readCriterion (process : Process) : Nat → List Octets → CriterionReading
  | 0, _ => .error "expression too deep".toList
  | fuel + 1, words =>
      match words with
      | [] => .error "expected an expression".toList
      | word :: rest =>
          let withText := fun (next : Octets → Except Octets Criterion) =>
            match rest with
            | [] => (.error ("missing argument to ".toList ++ '`' :: word ++ ['\'']) : CriterionReading)
            | text :: rest => (next text).map fun criterion => (criterion, rest)
          match String.ofList word with
          | "!" | "-not" => do
              let (body, rest) ← readCriterion process fuel rest
              return (.negation body, rest)
          | "(" => do
              let (body, rest) ← readEither process fuel rest
              match rest with
              | [')'] :: rest => return (body, rest)
              | _ => throw "invalid expression; I was expecting to find a ')' somewhere but did not see one.".toList
          | "-name" => withText fun text => .ok (.named false text)
          | "-iname" => withText fun text => .ok (.named true text)
          | "-path" | "-wholename" => withText fun text => .ok (.located false text)
          | "-ipath" => withText fun text => .ok (.located true text)
          | "-type" => withText fun text => .ok (.kind (text.head?.getD 'f'))
          | "-empty" => .ok (.empty, rest)
          | "-newer" => withText fun text =>
              match process.item? text with
              | some item => .ok (.newer item.time)
              | none => .error (quoted text ++ ": No such file or directory".toList)
          | "-size" => withText fun text =>
              match sizeOf? text with
              | some (sign, count, unit) => .ok (.size sign count unit)
              | none => .error ("Invalid argument `".toList ++ text ++ "' to -size".toList)
          | "-perm" => withText fun text =>
              let (sign, digits) := match text with
                | '-' :: rest => (some '-', rest)
                | '/' :: rest => (some '/', rest)
                | other => (none, other)
              match modeFrom? digits false 0 0 with
              | some bits => .ok (.mode sign bits)
              | none => .error ("invalid mode ".toList ++ quoted text)
          | "-true" => .ok (.constant true, rest)
          | "-false" => .ok (.constant false, rest)
          | "-print" => .ok (.print '\n', rest)
          | "-print0" => .ok (.print nul, rest)
          | "-printf" => withText fun text => .ok (.printFormat text)
          | "-delete" => .ok (.delete, rest)
          | "-prune" => .ok (.prune, rest)
          | "-quit" => .ok (.quit, rest)
          | "-maxdepth" | "-mindepth" => withText fun _ => .ok (.constant true)
          | "-depth" | "-xdev" | "-mount" => .ok (.constant true, rest)
          | "-exec" | "-ok" | "-execdir" =>
              match commandWords rest with
              | some (words, isTogether, rest) => .ok (.start words isTogether, rest)
              | none => .error ("missing argument to ".toList ++ '`' :: word ++ ['\''])
          | _ =>
              if word.head? = some '-' then
                .error ("unknown predicate ".toList ++ '`' :: word ++ ['\''])
              else .error ("paths must precede expression: `".toList ++ word ++ ['\''])

end

structure FoundFile where
  path : Octets
  place : Place
  item : Item
  depth : Nat
  start : Octets

/-- What is done about a file: whether its criteria hold, whether nothing below it is looked at, and whether
all ends. -/
structure Verdict where
  holds : Bool
  prunes : Bool
  quits : Bool
  steps : List Step
  files : FileTree

def findLetter (file : FoundFile) (letter : Char) : Octets :=
  match letter with
  | 'p' => file.path
  | 'f' => lastPart file.path
  | 'h' => leadingParts file.path
  | 'P' => (file.path.drop file.start.length).dropWhile (· == '/')
  | 's' => natText (sizeOf file.item)
  | 'm' => Nat.toDigits 8 file.item.mode
  | 'd' => natText file.depth
  | 'y' => match file.item.node with
      | .directory => ['d']
      | .link _ => ['l']
      | _ => ['f']
  | c => ['%', c]

def judge (file : FoundFile) : Criterion → FileTree → Verdict
  | criterion, files =>
      let answer := fun (holds : Bool) => (Verdict.mk holds false false [] files)
      match criterion with
      | .named foldsCase pattern =>
          let fold := fun (text : Octets) => if foldsCase then text.map Char.toLower else text
          let name := lastPart file.path
          answer (Shell.matchesAll (Shell.elements (Shell.markAll false (fold pattern))) (fold name))
      | .located foldsCase pattern =>
          let fold := fun (text : Octets) => if foldsCase then text.map Char.toLower else text
          answer (Shell.matchesAll (Shell.elements (Shell.markAll false (fold pattern))) (fold file.path))
      | .kind letter =>
          let own := match file.item.node with
            | .directory => 'd'
            | .link _ => 'l'
            | .device _ => 'c'
            | _ => 'f'
          answer (own == letter)
      | .empty => answer (match file.item.node with
          | .directory => (files.children file.place).isEmpty
          | .file content => content.isEmpty
          | _ => false)
      | .newer time => answer (time < file.item.time)
      | .size sign count unit =>
          let size := (sizeOf file.item + unit - 1) / unit
          answer (match sign with
            | some '+' => count < size
            | some _ => size < count
            | none => size == count)
      | .mode sign bits => answer (match sign with
          | some '-' => file.item.mode &&& bits == bits
          | some _ => bits == 0 || file.item.mode &&& bits != 0
          | none => file.item.mode == bits)
      | .constant value => answer value
      | .print ending => { answer true with steps := [.say (file.path ++ [ending])] }
      | .printFormat format =>
          let text := (Shell.unescape (fillFormat (findLetter file) (format.length + 1) format)).1
          { answer true with steps := [.say text] }
      | .delete =>
          if file.path = ['.'] then answer true else { answer true with files := files.remove file.place }
      | .prune => { answer true with prunes := true }
      | .quit => { answer true with quits := true }
      | .start words isTogether =>
          if isTogether then answer true
          else
            let mark : Octets := [openBrace, closeBrace]
            { answer true with
              steps := [.run (words.map fun word => replaceMark mark file.path (word.length + 1) word)] }
      | .negation body =>
          let verdict := judge file body files
          { verdict with holds := !verdict.holds }
      | .both left right =>
          let first := judge file left files
          if !first.holds || first.quits then first
          else
            let second := judge file right first.files
            { second with prunes := first.prunes || second.prunes, steps := first.steps ++ second.steps }
      | .either left right =>
          let first := judge file left files
          if first.holds || first.quits then first
          else
            let second := judge file right first.files
            { second with prunes := first.prunes || second.prunes, steps := first.steps ++ second.steps }

/-- The criteria that start a program for all files at once, with the files for which they are reached. -/
def together : Criterion → List (List Octets)
  | .start words true => [words]
  | .negation body => together body
  | .both left right => together left ++ together right
  | .either left right => together left ++ together right
  | _ => []

structure Bounds where
  least : Nat
  most : Nat
  isDepthFirst : Bool

structure Search where
  files : FileTree
  steps : List Step
  found : List Octets
  quits : Bool

def searchBelow (criterion : Criterion) (bounds : Bounds) : Nat → FoundFile → Search → Search
  | 0, _, search => search
  | fuel + 1, file, search =>
      if search.quits then search
      else
        let look := fun (search : Search) =>
          if file.depth < bounds.least then (false, search)
          else
            let verdict := judge file criterion search.files
            let found := if verdict.holds then file.path :: search.found else search.found
            (verdict.prunes, Search.mk verdict.files (search.steps ++ verdict.steps) found verdict.quits)
        let descend := fun (search : Search) =>
          if file.item.node != .directory || bounds.most ≤ file.depth then search
          else
            let names := ((search.files.children file.place).map octetsOf).mergeSort notAfter
            names.foldl (fun search name =>
              let place := file.place ++ [bytesOf name]
              match search.files.item? place with
              | none => search
              | some item =>
                  searchBelow criterion bounds fuel
                    ⟨below file.path name, place, item, file.depth + 1, file.start⟩ search) search
        if bounds.isDepthFirst then (look (descend search)).2
        else
          let (prunes, search) := look search
          if prunes || search.quits then search else descend search

def numberBehind (word : String) : List Octets → Option Nat
  | [] => none
  | [_] => none
  | first :: second :: rest =>
      if first == word.toList then decimal? second else numberBehind word (second :: rest)

def launchFind : Launcher := fun words process =>
  let words := words.dropWhile fun word => ["-H", "-L", "-P"].contains (String.ofList word)
  let isPath := fun (word : Octets) => word.head? != some '-' && word != ['!'] && word != ['(']
  let paths := words.takeWhile isPath
  let rest := words.drop paths.length
  let paths := if paths.isEmpty then [['.']] else paths
  let read : CriterionReading := if rest.isEmpty then .ok (.constant true, [])
    else readEither process (4 * rest.length + 8) rest
  match read with
  | .error reason => .over (refuse process 1 reason)
  | .ok (_, word :: _) => .over (refuse process 1 ("paths must precede expression: `".toList ++ word ++ ['\'']))
  | .ok (criterion, []) =>
      let criterion := if criterion.acts then criterion else .both criterion (.print '\n')
      let bounds : Bounds := ⟨(numberBehind "-mindepth" rest).getD 0, (numberBehind "-maxdepth" rest).getD 1000,
        rest.contains "-delete".toList || rest.contains "-depth".toList⟩
      let (search, isGood, process) := paths.foldl (fun (search, isGood, process) path =>
        match process.locateLink path with
        | .error error => (search, false, warn process (quoted path ++ ": ".toList ++ reasonOf error))
        | .ok place =>
            match search.files.item? place with
            | none => (search, isGood, process)
            | some item => (searchBelow criterion bounds 256 ⟨path, place, item, 0, path⟩ search, isGood, process))
        (Search.mk process.files [] [] false, true, process)
      let found := search.found.reverse
      let last := if found.isEmpty then [] else (together criterion).map fun words =>
        Step.run (words.flatMap fun word => if word = [openBrace, closeBrace] then found else [word])
      { process := (process.withFiles search.files).withStatus (if isGood then 0 else 1)
        steps := search.steps ++ last
        replaces := false
        complaint := quoted
        combine := fun before _ => before
        stops? := fun _ _ => none }

end TemplateLint.Machine.Utility
