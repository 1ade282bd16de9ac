import TemplateLint.Machine.Regular
import TemplateLint.Machine.Shell.Glob
import TemplateLint.Machine.Utility.Files

set_option autoImplicit false

/-!
The program that looks for lines which match patterns.
-/

namespace TemplateLint.Machine.Utility.Grep

open Shell (Process)

structure Line where
  number : Nat
  offset : Nat
  text : Octets

def linesOf (text : Octets) : List Line :=
  let (lines, _, _) := (bareLines text).foldl (fun (lines, number, offset) line =>
    (Line.mk number offset line :: lines, number + 1, offset + line.length + 1)) ([], 1, 0)
  lines.reverse

structure Search where
  regular : Regular
  foldsCase : Bool
  isInverted : Bool

/-- The digits that one letter stands for in patterns of the third kind, in the place of the letter. -/
def withDigits : Octets → Octets
  | c :: d :: rest =>
      if c = backslash && d = 'd' then "[0-9]".toList ++ withDigits rest
      else if c = backslash then c :: d :: withDigits rest
      else c :: withDigits (d :: rest)
  | short => short
termination_by text => text.length
decreasing_by
  all_goals
    simp only [List.length_cons]
    omega

def searchOf (given : List Given) (patterns : List Octets) : Except String Search := do
  let kind := (lastOf? given ["E", "F", "G", "P"]).getD "G"
  let dialect : Regular.Dialect := ⟨kind != "G", kind == "P", false, true⟩
  let parts ← patterns.mapM fun pattern =>
    if kind == "F" then Except.ok (Regular.literal pattern)
    else (Regular.read dialect (if kind == "P" then withDigits pattern else pattern)).map Prod.fst
  let whole := Regular.choice parts
  let regular :=
    if has given "x" then Regular.sequence [.lineStart, whole, .lineEnd]
    else if has given "w" then Regular.sequence [.openBefore, whole, .openBehind]
    else whole
  return ⟨regular, has given "i" || has given "y", has given "v"⟩

def Search.selects (search : Search) (line : Line) : Bool :=
  (search.regular.find? (subjectOf search.foldsCase line.text) 0).isSome != search.isInverted

def Search.partsOf (search : Search) (line : Line) : List (Nat × Octets) :=
  if search.isInverted then []
  else
    let subject := subjectOf search.foldsCase line.text
    ((search.regular.findAll subject (line.text.length + 2) 0 none).filter fun found =>
      found.start < found.stop).map fun found =>
        (line.offset + found.start, (line.text.drop found.start).take (found.stop - found.start))

/-- The signs of repetition in an extended pattern that have nothing to repeat; the truth value says that the
pattern may start here. -/
def idleSigns : Bool → Octets → List String
  | _, [] => []
  | isStart, c :: rest =>
      if c = backslash then idleSigns false (rest.drop 1)
      else if c = '(' || c = '|' || c = '^' then idleSigns true rest
      else if isStart && (c = '*' || c = '+' || c = '?') then String.singleton c :: idleSigns true rest
      else if isStart && c = openBrace && (rest.head?.map Char.isDigit).getD false then
        "\x7b...\x7d" :: idleSigns true (rest.drop ((rest.takeWhile (· != closeBrace)).length + 1))
      else if c = '[' then
        let first := rest.take (if rest.head? = some '^' then 2 else 1)
        let inside := (rest.drop first.length).takeWhile (· != ']')
        idleSigns false (rest.drop (first.length + inside.length + 1))
      else idleSigns false rest
termination_by _ text => text.length

/-- The state after a complaint about every sign of repetition that has nothing to repeat. -/
def warnIdle (given : List Given) (patterns : List Octets) (process : Process) : Process :=
  if lastOf? given ["E", "F", "G", "P"] != some "E" then process
  else
    (patterns.flatMap (idleSigns true)).foldl (fun process sign =>
      warn process ("warning: " ++ sign ++ " at start of expression").toList) process

structure Form where
  isNamed : Bool
  isNumbered : Bool
  hasOffsets : Bool
  onlyParts : Bool

def Form.heading (form : Form) (name : Octets) (mark : Char) (number offset : Nat) : Octets :=
  (if form.isNamed then name ++ [mark] else []) ++
    (if form.isNumbered then natText number ++ [mark] else []) ++
    (if form.hasOffsets then natText offset ++ [mark] else [])

/-- Lines that are selected with those around them: the truth value says that a line is selected itself. -/
def withContext (before behind : Nat) (lines : List (Line × Bool)) : List (Line × Bool) :=
  let numbers := (lines.filter fun entry => entry.2).map fun entry => entry.1.number
  lines.filter fun (line, isSelected) => isSelected || numbers.any fun number =>
    (line.number < number && number ≤ line.number + before) ||
      (number < line.number && line.number ≤ number + behind)

/-- The text of lines; a mark stands between groups of lines that do not follow each other. -/
def showLines (form : Form) (search : Search) (name : Octets) (hasContext : Bool) (lines : List (Line × Bool)) :
    Octets :=
  let (parts, _) := lines.foldl (fun (parts, last) (line, isSelected) =>
    let gap : Octets := match last with
      | some number => if hasContext && number + 1 < line.number then "--\n".toList else []
      | none => []
    let mark := if isSelected then ':' else '-'
    let shown : Octets :=
      if form.onlyParts then
        if isSelected then
          (search.partsOf line).flatMap fun (offset, part) =>
            form.heading name mark line.number offset ++ part ++ ['\n']
        else []
      else form.heading name mark line.number line.offset ++ line.text ++ ['\n']
    ((gap ++ shown) :: parts, some line.number)) (([] : List Octets), (none : Option Nat))
  parts.reverse.flatten

def filesBelow (process : Process) (test : Octets → Bool) : Nat → Octets → Place → List Octets
  | 0, _, _ => []
  | fuel + 1, path, place =>
      (sortedNames process place).flatMap fun name =>
        let inner := place ++ [bytesOf name]
        match process.files.node? inner with
        | some .directory => filesBelow process test fuel (below path name) inner
        | some (.file _) => if test name then [below path name] else []
        | _ => []

def matchesName (pattern name : Octets) : Bool :=
  Shell.matchesAll (Shell.elements (Shell.markAll false pattern)) name

def targetsOf (given : List Given) (operands : List Octets) (process : Process) : List Octets :=
  let isDeep := has given "r" || has given "R"
  let patterns := fun (name : String) => (given.filter fun option => option.name == name).map Given.text
  let isWanted := fun (name : Octets) =>
    let included := patterns "include"
    (included.isEmpty || included.any fun pattern => matchesName pattern name) &&
      !(patterns "exclude").any fun pattern => matchesName pattern name
  if !isDeep then operands
  else
    let targets := if operands.isEmpty then [['.']] else operands
    targets.flatMap fun path =>
      match process.locate path with
      | .ok place =>
          if process.files.isDirectory place then
            let found := filesBelow process isWanted 64 path place
            if operands.isEmpty then found.map fun name => name.drop 2 else found
          else [path]
      | .error _ => [path]

/-- The patterns that options and operands give, and the operands that are left. -/
def patternsOf (given : List Given) (operands : List Octets) (process : Process) :
    Except Octets (List Octets × List Octets × Process) :=
  let split := fun (text : Octets) => splitAt '\n' text
  let step := fun (state : Except Octets (List Octets × Process)) (option : Given) => do
    let (patterns, process) ← state
    if option.name == "e" then return (patterns ++ split option.text, process)
    else if option.name == "f" then
      if option.text = ['-'] then
        let (text, process) := process.takeInput
        return (patterns ++ bareLines text, process)
      else
        match readPath process option.text with
        | .ok (text, process) => return (patterns ++ bareLines text, process)
        | .error reason => throw (plainWording option.text reason)
    else return (patterns, process)
  match given.foldl step (.ok ([], process)) with
  | .error reason => .error reason
  | .ok (patterns, process) =>
      if has given "e" || has given "f" then .ok (patterns, operands, process)
      else
        match operands with
        | [] => .ok ([], [], process)
        | pattern :: rest => .ok (split pattern, rest, process)

def shownName (source : Source) : Octets :=
  if source.name = ['-'] then "(standard input)".toList else source.name

/-- True when lines are found in a source that holds no text, of which nothing is shown then. -/
def isHidden (given : List Given) (source : Source) : Bool :=
  source.text.contains nul && !has given "a" && !(["q", "l", "L", "c"].any (has given))

def searchSource (given : List Given) (search : Search) (isNamed : Bool) (source : Source) : Octets × Bool :=
  let name := shownName source
  let numberOf := fun (option : String) => (textOf? given option).bind decimal?
  let lines := (linesOf source.text).map fun line => (line, search.selects line)
  let limit := (numberOf "m").getD (lines.length + 1)
  let context := (numberOf "C").getD 0
  let before := (numberOf "B").getD context
  let behind := (numberOf "A").getD context
  let selected := (lines.filter fun entry => entry.2).take limit
  let isFound := !selected.isEmpty
  let lastNumber := (selected.getLast?.map fun entry => entry.1.number).getD 0
  let considered := lines.filterMap fun (line, isSelected) =>
    if line.number ≤ lastNumber then some (line, isSelected)
    else if line.number ≤ lastNumber + behind && selected.length < limit then some (line, isSelected)
    else if line.number ≤ lastNumber + behind then some (line, false)
    else none
  let form : Form := ⟨isNamed, has given "n", has given "b", has given "o"⟩
  let label := if isNamed then name ++ [':'] else []
  let text : Octets :=
    if has given "q" then []
    else if has given "l" then (if isFound then name ++ ['\n'] else [])
    else if has given "L" then (if isFound then [] else name ++ ['\n'])
    else if has given "c" then label ++ natText selected.length ++ ['\n']
    else if isHidden given source then []
    else
      showLines form search name (0 < before || 0 < behind) (withContext before behind considered)
  (text, if has given "L" then !isFound else isFound)

def runWith (preset : List Given) : Tool := fun words process =>
  let words := words.map fun word => match word with
    | '-' :: c :: rest => if (c :: rest).all Char.isDigit then '-' :: 'C' :: c :: rest else word
    | _ => word
  withOptions (optionsOf "A:aB:bC:cEe:Ff:GHhIiLlm:noPqRrsTUvwxyZz" [("extended-regexp", "E"),
      ("fixed-strings", "F"), ("basic-regexp", "G"), ("perl-regexp", "P"), ("regexp=", "e"), ("file=", "f"),
      ("ignore-case", "i"), ("invert-match", "v"), ("word-regexp", "w"), ("line-regexp", "x"), ("count", "c"),
      ("files-with-matches", "l"), ("files-without-match", "L"), ("max-count=", "m"), ("only-matching", "o"),
      ("quiet", "q"), ("silent", "q"), ("no-messages", "s"), ("line-number", "n"), ("with-filename", "H"),
      ("no-filename", "h"), ("after-context=", "A"), ("before-context=", "B"), ("context=", "C"),
      ("recursive", "r"), ("include=", "include"), ("exclude=", "exclude"), ("byte-offset", "b"),
      ("text", "a"), ("color?", "color"), ("colour?", "color"), ("null", "Z")]) 2
    (fun given operands process =>
      let given := preset ++ given
      match patternsOf given operands process with
      | .error reason => refuse process 2 reason
      | .ok (patterns, files, process) =>
          if patterns.isEmpty && operands.isEmpty && !has given "e" && !has given "f" then
            (process.report ("Usage: ".toList ++ ownName process ++ " [OPTION]... PATTERNS [FILE]...\n".toList ++
              hint process)).withStatus 2
          else
            match searchOf given patterns with
            | .error reason => refuse process 2 reason.toList
            | .ok search =>
                let process := warnIdle given patterns process
                let targets := targetsOf given files process
                let isDeep := has given "r" || has given "R"
                let isNamed := match lastOf? given ["H", "h"] with
                  | some "H" => true
                  | some _ => false
                  | none => targets.length > 1 || isDeep
                let complain := fun (process : Process) (file reason : Octets) =>
                  if has given "s" then process else warn process (plainWording file reason)
                let targets := if targets.isEmpty && !isDeep then [['-']] else targets
                let (isFound, isGood, process) := targets.foldl (fun (isFound, isGood, process) file =>
                  let read : Except Octets (Octets × Process) :=
                    if file = ['-'] then .ok process.takeInput else readPath process file
                  match read with
                  | .error reason => (isFound, false, complain process file reason)
                  | .ok (text, process) =>
                      let source : Source := ⟨file, text⟩
                      let (shown, isHere) := searchSource given search isNamed source
                      let process := if isHere && isHidden given source then
                          warn process (shownName source ++ ": binary file matches".toList)
                        else process.say shown
                      (isFound || isHere, isGood, process)) (false, true, process)
                let status := if isFound && (isGood || has given "q") then 0 else if !isGood then 2 else 1
                process.withStatus status) words process

end TemplateLint.Machine.Utility.Grep
