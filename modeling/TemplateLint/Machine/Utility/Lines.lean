import TemplateLint.Machine.Utility.Basic
import TemplateLint.Machine.Real
import TemplateLint.Machine.Shell.Format

set_option autoImplicit false

/-!
Programs that write parts of texts, lines in another order or with something added, and counts.
-/

namespace TemplateLint.Machine.Utility

open Shell (Process)

/-! ### Copies -/

/-- A byte in signs that can be seen; tabs are kept unless they are to be shown. -/
def visible (showsTabs : Bool) (c : Char) : Octets :=
  let low := fun (n : Nat) =>
    (if n = 127 then ['^', '?'] else if n < 32 then ['^', Char.ofNat (n + 64)] else [Char.ofNat n] : Octets)
  if c = '\n' || (c = '\t' && !showsTabs) then [c]
  else if c.toNat < 128 then low c.toNat
  else 'M' :: '-' :: low (c.toNat - 128)

def numberLines (skipsEmpty : Bool) : Nat → List Octets → List Octets
  | _, [] => []
  | number, line :: rest =>
      if skipsEmpty && line = ['\n'] then line :: numberLines skipsEmpty number rest
      else (padFront 6 ' ' (natText number) ++ '\t' :: line) :: numberLines skipsEmpty (number + 1) rest

def squeezeEmpty : Bool → List Octets → List Octets
  | _, [] => []
  | wasEmpty, line :: rest =>
      if line = ['\n'] then if wasEmpty then squeezeEmpty true rest else line :: squeezeEmpty true rest
      else line :: squeezeEmpty false rest

def catLetters (given : List Given) : List String :=
  given.flatMap fun option => match option.name with
    | "A" => ["v", "E", "T"]
    | "e" => ["v", "E"]
    | "t" => ["v", "T"]
    | name => [name]

def catText (letters : List String) (text : Octets) : Octets :=
  let isAsked := fun (letter : String) => letters.contains letter
  let lines := fullLines text
  let lines := if isAsked "s" then squeezeEmpty false lines else lines
  let lines := if isAsked "E" then
      lines.map fun line => if line.getLast? = some '\n' then line.dropLast ++ ['$', '\n'] else line
    else lines
  let lines := if isAsked "v" then lines.map fun line => line.flatMap (visible (isAsked "T"))
    else if isAsked "T" then
      lines.map fun line => line.flatMap fun c => if c = '\t' then ['^', 'I'] else [c]
    else lines
  let lines := if isAsked "b" then numberLines true 1 lines
    else if isAsked "n" then numberLines false 1 lines else lines
  lines.flatten

def runCat : Tool :=
  withOptions (optionsOf "AbeEnstTuv" [("show-all", "A"), ("number-nonblank", "b"), ("show-ends", "E"),
      ("number", "n"), ("squeeze-blank", "s"), ("show-tabs", "T"), ("show-nonprinting", "v")]) 1
    fun given files process =>
      let letters := (catLetters given).filter (· != "u")
      if letters.isEmpty then
        forEach (if files.isEmpty then [['-']] else files) process fun file process =>
          if file = ['-'] then
            let (text, process) := process.takeInput
            (true, process.say text)
          else
            match readPath process file with
            | .ok (text, process) => (true, process.say text)
            | .error reason => (false, warn process (plainWording file reason))
      else
        let (sources, isGood, process) := sourcesOf plainWording files process
        withOutcome (process.say (catText letters (sources.flatMap Source.text))) isGood

def runTee : Tool :=
  withOptions (optionsOf "aip" [("append", "a"), ("ignore-interrupts", "i")]) 1 fun given files process =>
    let (text, process) := process.takeInput
    let process := process.say text
    forEach files process fun file process =>
      match process.openToWrite 200 file ⟨false, true, has given "a"⟩ (!has given "a") with
      | .ok opened => (true, (opened.write 200 text).close 200)
      | .error error => (false, warn process (plainWording file (reasonOf error)))

/-! ### Starts and ends -/

/-- A part at the start or the end of a text: so many lines or bytes, all besides so many, or all from a number
on. -/
structure Extent where
  isBytes : Bool
  sign : Option Char
  count : Nat

def countWithUnit? (text : Octets) : Option Nat :=
  let digits := text.takeWhile Char.isDigit
  let factor := match String.ofList (text.drop digits.length) with
    | "" => some 1
    | "b" => some 512
    | "k" | "K" | "KiB" => some 1024
    | "kB" | "KB" => some 1000
    | "M" | "m" | "MiB" => some 1048576
    | "MB" => some 1000000
    | _ => none
  if digits.isEmpty then none else factor.map fun factor => decimal digits * factor

def extentOf? (isBytes : Bool) (text : Octets) : Option Extent :=
  match text with
  | '+' :: digits => (countWithUnit? digits).map fun count => ⟨isBytes, some '+', count⟩
  | '-' :: digits => (countWithUnit? digits).map fun count => ⟨isBytes, some '-', count⟩
  | digits => (countWithUnit? digits).map fun count => ⟨isBytes, none, count⟩

def Extent.first {α : Type} (extent : Extent) (pieces : List α) : List α :=
  if extent.sign = some '-' then pieces.take (pieces.length - extent.count) else pieces.take extent.count

def Extent.last {α : Type} (extent : Extent) (pieces : List α) : List α :=
  if extent.sign = some '+' then pieces.drop (extent.count - 1) else pieces.drop (pieces.length - extent.count)

def Extent.part (extent : Extent) (isLast : Bool) (text : Octets) : Octets :=
  match extent.isBytes, isLast with
  | true, true => extent.last text
  | true, false => extent.first text
  | false, true => (extent.last (fullLines text)).flatten
  | false, false => (extent.first (fullLines text)).flatten

/-- The first word with the number of lines in the place of its option, if that is how it is written. -/
def withPlainCount (isLast : Bool) (words : List Octets) : List Octets :=
  match words with
  | ('-' :: c :: rest) :: others =>
      if c.isDigit then
        let digits := (c :: rest).takeWhile Char.isDigit
        let letters := (c :: rest).drop digits.length
        if letters.isEmpty then ['-', 'n'] :: digits :: others
        else if letters = ['c'] then ['-', 'c'] :: digits :: others
        else words
      else words
  | ('+' :: c :: rest) :: others =>
      if isLast && (c :: rest).all Char.isDigit then ['-', 'n'] :: ('+' :: c :: rest) :: others else words
  | _ => words

def writeParts (isNamed : Bool) (part : Octets → Octets) : Bool → List Source → Process → Process
  | _, [], process => process
  | isFirst, source :: rest, process =>
      let name := if source.name = ['-'] then "standard input".toList else source.name
      let heading := if !isNamed then [] else
        (if isFirst then [] else ['\n']) ++ "==> ".toList ++ name ++ " <==\n".toList
      writeParts isNamed part false rest (process.say (heading ++ part source.text))

def runExtent (isLast : Bool) : Tool := fun words process =>
  withOptions (optionsOf "n:c:qvzfFs:" [("lines=", "n"), ("bytes=", "c"), ("quiet", "q"), ("silent", "q"),
      ("verbose", "v"), ("follow?", "f")]) 1
    (fun given files process =>
      let kind := (lastOf? given ["n", "c"]).getD "n"
      let isBytes := kind == "c"
      let text := (textOf? given kind).getD ['1', '0']
      match extentOf? isBytes text with
      | none =>
          refuse process 1 (("invalid number of " ++ (if isBytes then "bytes" else "lines") ++ ": ").toList ++
            quoted (if isLast then (if text.head? = some '-' then text.drop 1 else text) else text))
      | some extent =>
          let isNamed := has given "v" || (files.length > 1 && !has given "q")
          let readsStart := !isLast && extent.sign.isNone && (files.isEmpty || files = [['-']])
          let isFile := ((process.channel? 0).map process.shared.isFile).getD false
          if readsStart && isFile && !isNamed then
            let part := extent.part false (process.readable 0)
            ((process.advance 0 part.length).say part).withStatus 0
          else
            let (sources, isGood, process) := sourcesOf openWording files process
            withOutcome (writeParts isNamed (extent.part isLast) true sources process) isGood)
    (withPlainCount isLast words) process

/-! ### Counts -/

def countWords (text : Octets) : Nat :=
  (text.foldl (fun (count, isInside) c =>
    if isSpace c then (count, false) else (if isInside then count else count + 1, true)) (0, false)).1

def widestLine (text : Octets) : Nat :=
  ((bareLines text).map fun line => line.foldl (fun width c =>
    if c = '\t' then width + (8 - width % 8) else if isPrintable c then width + 1 else width) 0).foldl max 0

def countsOf (given : List Given) (text : Octets) : List Nat :=
  let isAsked := fun (letter : String) => has given letter
  let isDefault := !(["l", "w", "c", "m", "L"].any isAsked)
  (if isDefault || isAsked "l" then [text.count '\n'] else []) ++
    (if isDefault || isAsked "w" then [countWords text] else []) ++
    (if isAsked "m" then [text.length] else []) ++
    (if isDefault || isAsked "c" then [text.length] else []) ++
    (if isAsked "L" then [widestLine text] else [])

def countLine (width : Nat) (name : Octets) (counts : List Nat) : Octets :=
  joinWords (counts.map fun count => padFront width ' ' (natText count)) ++
    (if name.isEmpty then [] else ' ' :: name) ++ ['\n']

def regularSize? (process : Process) (file : Octets) : Option Nat :=
  if file = ['-'] || file.isEmpty then
    (process.channel? 0).bind fun index =>
      match process.shared.streams[index]? with
      | some (.file number _ _) => some (process.shared.contentOf number).length
      | _ => none
  else
    match (process.item? file).map Item.node with
    | some (.file content) => some content.length
    | some (.program _) => some 0
    | _ => none

def runWc : Tool :=
  withOptions (optionsOf "lwcmL" [("lines", "l"), ("words", "w"), ("bytes", "c"), ("chars", "m"),
      ("max-line-length", "L")]) 1
    fun given files process =>
      let names := if files.isEmpty then [[]] else files
      let sizes := (names.filter fun file => file.isEmpty || file = ['-'] || (process.item? file).isSome).map
        (regularSize? process)
      let columns := (countsOf given []).length
      let total := (sizes.map fun size => size.getD 0).foldl (· + ·) 0
      let width :=
        if columns = 1 && names.length = 1 then 1
        else max (natText total).length (if sizes.any Option.isNone then 7 else 1)
      let (sources, isGood, process) := sourcesOf plainWording files process
      let counts := sources.map fun source => countsOf given source.text
      let lines := (sources.zip counts).map fun (source, counts) =>
        countLine width (if files.isEmpty then [] else source.name) counts
      let zeros := List.replicate columns 0
      let sums := counts.foldl (List.zipWith (· + ·)) zeros
      let last := if files.length > 1 then countLine width "total".toList sums else []
      withOutcome (process.say (lines.flatten ++ last)) isGood

/-! ### Orders of lines -/

def runOnEach (options : Options) (change : List Given → Octets → Octets) : Tool :=
  withOptions options 1 fun given files process =>
    let (sources, isGood, process) := sourcesOf plainWording files process
    withOutcome (process.say (sources.flatMap fun source => change given source.text)) isGood

def runTac : Tool := runOnEach (optionsOf "brs:" []) fun _ text => (fullLines text).reverse.flatten

def runRev : Tool :=
  runOnEach (optionsOf "" []) fun _ text =>
    (fullLines text).flatMap fun line =>
      if line.getLast? = some '\n' then line.dropLast.reverse ++ ['\n'] else line.reverse

def runNl : Tool :=
  withOptions (optionsOf "b:d:f:h:i:l:n:ps:v:w:" [("body-numbering=", "b"), ("number-separator=", "s"),
      ("starting-line-number=", "v"), ("number-width=", "w"), ("line-increment=", "i"),
      ("number-format=", "n")]) 1
    fun given files process =>
      let (sources, isGood, process) := sourcesOf plainWording files process
      let numberOf := fun (name : String) (default : Nat) =>
        ((textOf? given name).bind decimal?).getD default
      let width := numberOf "w" 6
      let separator := (textOf? given "s").getD ['\t']
      let style := (textOf? given "b").getD ['t']
      let format := (textOf? given "n").getD ['r', 'n']
      let shown := fun (number : Nat) =>
        let digits := natText number
        if format = ['l', 'n'] then digits ++ List.replicate (width - digits.length) ' '
        else padFront width (if format = ['r', 'z'] then '0' else ' ') digits
      let lines := bareLines (sources.flatMap Source.text)
      let (texts, _) := lines.foldl (fun (texts, number) line =>
        if style = ['a'] || (style = ['t'] && !line.isEmpty) then
          ((shown number ++ separator ++ line ++ ['\n']) :: texts, number + numberOf "i" 1)
        else ((List.replicate (width + separator.length) ' ' ++ line ++ ['\n']) :: texts, number))
        ([], numberOf "v" 1)
      withOutcome (process.say texts.reverse.flatten) isGood

/-- A line in pieces of a width; with `atBlanks` a piece ends behind a blank if there is one. -/
def foldLine (width : Nat) (atBlanks : Bool) : Nat → Octets → List Octets
  | 0, line => [line]
  | fuel + 1, line =>
      if line.length ≤ width then [line]
      else
        let piece := line.take width
        let cut := (piece.reverse.dropWhile fun c => !isSpaceOrTab c).length
        let size := if atBlanks && 0 < cut then cut else max width 1
        line.take size :: foldLine width atBlanks fuel (line.drop size)

def runFold : Tool := fun words process =>
  let words := words.map fun word => match word with
    | '-' :: c :: rest => if c.isDigit then '-' :: 'w' :: c :: rest else word
    | _ => word
  runOnEach (optionsOf "bsw:" [("width=", "w"), ("spaces", "s"), ("bytes", "b")]) (fun given text =>
    let width := ((textOf? given "w").bind decimal?).getD 80
    (fullLines text).flatMap fun line =>
      let pieces := foldLine width (has given "s") line.length (bareLine line)
      joinWith ['\n'] pieces ++ (if line.getLast? = some '\n' then ['\n'] else [])) words process

/-! ### Columns -/

structure Span where
  first : Nat
  last : Option Nat

def Span.holds (span : Span) (number : Nat) : Bool :=
  span.first ≤ number && (span.last.map fun last => decide (number ≤ last)).getD true

def spansOf (isFields : Bool) (text : Octets) : Except Octets (List Span) :=
  let what := if isFields then "fields" else "byte/character positions"
  let invalid := fun (part : Octets) =>
    (if isFields then "invalid field value ".toList else "invalid byte/character position ".toList) ++ quoted part
  (text.splitBy fun c d => c != ',' && c != ' ' && d != ',' && d != ' ').filter
      (fun part => part != [','] && part != [' ']) |>.mapM fun part =>
    let first := part.takeWhile (· != '-')
    let behind := part.drop first.length
    match behind with
    | [] =>
        match decimal? first with
        | some 0 => .error (what.toList ++ " are numbered from 1".toList)
        | some number => .ok ⟨number, some number⟩
        | none => .error (invalid part)
    | _ :: last =>
        match if first.isEmpty then some 1 else decimal? first with
        | none => .error (invalid part)
        | some 0 => .error (what.toList ++ " are numbered from 1".toList)
        | some low =>
            if last.isEmpty then
              if first.isEmpty then .error "invalid range with no endpoint: -".toList else .ok ⟨low, none⟩
            else
              match decimal? last with
              | none => .error (invalid part)
              | some high =>
                  if high < low then .error "invalid decreasing range".toList else .ok ⟨low, some high⟩

def chosen {α : Type} (test : Nat → Bool) (elements : List α) : List α :=
  ((elements.zipIdx 1).filter fun entry => test entry.2).map Prod.fst

def cutBytes (test : Nat → Bool) (separator : Option Octets) (line : Octets) : Octets :=
  match separator with
  | none => chosen test line
  | some separator =>
      let (texts, _, _) := (line.zipIdx 1).foldl (fun (texts, wasChosen, hasAny) (c, number) =>
        if test number then
          (([c] ++ (if hasAny && !wasChosen then separator.reverse else [])) ++ texts, true, true)
        else (texts, false, hasAny)) (([] : Octets), false, false)
      texts.reverse

def runCut : Tool :=
  withOptions (optionsOf "b:c:d:f:nsz" [("bytes=", "b"), ("characters=", "c"), ("delimiter=", "d"),
      ("fields=", "f"), ("only-delimited", "s"), ("complement", "complement"),
      ("output-delimiter=", "o"), ("zero-terminated", "z")]) 1
    fun given files process =>
      let kinds := given.filter fun option => ["b", "c", "f"].contains option.name
      match kinds with
      | [] => misuse process 1 "you must specify a list of bytes, characters, or fields".toList
      | _ :: _ :: _ => misuse process 1 "only one list may be specified".toList
      | [kind] =>
          let isFields := kind.name == "f"
          let delimiter := (textOf? given "d").getD ['\t']
          if !isFields && has given "d" then
            misuse process 1 "an input delimiter may be specified only when operating on fields".toList
          else if delimiter.length > 1 then misuse process 1 "the delimiter must be a single character".toList
          else
            match spansOf isFields kind.text with
            | .error reason => misuse process 1 reason
            | .ok spans =>
                let test := fun (number : Nat) =>
                  (spans.any fun span => span.holds number) != has given "complement"
                let mark := delimiter.head?.getD nul
                let change : Octets → Option Octets := fun line =>
                  if isFields then
                    if line.contains mark then
                      some (joinWith ((textOf? given "o").getD [mark]) (chosen test (splitAt mark line)))
                    else if has given "s" then none
                    else some line
                  else some (cutBytes test (textOf? given "o") line)
                let (sources, isGood, process) := sourcesOf plainWording files process
                let lines := sources.flatMap fun source => (bareLines source.text).filterMap change
                withOutcome (process.say (asLines lines)) isGood

def delimitersOf (text : Octets) : List Octets :=
  match text with
  | [] => []
  | [c] => [[c]]
  | c :: d :: rest =>
      if c = backslash then
        (match d with
          | 'n' => ['\n']
          | 't' => ['\t']
          | '0' => []
          | other => [other]) :: delimitersOf rest
      else [c] :: delimitersOf (d :: rest)
termination_by text.length

def joinCycling (separators : Array Octets) (texts : List Octets) : Octets :=
  (texts.zipIdx).flatMap fun (text, index) =>
    (if index = 0 then []
      else (separators[(index - 1) % max 1 separators.size]?).getD []) ++ text

/-- Joins lines that stand at the same place in files, or the lines of each file. -/
def runPaste : Tool :=
  withOptions (optionsOf "d:sz" [("delimiters=", "d"), ("serial", "s")]) 1 fun given files process =>
    let separators := (delimitersOf ((textOf? given "d").getD ['\t'])).toArray
    let files := if files.isEmpty then [['-']] else files
    let dashes := (files.filter (· = ['-'])).length
    let (input, process) := if dashes = 0 then ([], process) else
      let (text, process) := process.takeInput
      (bareLines text, process)
    let (columns, isGood, process, _) := files.foldl (fun (columns, isGood, process, seen) file =>
      if file = ['-'] then
        let own := if has given "s" then (if seen = 0 then input else [])
          else ((input.zipIdx).filter fun entry => entry.2 % dashes == seen).map Prod.fst
        (own :: columns, isGood, process, seen + 1)
      else
        match readPath process file with
        | .ok (text, process) => (bareLines text :: columns, isGood, process, seen)
        | .error reason => (columns, false, warn process (plainWording file reason), seen))
      (([] : List (List Octets)), true, process, 0)
    let columns := columns.reverse
    if !isGood then process.withStatus 1
    else if has given "s" then
      (process.say (asLines (columns.map (joinCycling separators)))).withStatus 0
    else
      let height := (columns.map List.length).foldl max 0
      let rows := (List.range height).map fun index => columns.map fun column => (column[index]?).getD []
      (process.say (asLines (rows.map (joinCycling separators)))).withStatus 0

/-! ### Repeated lines -/

def comparedPart (given : List Given) (line : Octets) : Octets :=
  let numberOf := fun (name : String) => ((textOf? given name).bind decimal?)
  let dropField := fun (line : Octets) => (line.dropWhile isSpaceOrTab).dropWhile fun c => !isSpaceOrTab c
  let rest := (List.range ((numberOf "f").getD 0)).foldl (fun line _ => dropField line) line
  let rest := rest.drop ((numberOf "s").getD 0)
  let rest := match numberOf "w" with
    | some width => rest.take width
    | none => rest
  if has given "i" then rest.map Char.toLower else rest

def runsOf (key : Octets → Octets) (lines : List Octets) : List (List Octets) :=
  lines.splitBy fun left right => key left == key right

def runUniq : Tool :=
  withOptions (optionsOf "cdDf:is:uw:z" [("count", "c"), ("repeated", "d"), ("unique", "u"),
      ("ignore-case", "i"), ("skip-fields=", "f"), ("skip-chars=", "s"), ("check-chars=", "w")]) 1
    fun given operands process =>
      let (sources, isGood, process) := sourcesOf plainWording (operands.take 1) process
      let runs := runsOf (comparedPart given) (bareLines (sources.flatMap Source.text))
      let kept := runs.filter fun run =>
        if has given "d" || has given "D" then run.length > 1 && !has given "u"
        else if has given "u" then run.length = 1 else true
      let lines := kept.flatMap fun run =>
        if has given "D" then run
        else
          let count := if has given "c" then padFront 7 ' ' (natText run.length) ++ [' '] else []
          [count ++ run.head?.getD []]
      let text := asLines lines
      match operands with
      | _ :: target :: _ =>
          match process.openToWrite 200 target ⟨false, true, false⟩ true with
          | .ok opened => withOutcome ((opened.write 200 text).close 200) isGood
          | .error error => refuse process 1 (plainWording target (reasonOf error))
      | _ => withOutcome (process.say text) isGood

/-- The lines of two sorted texts: those only in the first, only in the second, and in both, each with its
column. -/
def compareSorted : Nat → List Octets → List Octets → List (Nat × Octets)
  | 0, _, _ => []
  | _ + 1, [], right => right.map fun line => (2, line)
  | _ + 1, left, [] => left.map fun line => (1, line)
  | fuel + 1, a :: left, b :: right =>
      if a == b then (3, a) :: compareSorted fuel left right
      else if notAfter a b then (1, a) :: compareSorted fuel left (b :: right)
      else (2, b) :: compareSorted fuel (a :: left) right

def runComm : Tool :=
  withOptions (optionsOf "123z" []) 1 fun given files process =>
    match files with
    | [_, _] =>
        let (sources, isGood, process) := sourcesOf plainWording files process
        match sources.map fun source => bareLines source.text with
        | [left, right] =>
            let columns := ["1", "2", "3"].filter fun column => !has given column
            let lines := (compareSorted (left.length + right.length + 1) left right).filterMap fun (column, line) =>
              (columns.findIdx? (· == toString column)).map fun index => List.replicate index '\t' ++ line
            withOutcome (process.say (asLines lines)) isGood
        | _ => process.withStatus 1
    | [] => misuse process 1 "missing operand".toList
    | [only] => misuse process 1 ("missing operand after ".toList ++ quoted only)
    | _ => misuse process 1 ("extra operand ".toList ++ quoted (files[2]?.getD []))

/-! ### Replaced characters -/

def byteRange (first last : Char) : Octets :=
  (List.range (last.toNat + 1 - first.toNat)).map fun offset => Char.ofNat (first.toNat + offset)

/-- A character of a set, with the text behind it; the truth value says that it was quoted. -/
def setCharacter? (text : Octets) : Option (Char × Bool × Octets) :=
  match text with
  | [] => none
  | c :: rest =>
      if c != backslash then some (c, false, rest)
      else
        match rest with
        | [] => some (backslash, true, [])
        | d :: behind =>
            if isOctal d then
              let digits := (rest.take 3).takeWhile isOctal
              some (Shell.octalByte digits, true, rest.drop digits.length)
            else
              match if d = 'e' then none else Shell.letterEscape? d with
              | some byte => some (byte, true, behind)
              | none => some (d, true, behind)

/-- A part of a set: bytes, and how often they are repeated if they are there to fill it up. -/
abbrev SetPart := Octets × Option Nat

/-- The part of a set in brackets at the start of a text, and the text behind it. -/
def bracketPart? (text : Octets) : Except Octets (Option (SetPart × Octets)) :=
  match text with
  | '[' :: ':' :: rest =>
      let name := rest.takeWhile (· != ':')
      match rest.drop name.length with
      | ':' :: ']' :: behind =>
          match characterClass? name with
          | some test => .ok (some ((((List.range 256).map Char.ofNat).filter test, none), behind))
          | none => .error ("invalid character class ".toList ++ quoted name)
      | _ => .ok none
  | '[' :: '=' :: c :: '=' :: ']' :: rest => .ok (some (([c], none), rest))
  | '[' :: c :: '*' :: rest =>
      let digits := rest.takeWhile Char.isDigit
      match rest.drop digits.length with
      | ']' :: behind =>
          let count := if digits.head? = some '0' then numberIn 8 digits else decimal digits
          .ok (some (([c], some count), behind))
      | _ => .ok none
  | _ => .ok none

def plainPart? (text : Octets) : Except Octets (Option (SetPart × Octets)) :=
  match setCharacter? text with
  | none => .ok none
  | some (first, _, rest) =>
      match rest with
      | '-' :: more =>
          match setCharacter? more with
          | some (last, _, behind) =>
              if last.toNat < first.toNat then
                .error ("range-endpoints of ".toList ++ quoted [first, '-', last] ++
                  " are in reverse collating sequence order".toList)
              else .ok (some ((byteRange first last, none), behind))
          | none => .ok (some (([first], none), rest))
      | _ => .ok (some (([first], none), rest))

def byteSet : Nat → Octets → Except Octets (List SetPart)
  | 0, _ => .ok []
  | fuel + 1, text => do
      let bracket ← bracketPart? text
      let part ← match bracket with
        | some part => .ok (some part)
        | none => plainPart? text
      match part with
      | none => return []
      | some (part, rest) => return part :: (← byteSet fuel rest)

def filledSet (size : Nat) (parts : List SetPart) : Octets :=
  let fixed := parts.foldl (fun count (bytes, repeated) => count + match repeated with
    | none => bytes.length
    | some number => number) 0
  parts.flatMap fun (bytes, repeated) => match repeated with
    | none => bytes
    | some 0 => List.replicate (size - fixed) (bytes.head?.getD nul)
    | some number => List.replicate number (bytes.head?.getD nul)

def squeeze (test : Char → Bool) (text : Octets) : Octets :=
  (text.foldl (fun (done : Octets) c =>
    if done.head? = some c && test c then done else c :: done) []).reverse

def runTr : Tool :=
  withOptions { optionsOf "cCdst" [("complement", "c"), ("delete", "d"), ("squeeze-repeats", "s"),
      ("truncate-set1", "t")] with mixes := false } 1
    fun given sets process =>
      let isComplement := has given "c" || has given "C"
      let deletes := has given "d"
      let squeezes := has given "s"
      match (sets.take 2).mapM fun set => byteSet (set.length + 1) set with
      | .error reason => refuse process 1 reason
      | .ok parts =>
      match sets, parts with
      | [], _ => misuse process 1 "missing operand".toList
      | [only], [set] =>
          if !deletes && !squeezes then
            ((warn process ("missing operand after ".toList ++ quoted only)).report
              ("Two strings must be given when translating.\n".toList ++ hint process)).withStatus 1
          else
            let (text, process) := process.takeInput
            let bytes := filledSet 0 set
            let test := fun (c : Char) => bytes.contains c != isComplement
            let changed := if deletes then text.filter fun c => !test c else squeeze test text
            (process.say changed).withStatus 0
      | [_, extra], [first, second] =>
          if deletes && !squeezes then
            ((warn process ("extra operand ".toList ++ quoted extra)).report
              ("Only one string may be given when deleting without squeezing repeats.\n".toList ++
                hint process)).withStatus 1
          else
            let (text, process) := process.takeInput
            let source := filledSet 0 first
            let source := if isComplement then
                ((List.range 256).map Char.ofNat).filter fun c => !source.contains c
              else source
            let target := filledSet source.length second
            if deletes then
              let kept := text.filter fun c => !source.contains c
              (process.say (squeeze (fun c => target.contains c) kept)).withStatus 0
            else
              match target.getLast? with
              | none => refuse process 1 "when not truncating set1, string2 must be non-empty".toList
              | some last =>
                  let limit := if has given "t" then target.length else source.length
                  let table := (List.range 256).map fun byte =>
                    let c := Char.ofNat byte
                    let indices := (((source.take limit).zipIdx).filter fun entry => entry.1 == c).map Prod.snd
                    match indices.getLast? with
                    | some index => (target[index]?).getD last
                    | none => c
                  let table := table.toArray
                  let changed := text.map fun c => (table[c.toNat]?).getD c
                  let changed := if squeezes then squeeze (fun c => target.contains c) changed else changed
                  (process.say changed).withStatus 0
      | _, _ => misuse process 1 ("extra operand ".toList ++ quoted (sets[2]?.getD []))

/-! ### Other forms of bytes -/

def sixtyFourSign (value : Nat) : Char :=
  if value < 26 then Char.ofNat (value + 65) else if value < 52 then Char.ofNat (value + 71)
  else if value < 62 then Char.ofNat (value - 4) else if value = 62 then '+' else '/'

def sixtyFourText : Octets → Octets
  | a :: b :: c :: rest =>
      let value := a.toNat * 65536 + b.toNat * 256 + c.toNat
      sixtyFourSign (value / 262144) :: sixtyFourSign (value / 4096 % 64) :: sixtyFourSign (value / 64 % 64) ::
        sixtyFourSign (value % 64) :: sixtyFourText rest
  | [a, b] =>
      let value := a.toNat * 256 + b.toNat
      [sixtyFourSign (value / 1024), sixtyFourSign (value / 16 % 64), sixtyFourSign (value * 4 % 64), '=']
  | [a] => [sixtyFourSign (a.toNat / 4), sixtyFourSign (a.toNat * 16 % 64), '=', '=']
  | [] => []

def sixtyFourValue? (c : Char) : Option Nat :=
  if c.isUpper then some (c.toNat - 65) else if c.isLower then some (c.toNat - 71)
  else if c.isDigit then some (c.toNat + 4) else if c = '+' then some 62 else if c = '/' then some 63 else none

def bytesOfSixtyFour : List Nat → Octets
  | a :: b :: c :: d :: rest =>
      let value := a * 262144 + b * 4096 + c * 64 + d
      Char.ofNat (value / 65536) :: Char.ofNat (value / 256 % 256) :: Char.ofNat (value % 256) ::
        bytesOfSixtyFour rest
  | [a, b, c] => [Char.ofNat (a * 4 + b / 16), Char.ofNat (b % 16 * 16 + c / 4)]
  | [a, b] => [Char.ofNat (a * 4 + b / 16)]
  | _ => []

def runBase64 : Tool :=
  withOptions (optionsOf "diw:" [("decode", "d"), ("ignore-garbage", "i"), ("wrap=", "w")]) 1
    fun given files process =>
      let (sources, isGood, process) := sourcesOf plainWording files process
      let text := sources.flatMap Source.text
      if has given "d" then
        let signs := text.filter fun c => c != '\n'
        let plain := dropEndWhile (· == '=') signs
        let process := process.say (bytesOfSixtyFour (plain.filterMap sixtyFourValue?))
        let isWhole := (plain.length + min 2 (signs.length - plain.length)) % 4 = 0
        if (plain.any (fun c => (sixtyFourValue? c).isNone) || !isWhole) && !has given "i" then
          refuse process 1 "invalid input".toList
        else withOutcome process isGood
      else
        let width := ((textOf? given "w").bind decimal?).getD 76
        let signs := sixtyFourText text
        let written := if width = 0 then signs
          else asLines ((foldLine width false (signs.length + 1) signs).filter fun line => !line.isEmpty)
        withOutcome (process.say written) isGood

def namedByte (c : Char) : Octets :=
  match c.toNat with
  | 0 => ['\\', '0']
  | 7 => ['\\', 'a']
  | 8 => ['\\', 'b']
  | 9 => ['\\', 't']
  | 10 => ['\\', 'n']
  | 11 => ['\\', 'v']
  | 12 => ['\\', 'f']
  | 13 => ['\\', 'r']
  | n => if isPrintable c then [c] else padFront 3 '0' (Nat.toDigits 8 n)

def littleNumber (bytes : Octets) : Nat := bytes.foldr (fun c value => value * 256 + c.toNat) 0

def groupsOf (size : Nat) : Nat → Octets → List Octets
  | 0, _ => []
  | fuel + 1, text => if text.isEmpty then [] else text.take size :: groupsOf size fuel (text.drop size)

def dumpGroup (format : Octets) (size : Nat) (bytes : Octets) : Octets :=
  match format.head? with
  | some 'c' => padFront 4 ' ' (namedByte (bytes.head?.getD nul))
  | some 'x' => ' ' :: padFront (2 * size) '0' (Nat.toDigits 16 (littleNumber bytes))
  | some 'u' =>
      let width := if size = 1 then 3 else if size = 2 then 5 else if size = 4 then 10 else 20
      ' ' :: padFront width ' ' (natText (littleNumber bytes))
  | some 'd' =>
      let width := if size = 1 then 4 else if size = 2 then 6 else if size = 4 then 11 else 20
      let modulus := Nat.pow 256 size
      let value := littleNumber bytes
      ' ' :: padFront width ' ' (intText (if 2 * value < modulus then Int.ofNat value
        else Int.ofNat value - Int.ofNat modulus))
  | _ =>
      let width := if size = 1 then 3 else if size = 2 then 6 else if size = 4 then 11 else 22
      ' ' :: padFront width '0' (Nat.toDigits 8 (littleNumber bytes))

/-- The lines of a dump, where a star stands for all lines with the bytes of the line before. -/
def collapse : Option (Octets × Bool) → List (Octets × Octets) → List Octets
  | _, [] => []
  | before, [(line, row)] =>
      if before.any fun (earlier, isStarred) => earlier == row && !isStarred then [['*']]
      else if before.any fun (earlier, _) => earlier == row then [] else [line]
  | before, (line, row) :: next :: rest =>
      match before with
      | some (earlier, isStarred) =>
          if earlier = row then
            (if isStarred then [] else [['*']]) ++ collapse (some (row, true)) (next :: rest)
          else line :: collapse (some (row, false)) (next :: rest)
      | none => line :: collapse (some (row, false)) (next :: rest)

def runOd : Tool :=
  withOptions (optionsOf "A:bcdj:N:osS:t:vw:x" [("address-radix=", "A"), ("format=", "t"),
      ("read-bytes=", "N"), ("skip-bytes=", "j"), ("output-duplicates", "v"), ("width?", "w")]) 1
    fun given files process =>
      let (sources, isGood, process) := sourcesOf plainWording files process
      let numberOf := fun (name : String) => (textOf? given name).bind decimal?
      let text := (sources.flatMap Source.text).drop ((numberOf "j").getD 0)
      let text := match numberOf "N" with
        | some count => text.take count
        | none => text
      let format : Octets :=
        match lastOf? given ["b", "c", "d", "o", "s", "x", "t"] with
        | some "b" => ['o', '1']
        | some "c" => ['c']
        | some "d" => ['u', '2']
        | some "s" => ['d', '2']
        | some "x" => ['x', '2']
        | some "t" => (textOf? given "t").getD ['o', '2']
        | _ => ['o', '2']
      let showsText := format.length > 1 && format.getLast? = some 'z'
      let format := if showsText then format.dropLast else format
      let size := match format.drop 1 with
        | ['C'] => 1
        | ['S'] => 2
        | ['I'] => 4
        | ['L'] => 8
        | digits => if format.head? = some 'c' then 1 else (decimal? digits).getD 4
      let skipped := (numberOf "j").getD 0
      let addresses := (textOf? given "A").getD ['o']
      let address := fun (offset : Nat) => match addresses with
        | ['n'] => []
        | ['d'] => padFront 7 '0' (natText offset)
        | ['x'] => padFront 6 '0' (Nat.toDigits 16 offset)
        | _ => padFront 7 '0' (Nat.toDigits 8 offset)
      let width := if has given "w" then ((textOf? given "w").bind decimal?).getD 32 else 16
      let rows := groupsOf width (text.length + 1) text
      let dumped := fun (row : Octets) => (groupsOf size (width + 1) row).flatMap (dumpGroup format size)
      let room := (dumped (List.replicate width nul)).length
      let lines := (rows.zipIdx).map fun (row, index) =>
        let sideText := if showsText then
            List.replicate (room - (dumped row).length) ' ' ++ "  >".toList ++
              row.map (fun c => if isPrintable c then c else '.') ++ ['<']
          else []
        (address (skipped + width * index) ++ dumped row ++ sideText, row)
      let lines := if has given "v" then lines.map Prod.fst else collapse none lines
      let last := if addresses = ['n'] then [] else [address (skipped + text.length)]
      withOutcome (process.say (asLines (lines ++ last))) isGood

def runCmp : Tool :=
  withOptions (optionsOf "bi:ln:s" [("silent", "s"), ("quiet", "s")]) 2 fun given files process =>
    match files with
    | [] => misuse process 2 "missing operand after 'cmp'".toList
    | _ =>
        let files := if files.length = 1 then files ++ [['-']] else files.take 2
        let (sources, isGood, process) := sourcesOf plainWording files process
        match sources, isGood with
        | [left, right], true =>
            let limit := ((textOf? given "n").bind decimal?).getD (max left.text.length right.text.length)
            let left := { left with text := left.text.take limit }
            let right := { right with text := right.text.take limit }
            let pairs := left.text.zip right.text
            let differences := pairs.zipIdx.filter fun (pair, _) => pair.1 != pair.2
            let listsAll := has given "l"
            let ended := fun (process : Process) =>
              if left.text.length = right.text.length then process.withStatus (if differences.isEmpty then 0 else 1)
              else
                let shorter := if left.text.length < right.text.length then left else right
                let lines := shorter.text.count '\n'
                let place := if listsAll then []
                  else if shorter.text.getLast? = some '\n' then ", line ".toList ++ natText lines
                  else ", in line ".toList ++ natText (lines + 1)
                let reason := "EOF on ".toList ++ shorter.name ++
                  (if shorter.text.isEmpty then " which is empty".toList
                    else " after byte ".toList ++ natText shorter.text.length ++ place)
                (if has given "s" then process else warn process reason).withStatus 1
            match differences with
            | [] => ended process
            | (_, index) :: _ =>
                if has given "s" then process.withStatus 1
                else if listsAll then
                  let width := (natText (min left.text.length right.text.length)).length
                  ended (process.say (asLines (differences.map fun ((first, second), index) =>
                    padFront width ' ' (natText (index + 1)) ++ ' ' :: padFront 3 ' ' (Nat.toDigits 8 first.toNat) ++
                      ' ' :: padFront 3 ' ' (Nat.toDigits 8 second.toNat))))
                else
                  let line := (left.text.take index).count '\n' + 1
                  (process.say (left.name ++ ' ' :: right.name ++ " differ: byte ".toList ++ natText (index + 1) ++
                    ", line ".toList ++ natText line ++ ['\n'])).withStatus 1
        | _, _ => process.withStatus 2

end TemplateLint.Machine.Utility
