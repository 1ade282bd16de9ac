import TemplateLint.Machine.Utility.Basic
import TemplateLint.Machine.Real
import TemplateLint.Machine.Shell.Builtin.Directory
import TemplateLint.Machine.Shell.Builtin.Printing

set_option autoImplicit false

/-!
Programs that print what their operands say.
-/

namespace TemplateLint.Machine.Utility

open Shell (Process)

/-! ### Words -/

def echoOptions : List Octets → List Char × List Octets
  | [] => ([], [])
  | word :: rest =>
      match word with
      | '-' :: c :: letters =>
          if (c :: letters).all fun c => "neE".toList.contains c then
            let (more, operands) := echoOptions rest
            (c :: letters ++ more, operands)
          else ([], word :: rest)
      | _ => ([], word :: rest)

def runEcho : Tool := fun words process =>
  let (letters, operands) := echoOptions words
  let hasEscapes := (letters.reverse.find? fun c => c != 'n') == some 'e'
  let (text, isEnd) := if hasEscapes then Shell.unescape (joinWords operands) else (joinWords operands, false)
  (process.say (if isEnd || letters.contains 'n' then text else text ++ ['\n'])).withStatus 0

def runPrintf : Tool := fun words process =>
  let words := if words.head? = some ['-', '-'] then words.drop 1 else words
  match words with
  | [] => misuse process 1 "missing operand".toList
  | format :: operands =>
      let printing := Shell.printingOf format operands
      let process := printing.complaints.reverse.foldl warn (process.say printing.text)
      match printing.failure with
      | some reason => refuse process 1 reason
      | none => withOutcome process printing.complaints.isEmpty

def runTest : Tool := fun words process =>
  match Shell.testOutcome process.surroundings (words.length + 1) words with
  | .ok outcome => withOutcome process outcome
  | .error reason => refuse process 2 reason

def runBracket : Tool := fun words process =>
  if words.getLast? = some [']'] then runTest words.dropLast process
  else refuse process 2 "missing ']'".toList

def runPwd : Tool :=
  withOptions (optionsOf "LP" []) 1 fun given _ process =>
    let text := if lastOf? given ["L", "P"] == some "L" then process.directoryText
      else Shell.placeText process.directory
    (process.say (text ++ ['\n'])).withStatus 0

def runYes : Tool := fun words process =>
  let words := if words.head? = some ['-', '-'] then words.drop 1 else words
  let line := (if words.isEmpty then ['y'] else joinWords words) ++ ['\n']
  let count := 2 * 1048576 / line.length + 1
  process.say (List.replicate count line).flatten

def unitSeconds? : Octets → Option Nat
  | [] | ['s'] => some 1
  | ['m'] => some 60
  | ['h'] => some 3600
  | ['d'] => some 86400
  | _ => none

/-- The length of time that a text writes, in thousandths of a second and not more than an hour for numbers
in an unusual form. -/
def interval? (text : Octets) : Option Nat :=
  match realAt? text with
  | none => none
  | some (_, rest) =>
      let number := text.take (text.length - rest.length)
      let whole := number.takeWhile Char.isDigit
      let part := match number.drop whole.length with
        | '.' :: digits => some digits
        | [] => some []
        | _ => none
      (unitSeconds? rest).map fun seconds =>
        match part.filter fun digits => digits.all Char.isDigit with
        | some digits => seconds * (decimal whole * 1000 + decimal ((digits ++ ['0', '0', '0']).take 3))
        | none => 3600000

def isInterval (text : Octets) : Bool := (interval? text).isSome

def runSleep : Tool :=
  withOptions (optionsOf "" []) 1 fun _ operands process =>
    match operands.find? fun operand => !isInterval operand || operand.head? == some '-' with
    | some operand => misuse process 1 ("invalid time interval ".toList ++ quoted operand)
    | none => if operands.isEmpty then misuse process 1 "missing operand".toList else process.withStatus 0

def runPrintenv : Tool :=
  withOptions (optionsOf "0" [("null", "0")]) 2 fun given names process =>
    let ending : Octets := if has given "0" then [nul] else ['\n']
    if names.isEmpty then
      (process.say (process.bindings.entries.reverse.flatMap fun entry =>
        entry.name ++ '=' :: entry.value?.getD [] ++ ending)).withStatus 0
    else
      let values := names.map process.bindings.get?
      withOutcome (process.say (values.flatMap fun value => match value with
        | some text => text ++ ending
        | none => [])) (values.all Option.isSome)

/-! ### Sequences -/

/-- A decimal number as a count of units of which ten to the power `places` make one. -/
structure Decimal where
  units : Int
  places : Nat

def decimalNumber? (text : Octets) : Option Decimal :=
  let (isNegative, digits) := match text with
    | '-' :: rest => (true, rest)
    | '+' :: rest => (false, rest)
    | other => (false, other)
  let whole := digits.takeWhile Char.isDigit
  let (part, behind) := match digits.drop whole.length with
    | '.' :: rest => (rest.takeWhile Char.isDigit, rest.dropWhile Char.isDigit)
    | rest => ([], rest)
  let (exponent, behind) := exponentAt ['e', 'E'] behind
  if (whole.isEmpty && part.isEmpty) || !behind.isEmpty || 400 < exponent.natAbs then none
  else
    let places := Int.ofNat part.length - exponent
    let units := Int.ofNat (decimal (whole ++ part) * Nat.pow 10 (-places).toNat)
    some ⟨if isNegative then -units else units, places.toNat⟩

def Decimal.scale (number : Decimal) (places : Nat) : Int :=
  number.units * Int.ofNat (Nat.pow 10 (places - number.places))

def unitsText (places : Nat) (units : Int) : Octets :=
  (if units < 0 then ['-'] else []) ++ withPoint places false (natText units.natAbs)

/-- The numbers from one on, as far as another one, in steps; at most `fuel` of them. -/
def stepsFrom (first step last : Int) : Nat → List Int
  | 0 => []
  | fuel + 1 =>
      if (0 < step && last < first) || (step < 0 && first < last) then []
      else first :: stepsFrom (first + step) step last fuel

def widened (width : Nat) (text : Octets) : Octets :=
  match text with
  | '-' :: digits => '-' :: padFront (width - 1) '0' digits
  | digits => padFront width '0' digits

def behindDirective (text : Octets) : Octets :=
  let behind := (text.dropWhile fun c => "-+#0 '".toList.contains c).dropWhile Char.isDigit
  match behind with
  | '.' :: rest => rest.dropWhile Char.isDigit
  | _ => behind

/-- The text behind the next directive of a format, which is all of it when there is none; two signs stand for
one that is printed. -/
def afterDirective? : Nat → Octets → Option Octets
  | 0, _ => none
  | fuel + 1, text =>
      match text.dropWhile (· != '%') with
      | '%' :: '%' :: rest => afterDirective? fuel rest
      | '%' :: rest => some rest
      | _ => none

def formatFault? (format : Octets) : Option Octets :=
  let told := fun (text : Octets) => some ("format ".toList ++ quoted format ++ text)
  match afterDirective? (format.length + 1) format with
  | none => told " has no % directive".toList
  | some rest =>
      match behindDirective rest with
      | [] => told " ends in %".toList
      | letter :: behind =>
          if !"efgaEFGA".toList.contains letter then told (" has unknown %".toList ++ letter :: " directive".toList)
          else
            match afterDirective? (behind.length + 1) behind with
            | some _ => told " has too many % directives".toList
            | none => none

def printSequence (given : List Given) (first step last : Decimal) (process : Process) : Process :=
  let places := max first.places step.places
  let scale := max places last.places
  let start := first.scale scale
  let stride := step.scale scale
  let count := ((last.scale scale - start) / (if stride = 0 then 1 else stride)).natAbs + 2
  let numbers := if stride = 0 then [] else stepsFrom start stride (last.scale scale) count
  let shown := numbers.map fun number =>
    unitsText places (number / Int.ofNat (Nat.pow 10 (scale - places)))
  let width := (shown.map List.length).foldl max 0
  let texts := match textOf? given "f" with
    | some format => shown.map fun number => (Shell.printingOf format [number]).text
    | none => if has given "w" then shown.map (widened width) else shown
  let separator := (textOf? given "s").getD ['\n']
  if texts.isEmpty then process.withStatus 0
  else (process.say (joinWith separator texts ++ ['\n'])).withStatus 0

def isNegativeNumber (word : Octets) : Bool :=
  match word with
  | '-' :: c :: _ => c.isDigit || c == '.'
  | _ => false

def runSeq : Tool := fun words process =>
  let options := { optionsOf "f:s:w" [("format=", "f"), ("separator=", "s"), ("equal-width", "w")] with mixes := false }
  let before := words.takeWhile fun word => !isNegativeNumber word
  let behind := words.drop before.length
  match readWords options (before.length + 1) before with
  | .error complaint => misuse process 1 complaint
  | .ok (given, operands) =>
      let operands := operands ++ behind
      match (textOf? given "f").bind formatFault? with
      | some fault => refuse process 1 fault
      | none =>
      match operands.mapM decimalNumber? with
      | none =>
          let wrong := (operands.find? fun operand => (decimalNumber? operand).isNone).getD []
          misuse process 1 ("invalid floating point argument: ".toList ++ quoted wrong)
      | some numbers =>
          match numbers with
          | [] => misuse process 1 "missing operand".toList
          | [last] => printSequence given ⟨1, 0⟩ ⟨1, 0⟩ last process
          | [first, last] => printSequence given first ⟨1, 0⟩ last process
          | [first, step, last] =>
              if step.units = 0 then
                misuse process 1 ("invalid Zero increment value: ".toList ++ quoted (operands[1]?.getD []))
              else printSequence given first step last process
          | _ => misuse process 1 ("extra operand ".toList ++ quoted (operands[3]?.getD []))

/-! ### Names of files -/

def lastPart (path : Octets) : Octets :=
  match dropEndWhile (· == '/') path with
  | [] => if path.isEmpty then [] else ['/']
  | path => (path.reverse.takeWhile (· != '/')).reverse

def leadingParts (path : Octets) : Octets :=
  let leading := ((dropEndWhile (· == '/') path).reverse.dropWhile (· != '/')).reverse
  match dropEndWhile (· == '/') leading with
  | [] => if path.head? = some '/' then ['/'] else ['.']
  | parts => parts

def dropEnding (ending name : Octets) : Octets :=
  if name ≠ ending && ending.isSuffixOf name then name.take (name.length - ending.length) else name

def runBasename : Tool :=
  let options := { optionsOf "as:z" [("multiple", "a"), ("suffix=", "s"), ("zero", "z")] with mixes := false }
  withOptions options 1 fun given operands process =>
    let ending : Octets := if has given "z" then [nul] else ['\n']
    match operands with
    | [] => misuse process 1 "missing operand".toList
    | first :: others =>
        if has given "a" || has given "s" then
          let suffix := (textOf? given "s").getD []
          (process.say (operands.flatMap fun path => dropEnding suffix (lastPart path) ++ ending)).withStatus 0
        else
          match others with
          | [] => (process.say (lastPart first ++ ending)).withStatus 0
          | [suffix] => (process.say (dropEnding suffix (lastPart first) ++ ending)).withStatus 0
          | _ :: extra :: _ => misuse process 1 ("extra operand ".toList ++ quoted extra)

def runDirname : Tool :=
  withOptions { optionsOf "z" [("zero", "z")] with mixes := false } 1 fun given operands process =>
    if operands.isEmpty then misuse process 1 "missing operand".toList
    else
      let ending : Octets := if has given "z" then [nul] else ['\n']
      (process.say (operands.flatMap fun path => leadingParts path ++ ending)).withStatus 0

def runUname : Tool :=
  withOptions (optionsOf "asnrvmpio" []) 1 fun given _ process =>
    let parts := [("s", "Linux"), ("n", "localhost"), ("r", "6.1.0"), ("m", "x86_64"), ("o", "GNU/Linux")]
    let shown := parts.filter fun (letter, _) => has given letter || has given "a"
    let texts := if shown.isEmpty then ["Linux"] else shown.map Prod.snd
    (process.say (joinWords (texts.map String.toList) ++ ['\n'])).withStatus 0

def runWhoami : Tool := fun _ process => (process.say "root\n".toList).withStatus 0

def runId : Tool :=
  withOptions (optionsOf "agGnru" []) 1 fun given _ process =>
    let text := if has given "n" then "root" else if given.isEmpty then
      "uid=0(root) gid=0(root) groups=0(root)" else "0"
    (process.say (text.toList ++ ['\n'])).withStatus 0

end TemplateLint.Machine.Utility
