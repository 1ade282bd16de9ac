import TemplateLint.Machine.Real
import TemplateLint.Machine.Utility.Basic

set_option autoImplicit false

/-!
The program that sorts lines by keys.
-/

namespace TemplateLint.Machine.Utility.Sorting

open Shell (Process)

structure KeyPlace where
  field : Nat
  character : Nat
deriving Repr

structure Key where
  start : KeyPlace
  stop : Option KeyPlace
  letters : List Char

structure Order where
  separator : Option Char
  keys : List Key
  letters : List Char
  isStable : Bool

/-! ### Parts of lines -/

def dropField (separator : Option Char) (line : Octets) : Octets :=
  match separator with
  | some mark => (line.dropWhile (· != mark)).drop 1
  | none => (line.dropWhile isSpaceOrTab).dropWhile fun c => !isSpaceOrTab c

def behindStart (order : Order) (key : Key) (line : Octets) : Octets :=
  let rest := (List.range (key.start.field - 1)).foldl (fun line _ => dropField order.separator line) line
  let rest := if key.letters.contains 'b' then rest.dropWhile isSpaceOrTab else rest
  rest.drop (key.start.character - 1)

def behindStop (order : Order) (key : Key) (stop : KeyPlace) (line : Octets) : Octets :=
  if stop.character = 0 then
    match order.separator with
    | some mark =>
        let rest := (List.range (stop.field - 1)).foldl (fun line _ => dropField order.separator line) line
        rest.dropWhile (· != mark)
    | none => (List.range stop.field).foldl (fun line _ => dropField none line) line
  else
    let rest := (List.range (stop.field - 1)).foldl (fun line _ => dropField order.separator line) line
    let rest := if key.letters.contains 'b' then rest.dropWhile isSpaceOrTab else rest
    rest.drop stop.character

def keyText (order : Order) (key : Key) (line : Octets) : Octets :=
  let text := behindStart order key line
  match key.stop with
  | none => text
  | some stop =>
      let behind := behindStop order key stop line
      text.take (text.length - behind.length)

/-! ### Comparisons -/

def numberAt (text : Octets) : Bool × Octets × Octets × Octets :=
  let text := text.dropWhile isSpaceOrTab
  let (isNegative, digits) := match text with
    | '-' :: rest => (true, rest)
    | other => (false, other)
  let whole := digits.takeWhile Char.isDigit
  let behind := digits.drop whole.length
  match behind with
  | '.' :: rest =>
      let part := rest.takeWhile Char.isDigit
      (isNegative, whole, part, rest.drop part.length)
  | other => (isNegative, whole, [], other)

def compareNumbers (left right : Octets) : Ordering :=
  let (isNegative, whole, part, _) := numberAt left
  let (isOtherNegative, otherWhole, otherPart, _) := numberAt right
  let places := max part.length otherPart.length
  let value := fun (isNegative : Bool) (whole part : Octets) =>
    let size := Int.ofNat (decimal (whole ++ part) * Nat.pow 10 (places - part.length))
    if isNegative then -size else size
  compare (value isNegative whole part) (value isOtherNegative otherWhole otherPart)

def unitRank (text : Octets) : Nat :=
  match text.head? with
  | some 'K' | some 'k' => 1
  | some 'M' => 2
  | some 'G' => 3
  | some 'T' => 4
  | some 'P' => 5
  | some 'E' => 6
  | _ => 0

def compareWithUnits (left right : Octets) : Ordering :=
  let rank := fun (text : Octets) =>
    let (isNegative, whole, part, rest) := numberAt text
    let size := if decimal (whole ++ part) = 0 then 0 else Int.ofNat (unitRank rest) + 1
    if isNegative then -size else size
  (compare (rank left) (rank right)).then (compareNumbers left right)

def realKey (text : Octets) : Int × Int × Nat :=
  match realAt? text with
  | none => (0, 0, 1)
  | some (number, _) =>
      if isNan number then (1, 0, 1)
      else if number.isInfinite then (if number.isNegative then 2 else 4, 0, 1)
      else
        let (above, below) := number.fraction
        (3, if number.isNegative then -Int.ofNat above else Int.ofNat above, below)

def compareReals (left right : Octets) : Ordering :=
  let (class1, above1, below1) := realKey left
  let (class2, above2, below2) := realKey right
  (compare class1 class2).then (compare (above1 * Int.ofNat below2) (above2 * Int.ofNat below1))

def monthNumber (text : Octets) : Nat :=
  let name := String.ofList (((text.dropWhile isSpaceOrTab).take 3).map Char.toUpper)
  match ["JAN", "FEB", "MAR", "APR", "MAY", "JUN", "JUL", "AUG", "SEP", "OCT", "NOV", "DEC"].findIdx?
      (· == name) with
  | some index => index + 1
  | none => 0

def compareTexts (left right : Octets) : Ordering :=
  if left == right then .eq else if notAfter left right then .lt else .gt

/-- The order of texts in which numbers are compared by their size; at most `fuel` parts. -/
def compareVersions : Nat → Octets → Octets → Ordering
  | 0, _, _ => .eq
  | fuel + 1, left, right =>
      if left.isEmpty || right.isEmpty then compare left.length right.length
      else
        let isPlain := fun (c : Char) => !c.isDigit
        let words := compareTexts (left.takeWhile isPlain) (right.takeWhile isPlain)
        let left := left.dropWhile isPlain
        let right := right.dropWhile isPlain
        let numbers := compare (decimal (left.takeWhile Char.isDigit)) (decimal (right.takeWhile Char.isDigit))
        words.then (numbers.then
          (compareVersions fuel (left.dropWhile Char.isDigit) (right.dropWhile Char.isDigit)))

def compareUnder (letters : List Char) (left right : Octets) : Ordering :=
  let isAsked := fun (letter : Char) => letters.contains letter
  let prepare := fun (text : Octets) =>
    let text := if isAsked 'd' then text.filter fun c => c.isAlphanum || isSpaceOrTab c
      else if isAsked 'i' then text.filter isPrintable else text
    if isAsked 'f' then text.map Char.toUpper else text
  let order :=
    if isAsked 'n' then compareNumbers left right
    else if isAsked 'h' then compareWithUnits left right
    else if isAsked 'g' then compareReals left right
    else if isAsked 'M' then compare (monthNumber left) (monthNumber right)
    else if isAsked 'V' then compareVersions (left.length + right.length + 2) left right
    else compareTexts (prepare left) (prepare right)
  if isAsked 'r' then order.swap else order

def compareKeys (order : Order) (left right : Octets) : Ordering :=
  if order.keys.isEmpty then
    let prepare := fun (line : Octets) =>
      if order.letters.contains 'b' then line.dropWhile isSpaceOrTab else line
    compareUnder order.letters (prepare left) (prepare right)
  else
    order.keys.foldl (fun result key =>
      result.then (compareUnder key.letters (keyText order key left) (keyText order key right))) .eq

def compareLines (order : Order) (left right : Octets) : Ordering :=
  let last := if order.isStable then Ordering.eq
    else if order.letters.contains 'r' then (compareTexts left right).swap else compareTexts left right
  (compareKeys order left right).then last

/-! ### The program -/

def placeAt? (text : Octets) : Option (KeyPlace × List Char × Octets) :=
  let field := text.takeWhile Char.isDigit
  let behind := text.drop field.length
  let (character, behind) := match behind with
    | '.' :: rest =>
        let digits := rest.takeWhile Char.isDigit
        (some (decimal digits), rest.drop digits.length)
    | _ => (none, behind)
  let letters := behind.takeWhile fun c => "bdfghiMnRrV".toList.contains c
  if field.isEmpty || decimal field = 0 then none
  else some (⟨decimal field, character.getD 0⟩, letters, behind.drop letters.length)

/-- The key that a text writes; without letters of its own it has those of the program. -/
def keyOf? (letters : List Char) (text : Octets) : Option Key :=
  match placeAt? text with
  | none => none
  | some (start, own, rest) =>
      match rest with
      | [] => some ⟨start, none, if own.isEmpty then letters else own⟩
      | ',' :: rest =>
          match placeAt? rest with
          | some (stop, more, []) =>
              let own := own ++ more
              some ⟨start, some stop, if own.isEmpty then letters else own⟩
          | _ => none
      | _ => none

def dropEqual (order : Order) (lines : List Octets) : List Octets :=
  (lines.foldl (fun (kept : List Octets) line =>
    match kept with
    | last :: _ => if compareKeys order last line == .eq then kept else line :: kept
    | [] => [line]) []).reverse

def disorder? (order : Order) (isUnique : Bool) : List Octets → Option Octets
  | first :: second :: rest =>
      let relation := if isUnique then compareKeys order first second else compareLines order first second
      if relation == .gt || (isUnique && relation == .eq) then some second
      else disorder? order isUnique (second :: rest)
  | _ => none

def run : Tool :=
  withOptions (optionsOf "bcCdfghik:mMno:rRsS:t:T:uVz" [("numeric-sort", "n"), ("reverse", "r"), ("unique", "u"),
      ("key=", "k"), ("field-separator=", "t"), ("ignore-case", "f"), ("stable", "s"), ("output=", "o"),
      ("ignore-leading-blanks", "b"), ("general-numeric-sort", "g"), ("human-numeric-sort", "h"),
      ("month-sort", "M"), ("version-sort", "V"), ("check?", "c"), ("merge", "m"), ("dictionary-order", "d"),
      ("zero-terminated", "z")]) 2
    fun given files process =>
      let letters := given.filterMap fun option =>
        match option.name.toList with
        | [letter] => if "bdfghiMnrV".toList.contains letter then some letter else none
        | _ => none
      let keys := (given.filter fun option => option.name == "k").map fun option =>
        (option.text, keyOf? letters option.text)
      let separator := (textOf? given "t").map fun text =>
        if text = ['\\', '0'] then nul else text.head?.getD nul
      match keys.find? fun entry => entry.2.isNone with
      | some (text, _) =>
          let isZero := (text.takeWhile Char.isDigit).all (· == '0') && (text.head?.map Char.isDigit).getD false
          let reason := if isZero then "field number is zero: invalid field specification "
            else "invalid number at field start: invalid count at start of "
          refuse process 2 (reason.toList ++ quoted text)
      | none =>
          if ((textOf? given "t").map fun text => text.length > 1 && text != ['\\', '0']) == some true then
            refuse process 2 ("multi-character tab ".toList ++ quoted ((textOf? given "t").getD []))
          else
            let order : Order := ⟨separator, keys.filterMap Prod.snd, letters, has given "s" || has given "u"⟩
            let (sources, isGood, process) :=
              sourcesOf (fun file reason => "cannot read: ".toList ++ plainWording file reason) files process
            let lines := sources.flatMap fun source => bareLines source.text
            if !isGood then process.withStatus 2
            else if has given "c" || has given "C" then
              match disorder? order (has given "u") lines with
              | none => process.withStatus 0
              | some line =>
                  let name := files.head?.getD ['-']
                  let index := (lines.findIdx? (· == line)).getD 0 + 1
                  let complained := if has given "C" then process
                    else warn process (name ++ ':' :: natText index ++ ": disorder: ".toList ++ line)
                  complained.withStatus 1
            else
              let sorted := lines.mergeSort fun left right => compareLines order left right != .gt
              let kept := if has given "u" then dropEqual order sorted else sorted
              let text := asLines kept
              match textOf? given "o" with
              | none => (process.say text).withStatus 0
              | some file =>
                  match process.openToWrite 200 file ⟨false, true, false⟩ true with
                  | .ok opened => ((opened.write 200 text).close 200).withStatus 0
                  | .error error =>
                      refuse process 2 ("open failed: ".toList ++ plainWording file (reasonOf error))

end TemplateLint.Machine.Utility.Sorting
