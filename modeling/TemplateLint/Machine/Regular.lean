import TemplateLint.Machine.Octets

set_option autoImplicit false

/-!
Regular expressions of the programs of a machine, in their basic and their extended form.

A match is the leftmost one, and of those that start there the longest.
-/

namespace TemplateLint.Machine

inductive Regular where
  | any
  | set (isNegated : Bool) (ranges : List (Char × Char))
  | lineStart
  | lineEnd
  | textStart
  | textEnd
  | wordStart
  | wordEnd
  | boundary
  | inside
  | openBefore
  | openBehind
  | again (index : Nat)
  | group (index : Nat) (body : Regular)
  | sequence (parts : List Regular)
  | choice (branches : List Regular)
  | repeated (least : Nat) (most : Option Nat) (body : Regular)

namespace Regular

structure Dialect where
  /-- Parentheses, braces and some other signs have their meaning without a backslash. -/
  isExtended : Bool
  hasEscapes : Bool
  quotesInSets : Bool
  /-- Signs that mean nothing where they stand are no faults: signs of repetition with nothing to repeat are
  passed over in the extended form, and others stand for themselves. -/
  isLenient : Bool

/-! ### Reading -/

structure Cursor where
  rest : Octets
  groups : Nat

def single (c : Char) : Regular := .set false [(c, c)]

def rangesOf (test : Char → Bool) : List (Char × Char) :=
  (((List.range 256).map Char.ofNat).filter test).map fun c => (c, c)

def isWordCharacter (c : Char) : Bool := c.isAlphanum || c == '_'

def escaped? : Char → Option Char
  | 'a' => some (Char.ofNat 7)
  | 'f' => some (Char.ofNat 12)
  | 'n' => some '\n'
  | 'r' => some '\r'
  | 't' => some '\t'
  | 'v' => some (Char.ofNat 11)
  | _ => none

def special? : Char → Option Regular
  | 'w' => some (.set false (rangesOf isWordCharacter))
  | 'W' => some (.set true (rangesOf isWordCharacter))
  | 's' => some (.set false (rangesOf isSpace))
  | 'S' => some (.set true (rangesOf isSpace))
  | 'b' => some .boundary
  | 'B' => some .inside
  | '<' => some .wordStart
  | '>' => some .wordEnd
  | '\'' => some .textEnd
  | c => if c = backQuote then some .textStart else none

def openSet : String := "Unmatched [, [^, [:, [., or [="

/-- The character with which an element of a set starts, with the text behind it. -/
def setCharacter (dialect : Dialect) (text : Octets) : Option (Char × Octets) :=
  match text with
  | [] => none
  | '[' :: '.' :: c :: '.' :: ']' :: rest => some (c, rest)
  | c :: rest =>
      if c = backslash then
        match rest with
        | d :: behind =>
            match escaped? d with
            | some e => if dialect.hasEscapes then some (e, behind) else some (c, rest)
            | none => if dialect.quotesInSets then some (d, behind) else some (c, rest)
        | [] => some (c, rest)
      else some (c, rest)

/-- The ranges of a set up to the bracket that closes it; at most `fuel` elements. -/
def readRanges (dialect : Dialect) : Nat → Bool → Octets → Except String (List (Char × Char) × Octets)
  | 0, _, _ => .error openSet
  | fuel + 1, isFirst, text =>
      match text with
      | [] => .error openSet
      | '[' :: ':' :: rest =>
          let name := rest.takeWhile (· != ':')
          match rest.drop name.length with
          | ':' :: ']' :: behind =>
              match characterClass? name with
              | none => .error "Invalid character class name"
              | some test => do
                  let (ranges, behind) ← readRanges dialect fuel false behind
                  return (rangesOf test ++ ranges, behind)
          | _ => .error openSet
      | '[' :: '=' :: c :: '=' :: ']' :: behind => do
          let (ranges, behind) ← readRanges dialect fuel false behind
          return ((c, c) :: ranges, behind)
      | c :: rest =>
          if c = ']' && !isFirst then .ok ([], rest)
          else
            match setCharacter dialect text with
            | none => .error openSet
            | some (low, behind) =>
                match behind with
                | '-' :: next :: _ =>
                    if next = ']' then do
                      let (ranges, behind) ← readRanges dialect fuel false behind
                      return ((low, low) :: ranges, behind)
                    else
                      match setCharacter dialect (behind.drop 1) with
                      | none => .error openSet
                      | some (high, behind) =>
                          if high < low then .error "Invalid range end"
                          else do
                            let (ranges, behind) ← readRanges dialect fuel false behind
                            return ((low, high) :: ranges, behind)
                | _ => do
                    let (ranges, behind) ← readRanges dialect fuel false behind
                    return ((low, low) :: ranges, behind)

def bareClass : String := "character class syntax is [[:space:]], not [:space:]"

def isBareClass (text : Octets) : Bool :=
  let inside := text.takeWhile (· != ']')
  let name := (inside.drop 1).dropLast
  inside.length < text.length && inside.head? == some ':' && inside.getLast? == some ':' &&
    name.any (· != ':') && !name.contains '-' && !name.contains '['

def readSet (dialect : Dialect) (text : Octets) : Except String (Regular × Octets) := do
  let (isNegated, text) := match text with
    | '^' :: rest => (true, rest)
    | _ => (false, text)
  if dialect.isLenient && text.isEmpty then throw "Invalid regular expression"
  if isBareClass text then throw bareClass
  let (ranges, rest) ← readRanges dialect (text.length + 1) true text
  return (.set isNegated ranges, rest)

def repetitionLimit : Nat := 32767

/-- The bounds of a repetition at the start of a text, up to the sign that closes it; none when the text does
not write bounds. -/
def boundsAt? (dialect : Dialect) (text : Octets) : Except String (Option (Nat × Option Nat × Octets)) :=
  let least := text.takeWhile Char.isDigit
  let behind := text.drop least.length
  let (most, behind) := match behind with
    | ',' :: rest =>
        let digits := rest.takeWhile Char.isDigit
        (if digits.isEmpty then none else some (decimal digits), rest.drop digits.length)
    | _ => (if least.isEmpty then none else some (decimal least), behind)
  let closed := match behind with
    | c :: rest =>
        if dialect.isExtended then if c = closeBrace then some rest else none
        else if c = backslash && rest.head? = some closeBrace then some (rest.drop 1) else none
    | [] => none
  let isOrdinary := dialect.isLenient && dialect.isExtended
  match closed with
  | none =>
      if isOrdinary then .ok none
      else .error (if behind.isEmpty then "Unmatched \\\x7b" else "Invalid content of \\\x7b\\\x7d")
  | some rest =>
      if behind.length = text.length then
        if isOrdinary then .ok none else .error "Invalid content of \\\x7b\\\x7d"
      else if most.any (· < decimal least) then .error "Invalid content of \\\x7b\\\x7d"
      else if repetitionLimit < max (decimal least) (most.getD 0) then .error "Regular expression too big"
      else .ok (some (decimal least, most, rest))

/-- The repetition sign at the start of a text: its bounds with the text behind it. -/
def repetitionAt? (dialect : Dialect) (text : Octets) : Except String (Option (Nat × Option Nat × Octets)) :=
  let plain := fun (c : Char) (rest : Octets) =>
    if c = '*' then some (0, none, rest)
    else if c = '+' then some (1, none, rest)
    else if c = '?' then some (0, some 1, rest)
    else none
  match text with
  | [] => .ok none
  | c :: rest =>
      if dialect.isExtended then
        if c = openBrace then boundsAt? dialect rest else .ok (plain c rest)
      else if c = '*' then .ok (some (0, none, rest))
      else if c = backslash then
        match rest with
        | d :: behind =>
            if d = openBrace then boundsAt? dialect behind
            else if d = '*' then .ok none
            else .ok (plain d behind)
        | [] => .ok none
      else .ok none

def nothingRepeated : String := "Invalid preceding regular expression"

/-- The text behind signs of repetition with nothing to repeat, of which at most `fuel` are passed. -/
def passRepetitions (dialect : Dialect) : Nat → Octets → Except String Octets
  | 0, text => .ok text
  | fuel + 1, text =>
      if !dialect.isExtended then .ok text
      else
        match text with
        | c :: _ =>
            if "*+?".toList.contains c || c == openBrace then
              if !dialect.isLenient then .error nothingRepeated
              else do
                match ← repetitionAt? dialect text with
                | some (_, _, rest) => passRepetitions dialect fuel rest
                | none => return text
            else .ok text
        | [] => .ok text

/-- True of the texts that start with a sign which may not stand behind another repetition. -/
def repeatsTwice (dialect : Dialect) (text : Octets) : Bool :=
  !dialect.isExtended && !dialect.isLenient &&
    (text.head? == some '*' || text.take 2 == [backslash, openBrace])

def atBranchEnd (dialect : Dialect) (depth : Nat) (text : Octets) : Bool :=
  match text with
  | [] => true
  | c :: rest =>
      if dialect.isExtended then c == '|' || (c == ')' && 0 < depth)
      else c == backslash && (rest.head? == some '|' || (rest.head? == some ')' && 0 < depth))

mutual

def readChoice (dialect : Dialect) : Nat → Nat → Cursor → Except String (Regular × Cursor)
  | 0, _, _ => .error "Regular expression too big"
  | fuel + 1, depth, cursor => do
      let (first, cursor) ← readBranch dialect fuel depth true [] cursor
      let isNext := match cursor.rest with
        | c :: rest => if dialect.isExtended then c == '|' else c == backslash && rest.head? == some '|'
        | [] => false
      if isNext then
        let cursor := { cursor with rest := cursor.rest.drop (if dialect.isExtended then 1 else 2) }
        let (others, cursor) ← readChoice dialect fuel depth cursor
        return (.choice [first, others], cursor)
      else return (first, cursor)

/-- Reads the parts of a branch; those before are given with the last one first, and the truth value says that
there is nothing to repeat. -/
def readBranch (dialect : Dialect) : Nat → Nat → Bool → List Regular → Cursor →
    Except String (Regular × Cursor)
  | 0, _, _, _, _ => .error "Regular expression too big"
  | fuel + 1, depth, isBare, done, cursor => do
      let rest ← if isBare then passRepetitions dialect cursor.rest.length cursor.rest else .ok cursor.rest
      let cursor := { cursor with rest := rest }
      if atBranchEnd dialect depth cursor.rest then
        return (.sequence done.reverse, cursor)
      else
        let (part, isAnchor, cursor) ← readPart dialect fuel depth isBare done.isEmpty cursor
        if isAnchor then readBranch dialect fuel depth true (part :: done) cursor
        else
          let (part, cursor) ← readRepetitions dialect fuel part cursor
          readBranch dialect fuel depth false (part :: done) cursor

def readRepetitions (dialect : Dialect) : Nat → Regular → Cursor → Except String (Regular × Cursor)
  | 0, part, cursor => .ok (part, cursor)
  | fuel + 1, part, cursor => do
      match ← repetitionAt? dialect cursor.rest with
      | none => return (part, cursor)
      | some (least, most, rest) =>
          if repeatsTwice dialect rest then throw nothingRepeated
          readRepetitions dialect fuel (.repeated least most part) { cursor with rest := rest }

def readPart (dialect : Dialect) : Nat → Nat → Bool → Bool → Cursor → Except String (Regular × Bool × Cursor)
  | 0, _, _, _, _ => .error "Regular expression too big"
  | fuel + 1, depth, isBare, isFirst, cursor =>
      let readGroup := fun (rest : Octets) => do
        let index := cursor.groups + 1
        let (body, after) ← readChoice dialect fuel (depth + 1) ⟨rest, index⟩
        let width := if dialect.isExtended then 1 else 2
        if after.rest.isEmpty then throw "Unmatched ( or \\("
        return (.group index body, false, { after with rest := after.rest.drop width })
      match cursor.rest with
      | [] => .ok (.sequence [], false, cursor)
      | c :: rest =>
          let behind : Cursor := { cursor with rest := rest }
          if c = '.' then .ok (.any, false, behind)
          else if c = '[' then do
            let (part, rest) ← readSet dialect rest
            return (part, false, { cursor with rest := rest })
          else if c = '^' && (dialect.isExtended || isFirst) then .ok (.lineStart, true, behind)
          else if c = '$' && (dialect.isExtended || atBranchEnd dialect depth rest) then
            .ok (.lineEnd, true, behind)
          else if c = '(' && dialect.isExtended then readGroup rest
          else if c = ')' && dialect.isExtended && !dialect.isLenient then .error "Unmatched ) or \\)"
          else if c = backslash then
            match rest with
            | [] => .error "Trailing backslash"
            | d :: after =>
                let behind : Cursor := { cursor with rest := after }
                if d = '(' && !dialect.isExtended then readGroup after
                else if d = ')' && !dialect.isExtended then .error "Unmatched ) or \\)"
                else if d = openBrace && !dialect.isExtended && isBare && !dialect.isLenient then
                  .error nothingRepeated
                else if d.isDigit && d != '0' then
                  if digitValue d ≤ cursor.groups then .ok (.again (digitValue d), false, behind)
                  else .error "Invalid back reference"
                else
                  match special? d with
                  | some part => .ok (part, !(part matches .set _ _), behind)
                  | none =>
                      match escaped? d with
                      | some e => .ok (single (if dialect.hasEscapes then e else d), false, behind)
                      | none => .ok (single d, false, behind)
          else .ok (single c, false, behind)

end

/-- The expression that a text writes, with its number of groups, or what is wrong with the text. -/
def read (dialect : Dialect) (text : Octets) : Except String (Regular × Nat) := do
  let (regular, cursor) ← readChoice dialect (8 * text.length + 16) 0 ⟨text, 0⟩
  return (regular, cursor.groups)

def literal (text : Octets) : Regular := .sequence (text.map single)

/-! ### Matching -/

structure Subject where
  text : Array Char
  foldsCase : Bool
  hasLines : Bool
  isContinued : Bool

/-- How far a text has been matched, and what the groups have matched, the latest one first. -/
structure State where
  place : Nat
  groups : List (Nat × Nat × Nat)
deriving DecidableEq

def Subject.at? (subject : Subject) (place : Nat) : Option Char := subject.text[place]?

def Subject.hasWordAt (subject : Subject) (place : Nat) : Bool :=
  ((subject.at? place).map isWordCharacter).getD false

def Subject.hasWordBefore (subject : Subject) (place : Nat) : Bool :=
  0 < place && subject.hasWordAt (place - 1)

def isIn (foldsCase : Bool) (ranges : List (Char × Char)) (c : Char) : Bool :=
  let holds := fun (c : Char) => ranges.any fun (low, high) => low ≤ c && c ≤ high
  holds c || (foldsCase && (holds c.toLower || holds c.toUpper))

/-- True when an expression for one character accepts a character; none for other expressions. -/
def accepts? (subject : Subject) (regular : Regular) : Option (Char → Bool) :=
  match regular with
  | .any => some fun _ => true
  | .set isNegated ranges => some fun c => isIn subject.foldsCase ranges c != isNegated
  | _ => none

def holdsAt (subject : Subject) (place : Nat) : Regular → Bool
  | .lineStart =>
      (place == 0 && !subject.isContinued) ||
        (subject.hasLines && 0 < place && subject.at? (place - 1) == some '\n')
  | .lineEnd => place == subject.text.size || (subject.hasLines && subject.at? place == some '\n')
  | .textStart => place == 0 && !subject.isContinued
  | .textEnd => place == subject.text.size
  | .wordStart => subject.hasWordAt place && !subject.hasWordBefore place
  | .wordEnd => !subject.hasWordAt place && subject.hasWordBefore place
  | .boundary => subject.hasWordAt place != subject.hasWordBefore place
  | .inside => subject.hasWordAt place == subject.hasWordBefore place
  | .openBefore => !subject.hasWordBefore place
  | .openBehind => !subject.hasWordAt place
  | _ => false

def distinct (states : List State) : List State :=
  match states with
  | [] => []
  | [only] => [only]
  | several => several.eraseDups

def runLength (text : Array Char) (test : Char → Bool) (place : Nat) : Nat → Nat
  | 0 => 0
  | limit + 1 =>
      match text[place]? with
      | some c => if test c then 1 + runLength text test (place + 1) limit else 0
      | none => 0

mutual

def after (subject : Subject) : Nat → Regular → State → List State
  | 0, _, _ => []
  | fuel + 1, regular, state =>
      match regular with
      | .any => if state.place < subject.text.size then [{ state with place := state.place + 1 }] else []
      | .set isNegated ranges =>
          match subject.at? state.place with
          | some c =>
              if isIn subject.foldsCase ranges c != isNegated then [{ state with place := state.place + 1 }] else []
          | none => []
      | .again index =>
          match state.groups.find? fun entry => entry.1 == index with
          | none => []
          | some (_, start, stop) =>
              let same := (List.range (stop - start)).all fun offset =>
                match subject.at? (start + offset), subject.at? (state.place + offset) with
                | some c, some d => c == d || (subject.foldsCase && c.toLower == d.toLower)
                | _, _ => false
              if same then [{ state with place := state.place + (stop - start) }] else []
      | .group index body =>
          (after subject fuel body state).map fun next =>
            { next with
              groups := (index, state.place, next.place) :: next.groups.filter fun entry => entry.1 != index }
      | .sequence parts => afterAll subject fuel parts [state]
      | .choice branches => distinct (afterAny subject fuel branches state)
      | .repeated least most body =>
          match accepts? subject body with
          | some test =>
              let limit := most.getD (subject.text.size - state.place)
              let count := runLength subject.text test state.place (min limit (subject.text.size - state.place))
              if count < least then []
              else (List.range (count + 1 - least)).map fun less =>
                { state with place := state.place + (count - less) }
          | none => afterRepeated subject fuel least most body state
      | other => if holdsAt subject state.place other then [state] else []

def afterAll (subject : Subject) : Nat → List Regular → List State → List State
  | 0, _, _ => []
  | _ + 1, [], states => states
  | fuel + 1, part :: rest, states =>
      if states.isEmpty then []
      else afterAll subject fuel rest (distinct (states.flatMap (after subject fuel part)))

def afterAny (subject : Subject) : Nat → List Regular → State → List State
  | 0, _, _ => []
  | _ + 1, [], _ => []
  | fuel + 1, branch :: rest, state => after subject fuel branch state ++ afterAny subject fuel rest state

def afterRepeated (subject : Subject) : Nat → Nat → Option Nat → Regular → State → List State
  | 0, _, _, _, _ => []
  | fuel + 1, least, most, body, state =>
      if most = some 0 then [state]
      else
        let next := (after subject fuel body state).filter fun next => 0 < least || state.place < next.place
        let deeper := distinct (next.flatMap
          (afterRepeated subject fuel (least - 1) (most.map (· - 1)) body))
        deeper ++ (if least = 0 then [state] else [])

end

def size : Regular → Nat
  | .group _ body => 1 + size body
  | .sequence parts => sizes parts
  | .choice branches => sizes branches
  | .repeated least _ body => 2 + least + size body
  | _ => 1
where
  sizes : List Regular → Nat
    | [] => 2
    | part :: rest => 1 + size part + sizes rest

structure Found where
  start : Nat
  stop : Nat
  groups : List (Nat × Nat × Nat)

def matchAt? (regular : Regular) (subject : Subject) (place : Nat) : Option Found :=
  let fuel := 4 * (size regular + subject.text.size) + 16
  let states := after subject fuel regular ⟨place, []⟩
  let best := states.foldl (fun (best : Option State) state =>
    match best with
    | none => some state
    | some other => if other.place < state.place then some state else best) none
  best.map fun state => ⟨place, state.place, state.groups⟩

def find? (regular : Regular) (subject : Subject) (place : Nat) : Option Found :=
  (List.range (subject.text.size + 1 - place)).findSome? fun offset =>
    matchAt? regular subject (place + offset)

/-- All matches that do not overlap, from a place on; one that is empty does not stand right behind another
one.  At most `fuel` of them. -/
def findAll (regular : Regular) (subject : Subject) : Nat → Nat → Option Nat → List Found
  | 0, _, _ => []
  | fuel + 1, place, last =>
      match find? regular subject place with
      | none => []
      | some found =>
          if found.start = found.stop && last = some found.start then
            if found.start < subject.text.size then findAll regular subject fuel (found.start + 1) none
            else []
          else if found.start = found.stop then
            found :: (if found.start < subject.text.size then
              findAll regular subject fuel (found.start + 1) none else [])
          else found :: findAll regular subject fuel found.stop (some found.stop)

def Found.group? (found : Found) (subject : Subject) (index : Nat) : Option Octets :=
  let part := fun (start stop : Nat) => (subject.text.extract start stop).toList
  if index = 0 then some (part found.start found.stop)
  else (found.groups.find? fun entry => entry.1 == index).map fun (_, start, stop) => part start stop

end Regular

def subjectOf (foldsCase : Bool) (text : Octets) : Regular.Subject := ⟨text.toArray, foldsCase, false, false⟩

end TemplateLint.Machine
