import TemplateLint.Regex.Tree
import TemplateLint.Text.Blank

set_option autoImplicit false

/-!
Reading the text of a pattern.  The readers take the rest of the text and give what they read together with
what is left; `none` means that the text is not a pattern.  In extended mode blanks and comments between
the parts of a pattern are skipped.
-/

namespace TemplateLint.Regex.Reader

open TemplateLint.Text (isBlank)
open TemplateLint.Unicode (CodeSet)

def skipBlanks : Bool → List Char → List Char
  | _, [] => []
  | true, c :: rest => skipBlanks (c != '\n') rest
  | false, c :: rest =>
      if isBlank c then skipBlanks false rest
      else if c = '#' then skipBlanks true rest
      else c :: rest

def skip (extended : Bool) (text : List Char) : List Char :=
  if extended then skipBlanks false text else text

theorem skipBlanks_length_le (inComment : Bool) (text : List Char) :
    (skipBlanks inComment text).length ≤ text.length := by
  induction text generalizing inComment with
  | nil => cases inComment <;> simp [skipBlanks]
  | cons c rest ih =>
      cases inComment with
      | true =>
          have := ih (c != '\n')
          simp only [skipBlanks, List.length_cons]
          omega
      | false =>
          have whenBlank := ih false
          have inside := ih true
          simp only [skipBlanks]
          split
          · simp only [List.length_cons]; omega
          · split
            · simp only [List.length_cons]; omega
            · simp

theorem skip_length_le (extended : Bool) (text : List Char) :
    (skip extended text).length ≤ text.length := by
  unfold skip
  split
  · exact skipBlanks_length_le false text
  · exact Nat.le_refl _

/-- The character that a set reader looks ahead to: the next one, or in extended mode the next one that is
neither a blank nor the sign that begins a comment. -/
def peekPast : Bool → List Char → Option Char
  | _, [] => none
  | inComment, c :: rest =>
      if isBlank c then peekPast inComment rest
      else if !inComment && c = '#' then peekPast true rest
      else some c

def peek (extended : Bool) (text : List Char) : Option Char :=
  if extended then peekPast false text else text.head?

/-! ### Numbers and characters -/

def hexDigit? (c : Char) : Option Nat :=
  if '0' ≤ c ∧ c ≤ '9' then some (c.toNat - 48)
  else if 'a' ≤ c ∧ c ≤ 'f' then some (c.toNat - 87)
  else if 'A' ≤ c ∧ c ≤ 'F' then some (c.toNat - 55)
  else none

def charOf? (n : Nat) : Option Char :=
  if n < 0xD800 ∨ (0xE000 ≤ n ∧ n ≤ 0x10FFFF) then some (Char.ofNat n) else none

def hexFixed (extended : Bool) : Nat → Nat → List Char → Option (Nat × List Char)
  | 0, value, text => some (value, text)
  | count + 1, value, c :: rest =>
      (hexDigit? c).bind fun digit => hexFixed extended count (value * 16 + digit) (skip extended rest)
  | _ + 1, _, [] => none

def hexBraced (extended : Bool) (count value : Nat) (text : List Char) : Option (Nat × Nat × List Char) :=
  match _same : skip extended text with
  | [] => none
  | '}' :: rest => some (count, value, skip extended rest)
  | c :: rest =>
      match hexDigit? c with
      | some digit => hexBraced extended (count + 1) (value * 16 + digit) rest
      | none => none
termination_by text.length
decreasing_by
  have := skip_length_le extended text
  rw [_same, List.length_cons] at this
  omega

/-- A character by its number: after `x`, `u` and `U` stand two, four and eight digits, or any number of
digits in braces. -/
def hexLiteral (extended : Bool) (digits : Nat) (text : List Char) : Option (Literal × List Char) :=
  match skip extended text with
  | '{' :: rest =>
      match hexBraced extended 0 0 rest with
      | some (count, value, after) =>
          if count = 0 then none else (charOf? value).map fun c => (⟨c, false⟩, after)
      | none => none
  | other =>
      match hexFixed extended digits 0 other with
      | some (value, after) => (charOf? value).map fun c => (⟨c, digits = 2⟩, after)
      | none => none

def decimalExtended : Bool → Option Nat → List Char → Option Nat × List Char
  | _, value, [] => (value, [])
  | true, value, c :: rest => decimalExtended (c != '\n') value rest
  | false, value, c :: rest =>
      if isBlank c then decimalExtended false value rest
      else if c = '#' then decimalExtended true value rest
      else if c.isDigit then decimalExtended false (some (value.getD 0 * 10 + (c.toNat - 48))) rest
      else (value, c :: rest)

def countLimit : Nat := 4294967296

/-- A count of a repetition, with the blanks around it.  No digits give `none` as the count. -/
def decimal (extended : Bool) (text : List Char) : Option (Option Nat × List Char) :=
  let text := text.dropWhile isBlank
  let (value, rest) :=
    if extended then
      match text with
      | '#' :: _ => (none, text)
      | _ => decimalExtended false none text
    else
      let digits := text.takeWhile Char.isDigit
      let value := digits.foldl (fun value c => value * 10 + (c.toNat - 48)) 0
      (if digits.isEmpty then none else some value, (text.dropWhile Char.isDigit).dropWhile isBlank)
  if value.any (countLimit ≤ ·) then none else some (value, rest)

/-! ### Escapes -/

def isMeta (c : Char) : Bool :=
  c == '\\' || c == '.' || c == '+' || c == '*' || c == '?' || c == '(' || c == ')' || c == '|' ||
    c == '[' || c == ']' || c == '{' || c == '}' || c == '^' || c == '$' || c == '#' || c == '&' ||
    c == '-' || c == '~'

def isEscapable (c : Char) : Bool :=
  isMeta c || (c.toNat < 0x80 && !c.isAlphanum && c != '<' && c != '>')

def propertyName (extended : Bool) (text : List Char) : Option (List Char × List Char) :=
  match _same : skip extended text with
  | [] => none
  | '}' :: rest => some ([], rest)
  | c :: rest => (propertyName extended rest).map fun (name, after) => (c :: name, after)
termination_by text.length
decreasing_by
  have := skip_length_le extended text
  rw [_same, List.length_cons] at this
  omega

def cutAt (separator : List Char) : List Char → Option (List Char × List Char)
  | [] => none
  | c :: rest =>
      if separator.isPrefixOf (c :: rest) then some ([], (c :: rest).drop separator.length)
      else (cutAt separator rest).map fun (before, after) => (c :: before, after)

def propertyQuery (name : List Char) : PropertyQuery :=
  match cutAt ['!', '='] name with
  | some (property, value) => .valued (String.ofList property) (String.ofList value) true
  | none =>
      match cutAt [':'] name with
      | some (property, value) => .valued (String.ofList property) (String.ofList value) false
      | none =>
          match cutAt ['='] name with
          | some (property, value) => .valued (String.ofList property) (String.ofList value) false
          | none => .named (String.ofList name)

def property (extended negated : Bool) (text : List Char) : Option (Tree × List Char) :=
  match skip extended text with
  | [] => none
  | '{' :: rest => (propertyName extended rest).map fun (name, after) => (.property (propertyQuery name) negated, after)
  | c :: rest => if c = '\\' then none else some (.property (.named (String.singleton c)) negated, skip extended rest)

def isBoundaryNameChar (c : Char) : Bool :=
  c.isAlpha || c == '-'

def boundaryName (extended : Bool) (text : List Char) : Option (List Char × List Char) :=
  match _same : skip extended text with
  | [] => none
  | '}' :: rest => some ([], rest)
  | c :: rest =>
      if isBoundaryNameChar c then
        (boundaryName extended rest).map fun (name, after) => (c :: name, after)
      else none
termination_by text.length
decreasing_by
  have := skip_length_le extended text
  rw [_same, List.length_cons] at this
  omega

/-- What follows `\b`: a special word boundary in braces, or nothing that belongs to it.  A brace that does
not begin with a name is left for the repetition it may be. -/
def wordBoundary (extended : Bool) (text : List Char) : Option (Tree × List Char) :=
  match text with
  | '{' :: rest =>
      match skip extended rest with
      | [] => none
      | c :: _ =>
          if isBoundaryNameChar c then
            match boundaryName extended rest with
            | some (name, after) =>
                match String.ofList name with
                | "start" => some (.anchor .wordStart, after)
                | "end" => some (.anchor .wordEnd, after)
                | "start-half" => some (.anchor .wordStartHalf, after)
                | "end-half" => some (.anchor .wordEndHalf, after)
                | _ => none
            | none => none
          else some (.anchor .wordBoundary, text)
  | _ => some (.anchor .wordBoundary, text)

def escape (extended : Bool) (text : List Char) : Option (Tree × List Char) :=
  match text with
  | [] => none
  | 'x' :: rest => (hexLiteral extended 2 rest).map fun (item, after) => (.literal item, after)
  | 'u' :: rest => (hexLiteral extended 4 rest).map fun (item, after) => (.literal item, after)
  | 'U' :: rest => (hexLiteral extended 8 rest).map fun (item, after) => (.literal item, after)
  | 'p' :: rest => property extended false rest
  | 'P' :: rest => property extended true rest
  | 'd' :: rest => some (.letterClass .digit false, rest)
  | 'D' :: rest => some (.letterClass .digit true, rest)
  | 's' :: rest => some (.letterClass .blank false, rest)
  | 'S' :: rest => some (.letterClass .blank true, rest)
  | 'w' :: rest => some (.letterClass .word false, rest)
  | 'W' :: rest => some (.letterClass .word true, rest)
  | 'a' :: rest => some (.literal ⟨'\x07', false⟩, rest)
  | 'f' :: rest => some (.literal ⟨'\x0C', false⟩, rest)
  | 't' :: rest => some (.literal ⟨'\t', false⟩, rest)
  | 'n' :: rest => some (.literal ⟨'\n', false⟩, rest)
  | 'r' :: rest => some (.literal ⟨'\r', false⟩, rest)
  | 'v' :: rest => some (.literal ⟨'\x0B', false⟩, rest)
  | 'A' :: rest => some (.anchor .textStart, rest)
  | 'z' :: rest => some (.anchor .textEnd, rest)
  | 'b' :: rest => wordBoundary extended rest
  | 'B' :: rest => some (.anchor .notWordBoundary, rest)
  | '<' :: rest => some (.anchor .wordStart, rest)
  | '>' :: rest => some (.anchor .wordEnd, rest)
  | c :: rest => if isEscapable c then some (.literal ⟨c, false⟩, rest) else none

/-! ### Sets in brackets -/

def posixSet? (name : String) : Option CodeSet :=
  match name with
  | "alnum" => some ⟨[(0x30, 0x39), (0x41, 0x5A), (0x61, 0x7A)]⟩
  | "alpha" => some ⟨[(0x41, 0x5A), (0x61, 0x7A)]⟩
  | "ascii" => some ⟨[(0, 0x7F)]⟩
  | "blank" => some ⟨[(0x09, 0x09), (0x20, 0x20)]⟩
  | "cntrl" => some ⟨[(0, 0x1F), (0x7F, 0x7F)]⟩
  | "digit" => some ⟨[(0x30, 0x39)]⟩
  | "graph" => some ⟨[(0x21, 0x7E)]⟩
  | "lower" => some ⟨[(0x61, 0x7A)]⟩
  | "print" => some ⟨[(0x20, 0x7E)]⟩
  | "punct" => some ⟨[(0x21, 0x2F), (0x3A, 0x40), (0x5B, 0x60), (0x7B, 0x7E)]⟩
  | "space" => some ⟨[(0x09, 0x0D), (0x20, 0x20)]⟩
  | "upper" => some ⟨[(0x41, 0x5A)]⟩
  | "word" => some ⟨[(0x30, 0x39), (0x41, 0x5A), (0x5F, 0x5F), (0x61, 0x7A)]⟩
  | "xdigit" => some ⟨[(0x30, 0x39), (0x41, 0x46), (0x61, 0x66)]⟩
  | _ => none

def posixClass? (text : List Char) : Option (SetTree × List Char) :=
  match text with
  | ':' :: rest =>
      let negated := rest.head? == some '^'
      let rest := if negated then rest.drop 1 else rest
      let name := rest.takeWhile (· != ':')
      match rest.dropWhile (· != ':') with
      | ':' :: ']' :: after => (posixSet? (String.ofList name)).map fun set => (.posix set negated, after)
      | _ => none
  | _ => none

def setItem? : Tree → Option SetTree
  | .literal item => some (.literal item)
  | .letterClass name negated => some (.letterClass name negated)
  | .property query negated => some (.property query negated)
  | _ => none

def setAtom (extended : Bool) (text : List Char) : Option (Tree × List Char) :=
  match text with
  | [] => none
  | '\\' :: rest => escape extended rest
  | c :: rest => some (.literal ⟨c, false⟩, rest)

/-- One item of a set: a class, a character, or a range between two characters.  A hyphen before a bracket
or another hyphen makes no range. -/
def setRange (extended : Bool) (text : List Char) : Option (SetTree × List Char) := do
  let (first, rest) ← setAtom extended text
  match skip extended rest with
  | [] => none
  | '-' :: after =>
      let next := peek extended after
      if next == some ']' || next == some '-' then
        (setItem? first).map fun item => (item, '-' :: after)
      else
        match skip extended after with
        | [] => none
        | afterHyphen =>
            let (last, rest) ← setAtom extended afterHyphen
            match first, last with
            | .literal first, .literal last =>
                if first.char ≤ last.char then some (.range first last, rest) else none
            | _, _ => none
  | other => (setItem? first).map fun item => (item, other)

def unionOf : List SetTree → SetTree
  | [] => .empty
  | [only] => only
  | items => .union items

def closeSet (before : Option (SetOperator × SetTree)) (items : List SetTree) : SetTree :=
  match before with
  | none => unionOf items.reverse
  | some (operator, left) => .combined operator left (unionOf items.reverse)

def leadingHyphens (extended : Bool) (items : List SetTree) (text : List Char) :
    Option (List SetTree × List Char) :=
  match _same : text with
  | '-' :: rest =>
      match skip extended rest with
      | [] => none
      | _ => leadingHyphens extended (.literal ⟨'-', false⟩ :: items) (skip extended rest)
  | [] => none
  | _ => some (items, text)
termination_by text.length
decreasing_by
  have := skip_length_le extended rest
  subst _same
  simp only [List.length_cons]
  omega

/-- The start of a set after its bracket: whether it is negated, and the hyphens and the closing bracket
that are literal because they stand first. -/
def openSet (extended : Bool) (text : List Char) : Option (Bool × List SetTree × List Char) := do
  let text := skip extended text
  let negated := text.head? == some '^'
  let text := if negated then skip extended (text.drop 1) else text
  let (items, text) ← leadingHyphens extended [] text
  match text with
  | ']' :: rest =>
      if items.isEmpty then
        match skip extended rest with
        | [] => none
        | _ => some (negated, [.literal ⟨']', false⟩], skip extended rest)
      else some (negated, items, text)
  | _ => some (negated, items, text)

/-- The rest of a set up to its closing bracket.  Every step reads a character, so the length of the text
is fuel enough. -/
def setRest (extended : Bool) : Nat → Option (SetOperator × SetTree) → List SetTree → List Char →
    Option (SetTree × List Char)
  | 0, _, _, _ => none
  | fuel + 1, before, items, text =>
      match skip extended text with
      | [] => none
      | '[' :: rest =>
          match posixClass? rest with
          | some (item, after) => setRest extended fuel before (item :: items) after
          | none =>
              match openSet extended rest with
              | none => none
              | some (negated, inside, after) =>
                  match setRest extended fuel none inside after with
                  | none => none
                  | some (inner, after) => setRest extended fuel before (.bracket negated inner :: items) after
      | ']' :: rest => some (closeSet before items, rest)
      | '&' :: '&' :: rest => setRest extended fuel (some (.intersection, closeSet before items)) [] rest
      | '-' :: '-' :: rest => setRest extended fuel (some (.difference, closeSet before items)) [] rest
      | '~' :: '~' :: rest => setRest extended fuel (some (.symmetricDifference, closeSet before items)) [] rest
      | other =>
          match setRange extended other with
          | some (item, after) => setRest extended fuel before (item :: items) after
          | none => none

def set (extended : Bool) (text : List Char) : Option (Tree × List Char) := do
  let (negated, items, rest) ← openSet extended text
  let (inner, after) ← setRest extended (rest.length + 1) none items rest
  pure (.bracket negated inner, after)

/-! ### Groups -/

def flagChange? (value : Bool) (change : FlagChange) (c : Char) : Option FlagChange :=
  match c with
  | 'i' => some { change with ignoreCase := some value }
  | 'm' => some { change with multiLine := some value }
  | 's' => some { change with dotAll := some value }
  | 'R' => some { change with crLf := some value }
  | 'u' => some { change with unicode := some value }
  | 'x' => some { change with extended := some value }
  | 'U' => some { change with swapLazy := some value }
  | _ => none

/-- Flags up to the colon or parenthesis that ends them.  `seen` holds the letters and the hyphen read so
far; none may stand twice, and a hyphen may not stand last. -/
def flags : List Char → FlagChange → List Char → Option (FlagChange × List Char)
  | _, _, [] => none
  | seen, change, c :: rest =>
      if c = ':' ∨ c = ')' then
        if seen.head? = some '-' then none else some (change, c :: rest)
      else if seen.contains c then none
      else if c = '-' then flags ('-' :: seen) change rest
      else
        match flagChange? (!seen.contains '-') change c with
        | some change => flags (c :: seen) change rest
        | none => none

/-- True of the characters of a group name: letters, numbers of any kind, and four signs; a name begins with
a letter or an underscore. -/
def isNameChar (isFirst : Bool) (c : Char) : Bool :=
  if isFirst then c == '_' || Unicode.isAlphabetic c
  else c == '_' || c == '.' || c == '[' || c == ']' || Unicode.isAlphanumeric c

def groupName : Bool → List Char → Option (List Char × List Char)
  | _, [] => none
  | isFirst, c :: rest =>
      if c = '>' then (if isFirst then none else some ([], rest))
      else if isNameChar isFirst c then
        (groupName false rest).map fun (name, after) => (c :: name, after)
      else none

inductive Opening where
  | setFlags (change : FlagChange)
  | capture (name : Option (List Char))
  | group (change : FlagChange)

def opening (extended : Bool) (text : List Char) : Option (Opening × List Char) :=
  match skip extended text with
  | '?' :: '=' :: _ => none
  | '?' :: '!' :: _ => none
  | '?' :: '<' :: '=' :: _ => none
  | '?' :: '<' :: '!' :: _ => none
  | '?' :: 'P' :: '<' :: rest => (groupName true rest).map fun (name, after) => (.capture (some name), after)
  | '?' :: '<' :: rest => (groupName true rest).map fun (name, after) => (.capture (some name), after)
  | '?' :: rest =>
      match flags [] {} rest with
      | some (change, ':' :: after) => some (.group change, after)
      | some (change, ')' :: after) => if rest.head? = some ')' then none else some (.setFlags change, after)
      | _ => none
  | other => some (.capture none, other)

/-! ### Repetition -/

def isRepeatable : Tree → Bool
  | .empty => false
  | .flags _ => false
  | _ => true

def laziness (text : List Char) : Bool × List Char :=
  match text with
  | '?' :: rest => (true, rest)
  | _ => (false, text)

def counts (extended : Bool) (text : List Char) : Option (Nat × Option Nat × List Char) :=
  match skip extended text with
  | [] => none
  | text =>
      match decimal extended text with
      | none => none
      | some (least, ',' :: rest) =>
          match least, skip extended rest with
          | some least, '}' :: after => some (least, none, skip extended after)
          | some least, other =>
              match decimal extended other with
              | some (some most, '}' :: after) =>
                  if least ≤ most then some (least, some most, skip extended after) else none
              | _ => none
          | none, _ => none
      | some (some count, '}' :: after) => some (count, some count, skip extended after)
      | some _ => none

/-! ### Patterns -/

/-- What has been read of a pattern or group: its finished branches and the items of the last one, both
last first, the names of groups, and the mode. -/
structure Scope where
  extended : Bool
  names : List (List Char)
  branches : List Tree
  items : List Tree

def branchOf : List Tree → Tree
  | [] => .empty
  | [only] => only
  | items => .sequence items

def Scope.tree (scope : Scope) : Tree :=
  let last := branchOf scope.items.reverse
  if scope.branches.isEmpty then last else .choice (last :: scope.branches).reverse

def Scope.add (scope : Scope) (item : Tree) : Scope :=
  { scope with items := item :: scope.items }

def Scope.repeatLast (scope : Scope) (least : Nat) (most : Option Nat) (isLazy : Bool) : Option Scope :=
  match scope.items with
  | [] => none
  | last :: others =>
      if isRepeatable last then some { scope with items := .repeated last least most isLazy :: others }
      else none

def branches : Nat → Scope → List Char → Option (Scope × List Char)
  | 0, _, _ => none
  | fuel + 1, scope, text =>
      match skip scope.extended text with
      | [] => some (scope, [])
      | ')' :: rest => some (scope, ')' :: rest)
      | '|' :: rest =>
          branches fuel { scope with branches := branchOf scope.items.reverse :: scope.branches, items := [] } rest
      | '(' :: rest =>
          match opening scope.extended rest with
          | none => none
          | some (.setFlags change, after) =>
              branches fuel
                { scope.add (.flags change) with extended := change.extended.getD scope.extended } after
          | some (.capture name, after) =>
              if name.any scope.names.contains then none
              else
                let names := name.toList ++ scope.names
                match branches fuel ⟨scope.extended, names, [], []⟩ after with
                | some (inner, ')' :: after) =>
                    branches fuel { scope.add (.capture inner.tree) with names := inner.names } after
                | _ => none
          | some (.group change, after) =>
              match branches fuel ⟨change.extended.getD scope.extended, scope.names, [], []⟩ after with
              | some (inner, ')' :: after) =>
                  branches fuel { scope.add (.group change inner.tree) with names := inner.names } after
              | _ => none
      | '[' :: rest =>
          match set scope.extended rest with
          | some (item, after) => branches fuel (scope.add item) after
          | none => none
      | '?' :: rest =>
          let (isLazy, after) := laziness rest
          match scope.repeatLast 0 (some 1) isLazy with
          | some scope => branches fuel scope after
          | none => none
      | '*' :: rest =>
          let (isLazy, after) := laziness rest
          match scope.repeatLast 0 none isLazy with
          | some scope => branches fuel scope after
          | none => none
      | '+' :: rest =>
          let (isLazy, after) := laziness rest
          match scope.repeatLast 1 none isLazy with
          | some scope => branches fuel scope after
          | none => none
      | '{' :: rest =>
          match counts scope.extended rest with
          | some (least, most, after) =>
              let (isLazy, after) := laziness after
              match scope.repeatLast least most isLazy with
              | some scope => branches fuel scope after
              | none => none
          | none => none
      | '\\' :: rest =>
          match escape scope.extended rest with
          | some (item, after) => branches fuel (scope.add item) after
          | none => none
      | '.' :: rest => branches fuel (scope.add .dot) rest
      | '^' :: rest => branches fuel (scope.add (.anchor .lineStart)) rest
      | '$' :: rest => branches fuel (scope.add (.anchor .lineEnd)) rest
      | c :: rest => branches fuel (scope.add (.literal ⟨c, false⟩)) rest

def tree? (text : List Char) : Option Tree :=
  match branches (text.length + 1) ⟨false, [], [], []⟩ text with
  | some (scope, []) => if scope.tree.depth ≤ depthLimit then some scope.tree else none
  | _ => none

end TemplateLint.Regex.Reader
