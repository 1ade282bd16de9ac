import TemplateLint.Toml.Basic
import TemplateLint.Toml.Moment

set_option autoImplicit false

/-!
Reading TOML 1.1.  The readers take the rest of the text and give what they read together with what is left;
`none` means that the text is not a TOML document.
-/

namespace TemplateLint.Toml.Reader

/-! ### Blanks, comments and line ends -/

def isSpace (c : Char) : Bool := c == ' ' || c == '\t'

def isPrintable (c : Char) : Bool :=
  c == '\t' || (0x20 ≤ c.toNat && c.toNat != 0x7F)

def skipSpaces (text : List Char) : List Char := text.dropWhile isSpace

def lineEnd? (text : List Char) : Option (List Char) :=
  match text with
  | '\n' :: rest => some rest
  | '\r' :: '\n' :: rest => some rest
  | _ => none

def skipComment (text : List Char) : List Char :=
  match text with
  | '#' :: rest => rest.dropWhile isPrintable
  | _ => text

/-- The text after blanks, comments and line ends.  Every round reads a line end, so the length of the text
is fuel enough. -/
def skipLines : Nat → List Char → List Char
  | 0, text => text
  | fuel + 1, text =>
      let rest := skipComment (skipSpaces text)
      match lineEnd? rest with
      | some after => skipLines fuel after
      | none => rest

/-! ### Strings -/

def hexDigit? (c : Char) : Option Nat :=
  if '0' ≤ c ∧ c ≤ '9' then some (c.toNat - 48)
  else if 'a' ≤ c ∧ c ≤ 'f' then some (c.toNat - 87)
  else if 'A' ≤ c ∧ c ≤ 'F' then some (c.toNat - 55)
  else none

def numbered : Nat → Nat → List Char → Option (Char × List Char)
  | 0, value, text =>
      if value < 0xD800 ∨ (0xE000 ≤ value ∧ value ≤ 0x10FFFF) then some (Char.ofNat value, text) else none
  | count + 1, value, c :: rest =>
      (hexDigit? c).bind fun digit => numbered count (value * 16 + digit) rest
  | _ + 1, _, [] => none

def escape (text : List Char) : Option (Char × List Char) :=
  match text with
  | 'b' :: rest => some ('\x08', rest)
  | 't' :: rest => some ('\t', rest)
  | 'n' :: rest => some ('\n', rest)
  | 'f' :: rest => some ('\x0C', rest)
  | 'r' :: rest => some ('\r', rest)
  | 'e' :: rest => some ('\x1B', rest)
  | '"' :: rest => some ('"', rest)
  | '\\' :: rest => some ('\\', rest)
  | 'x' :: rest => numbered 2 0 rest
  | 'u' :: rest => numbered 4 0 rest
  | 'U' :: rest => numbered 8 0 rest
  | _ => none

def basic : Nat → List Char → Option (List Char × List Char)
  | 0, _ => none
  | fuel + 1, text =>
      match text with
      | [] => none
      | '"' :: rest => some ([], rest)
      | '\\' :: rest =>
          match escape rest with
          | some (c, after) => (basic fuel after).map fun (more, left) => (c :: more, left)
          | none => none
      | c :: rest =>
          if isPrintable c then (basic fuel rest).map fun (more, left) => (c :: more, left) else none

def literal : List Char → Option (List Char × List Char)
  | [] => none
  | c :: rest =>
      if c = '\'' then some ([], rest)
      else if isPrintable c then (literal rest).map fun (more, left) => (c :: more, left)
      else none

/-- The end of a string over several lines: three quotes, before which one or two quotes may belong to the
string. -/
def closing? (quote : Char) (text : List Char) : Option (List Char × List Char) :=
  let count := (text.takeWhile (· == quote)).length
  if count < 3 then none
  else
    let extra := min (count - 3) 2
    some (List.replicate extra quote, text.drop (extra + 3))

def continued? (text : List Char) : Option (List Char) :=
  (lineEnd? (skipSpaces text)).map fun rest => skipBlankLines (rest.length + 1) rest
where
  skipBlankLines : Nat → List Char → List Char
    | 0, text => text
    | fuel + 1, text =>
        let rest := skipSpaces text
        match lineEnd? rest with
        | some after => skipBlankLines fuel after
        | none => rest

def basicLines : Nat → List Char → Option (List Char × List Char)
  | 0, _ => none
  | fuel + 1, text =>
      match closing? '"' text with
      | some found => some found
      | none =>
          match text with
          | [] => none
          | '\\' :: rest =>
              match continued? rest with
              | some after => basicLines fuel after
              | none =>
                  match escape rest with
                  | some (c, after) => (basicLines fuel after).map fun (more, left) => (c :: more, left)
                  | none => none
          | '\r' :: '\n' :: rest =>
              (basicLines fuel rest).map fun (more, left) => ('\r' :: '\n' :: more, left)
          | c :: rest =>
              if isPrintable c ∨ c = '\n' then
                (basicLines fuel rest).map fun (more, left) => (c :: more, left)
              else none

def literalLines : Nat → List Char → Option (List Char × List Char)
  | 0, _ => none
  | fuel + 1, text =>
      match closing? '\'' text with
      | some found => some found
      | none =>
          match text with
          | [] => none
          | '\r' :: '\n' :: rest =>
              (literalLines fuel rest).map fun (more, left) => ('\r' :: '\n' :: more, left)
          | c :: rest =>
              if isPrintable c ∨ c = '\n' then
                (literalLines fuel rest).map fun (more, left) => (c :: more, left)
              else none

def dropFirstLineEnd (text : List Char) : List Char :=
  (lineEnd? text).getD text

def string (text : List Char) : Option (String × List Char) :=
  let found :=
    match text with
    | '"' :: '"' :: '"' :: rest => basicLines (rest.length + 1) (dropFirstLineEnd rest)
    | '\'' :: '\'' :: '\'' :: rest => literalLines (rest.length + 1) (dropFirstLineEnd rest)
    | '"' :: rest => basic (rest.length + 1) rest
    | '\'' :: rest => literal rest
    | _ => none
  found.map fun (content, after) => (String.ofList content, after)

/-! ### Keys -/

def depthLimit : Nat := 80

def isBare (c : Char) : Bool := c.isAlphanum || c == '_' || c == '-'

def key (text : List Char) : Option (String × List Char) :=
  match text with
  | '"' :: rest => (basic (rest.length + 1) rest).map fun (content, after) => (String.ofList content, after)
  | '\'' :: rest => (literal rest).map fun (content, after) => (String.ofList content, after)
  | _ =>
      let bare := text.takeWhile isBare
      if bare.isEmpty then none else some (String.ofList bare, text.dropWhile isBare)

def keyPathUpTo : (count : Nat) → List Char → Option (KeyPath × List Char)
  | 0, _ => none
  | count + 1, text =>
      match key (skipSpaces text) with
      | none => none
      | some (first, rest) =>
          match skipSpaces rest with
          | '.' :: rest => (keyPathUpTo count rest).map fun (path, after) => (first :: path, after)
          | rest => some ([first], rest)

def keyPath (text : List Char) : Option (KeyPath × List Char) :=
  keyPathUpTo depthLimit text

/-! ### Numbers, truth values and moments -/

def digits? (isDigit : Char → Bool) : List Char → Option (List Char)
  | [] => none
  | [c] => if isDigit c then some [c] else none
  | c :: '_' :: rest => if isDigit c then (digits? isDigit rest).map (c :: ·) else none
  | c :: rest => if isDigit c then (digits? isDigit rest).map (c :: ·) else none

def inBase (base : Nat) (digits : List Char) : Nat :=
  digits.foldl (fun value c => value * base + (hexDigit? c).getD 0) 0

def wholeDigits? (text : List Char) : Option (List Char) :=
  match text with
  | ['0'] => some ['0']
  | '0' :: _ => none
  | _ => digits? Char.isDigit text

def cutAt (isCut : Char → Bool) (text : List Char) : List Char × Option (List Char) :=
  match text.dropWhile fun c => !isCut c with
  | [] => (text, none)
  | _ :: after => (text.takeWhile fun c => !isCut c, some after)

def sign (text : List Char) : Bool × List Char :=
  match text with
  | '-' :: rest => (true, rest)
  | '+' :: rest => (false, rest)
  | _ => (false, text)

def isIntegerInRange (n : Int) : Bool :=
  -Int.ofNat (Nat.pow 2 127) ≤ n && n < Int.ofNat (Nat.pow 2 128)

def integer? (text : List Char) : Option Int :=
  let found : Option Int :=
    match text with
    | '0' :: 'x' :: rest => (digits? (fun c => (hexDigit? c).isSome) rest).map fun d => inBase 16 d
    | '0' :: 'o' :: rest => (digits? (fun c => '0' ≤ c && c ≤ '7') rest).map fun d => inBase 8 d
    | '0' :: 'b' :: rest => (digits? (fun c => c == '0' || c == '1') rest).map fun d => inBase 2 d
    | _ =>
        let (negative, rest) := sign text
        (wholeDigits? rest).map fun d => if negative then -(inBase 10 d : Int) else inBase 10 d
  found.bind fun n => if isIntegerInRange n then some n else none

def exponent? (text : List Char) : Option Int :=
  let (negative, rest) := sign text
  (digits? Char.isDigit rest).map fun d => if negative then -(inBase 10 d : Int) else inBase 10 d

/-- A float.  It is rounded to the nearest number; one that is too large is refused. -/
def float? (text : List Char) : Option Double :=
  let (negative, rest) := sign text
  match rest with
  | ['i', 'n', 'f'] => some (Double.infinity negative)
  | ['n', 'a', 'n'] => some (Double.nan negative)
  | _ =>
      let (mantissa, exponent) := cutAt (fun c => c == 'e' || c == 'E') rest
      let (whole, part) := cutAt (· == '.') mantissa
      if exponent.isNone && part.isNone then none
      else do
        let whole ← wholeDigits? whole
        let part ← match part with
          | some part => digits? Char.isDigit part
          | none => some []
        let exponent ← match exponent with
          | some exponent => exponent? exponent
          | none => some 0
        let number := Double.ofDecimal negative (inBase 10 (whole ++ part)) (exponent - part.length)
        if number.isInfinite then none else some number

def isAtomChar (c : Char) : Bool :=
  c.isAlphanum || c == '_' || c == '-' || c == '+' || c == '.' || c == ':'

def isDate (text : List Char) : Bool :=
  text.length == 10 && (Moment.date text).isSome

def atom (text : List Char) : Option (Toml × List Char) :=
  let first := text.takeWhile isAtomChar
  let rest := text.dropWhile isAtomChar
  let (found, after) :=
    match rest with
    | ' ' :: c :: more =>
        if isDate first ∧ c.isDigit then
          (first ++ ' ' :: (c :: more).takeWhile isAtomChar, (c :: more).dropWhile isAtomChar)
        else (first, rest)
    | _ => (first, rest)
  let value :=
    match found with
    | ['t', 'r', 'u', 'e'] => some (Toml.bool true)
    | ['f', 'a', 'l', 's', 'e'] => some (Toml.bool false)
    | _ =>
        match integer? found with
        | some n => some (Toml.integer n)
        | none =>
            match float? found with
            | some number => some (Toml.float number)
            | none => (Moment.normal? found).map fun normal => Toml.moment (String.ofList normal)
  value.map fun value => (value, after)

/-! ### Values -/

inductive Task where
  | value
  | items (done : List Toml)
  | members (done : Members)

/-- Reads values.  `depth` is the number of arrays and inline tables that are open.  Of two rounds
one reads a character, so twice the length of the text is fuel enough. -/
def value : Nat → Nat → Task → List Char → Option (Toml × List Char)
  | 0, _, _, _ => none
  | fuel + 1, depth, .value, text =>
      match text with
      | '"' :: _ => (string text).map fun (content, after) => (.string content, after)
      | '\'' :: _ => (string text).map fun (content, after) => (.string content, after)
      | '[' :: rest => if depth < depthLimit then value fuel (depth + 1) (.items []) rest else none
      | '{' :: rest => if depth < depthLimit then value fuel (depth + 1) (.members []) rest else none
      | _ => atom text
  | fuel + 1, depth, .items done, text =>
      match skipLines (text.length + 1) text with
      | ']' :: rest => some (.array done.reverse, rest)
      | rest =>
          match value fuel depth .value rest with
          | none => none
          | some (item, after) =>
              match skipLines (after.length + 1) after with
              | ',' :: rest => value fuel depth (.items (item :: done)) rest
              | ']' :: rest => some (.array (item :: done).reverse, rest)
              | _ => none
  | fuel + 1, depth, .members done, text =>
      match skipLines (text.length + 1) text with
      | '}' :: rest => some ((Node.table .header done).finish, rest)
      | rest =>
          match keyPath rest with
          | some (path, '=' :: rest) =>
              match value fuel depth .value (skipSpaces rest) with
              | none => none
              | some (item, after) =>
                  match putValue item path done, skipLines (after.length + 1) after with
                  | some done, ',' :: rest => value fuel depth (.members done) rest
                  | some done, '}' :: rest => some ((Node.table .header done).finish, rest)
                  | _, _ => none
          | _ => none

/-! ### Documents -/

def restOfLine? (text : List Char) : Option (List Char) :=
  match skipComment (skipSpaces text) with
  | [] => some []
  | rest => lineEnd? rest

structure State where
  root : Members
  current : KeyPath

def State.put (state : State) (path : KeyPath) (value : Toml) : Option State :=
  (underHeader (putValue value path) state.current state.root).map fun root => { state with root := root }

def State.start (state : State) (place : String → Members → Option Members) (path : KeyPath) : Option State :=
  match path.getLast? with
  | none => none
  | some last => (underHeader (place last) path.dropLast state.root).map fun root => ⟨root, path⟩

def lines : Nat → State → List Char → Option State
  | 0, _, _ => none
  | fuel + 1, state, text =>
      match skipLines (text.length + 1) text with
      | [] => some state
      | '[' :: '[' :: rest =>
          match keyPath rest with
          | some (path, ']' :: ']' :: rest) =>
              match state.start appendTable path, restOfLine? rest with
              | some state, some rest => lines fuel state rest
              | _, _ => none
          | _ => none
      | '[' :: rest =>
          match keyPath rest with
          | some (path, ']' :: rest) =>
              match state.start openTable path, restOfLine? rest with
              | some state, some rest => lines fuel state rest
              | _, _ => none
          | _ => none
      | rest =>
          match keyPath rest with
          | some (path, '=' :: rest) =>
              match value (2 * rest.length + 2) 0 .value (skipSpaces rest) with
              | some (item, rest) =>
                  match state.put path item, restOfLine? rest with
                  | some state, some rest => lines fuel state rest
                  | _, _ => none
              | none => none
          | _ => none

def dropMark (text : List Char) : List Char :=
  match text with
  | '\uFEFF' :: rest => rest
  | _ => text

end Reader

def parse? (text : List Char) : Option Toml :=
  let text := Reader.dropMark text
  (Reader.lines (text.length + 1) ⟨[], []⟩ text).map fun state => (Node.table .header state.root).finish

end TemplateLint.Toml
