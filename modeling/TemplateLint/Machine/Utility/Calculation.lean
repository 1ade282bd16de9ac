import TemplateLint.Machine.Regular
import TemplateLint.Machine.Utility.Basic

set_option autoImplicit false

/-!
Expressions over numbers and texts in the operands of a program.
-/

namespace TemplateLint.Machine.Utility.Calculation

open Shell (Process)

structure Trouble where
  text : Octets

abbrev Result := Except Trouble (Octets × List Octets)

def trouble {α : Type} (text : Octets) : Except Trouble α := .error ⟨text⟩

/-- The complaint about a word that is not expected, or about the end of the words. -/
def unexpected {α : Type} (before : Octets) (words : List Octets) : Except Trouble α :=
  match words with
  | [] => trouble ("syntax error: missing argument after ".toList ++ quoted before)
  | word :: _ => trouble ("syntax error: unexpected argument ".toList ++ quoted word)

def number? (text : Octets) : Option Int :=
  match text with
  | '-' :: digits => (decimal? digits).map fun value => -Int.ofNat value
  | digits => (decimal? digits).map Int.ofNat

def isNull (text : Octets) : Bool :=
  text.isEmpty || (number? text == some 0 && text.all fun c => c == '0' || c == '-')

def truthText (isTrue : Bool) : Octets := if isTrue then ['1'] else ['0']

/-- How expressions are written: without a meaning for letters behind a backslash. -/
def dialect : Regular.Dialect := ⟨false, false, false, false⟩

/-- What an expression matches at the start of a text: the part in its first group, or else its length. -/
def matched (text pattern : Octets) : Except Trouble Octets :=
  match Regular.read dialect pattern with
  | .error reason => trouble reason.toList
  | .ok (regular, groups) =>
      let subject := subjectOf false text
      match regular.matchAt? subject 0 with
      | none => .ok (if groups = 0 then ['0'] else [])
      | some found =>
          .ok (if groups = 0 then natText (found.stop - found.start) else (found.group? subject 1).getD [])

def calculate (operator left right : Octets) : Except Trouble Octets :=
  match number? left, number? right with
  | some first, some second =>
      match operator with
      | ['+'] => .ok (intText (first + second))
      | ['-'] => .ok (intText (first - second))
      | ['*'] => .ok (intText (first * second))
      | _ =>
          if second = 0 then trouble "division by zero".toList
          else .ok (intText (if operator = ['/'] then Int.tdiv first second else Int.tmod first second))
  | _, _ => trouble "non-integer argument".toList

def compare (operator left right : Octets) : Octets :=
  let order := match number? left, number? right with
    | some first, some second => Ord.compare first second
    | _, _ =>
        if left == right then .eq else if String.ofList left < String.ofList right then .lt else .gt
  truthText (match String.ofList operator with
    | "<" => order == .lt
    | "<=" => order != .gt
    | "=" | "==" => order == .eq
    | "!=" => order != .eq
    | ">=" => order != .lt
    | _ => order == .gt)

def operatorsAt : Nat → List String
  | 0 => ["|"]
  | 1 => ["&"]
  | 2 => ["<", "<=", "=", "==", "!=", ">=", ">"]
  | 3 => ["+", "-"]
  | 4 => ["*", "/", "%"]
  | _ => [":"]

def apply (level : Nat) (operator left right : Octets) : Except Trouble Octets :=
  match level with
  | 0 => .ok (if !isNull left then left else if isNull right then ['0'] else right)
  | 1 => .ok (if isNull left || isNull right then ['0'] else left)
  | 2 => .ok (compare operator left right)
  | 3 | 4 => calculate operator left right
  | _ => matched left right

mutual

/-- The value of an expression with operators of a level and above.  Without `isNeeded` nothing is calculated. -/
def evaluate : Nat → Nat → Octets → List Octets → Result
  | 0, _, before, words => unexpected before words
  | fuel + 1, level, before, words => do
      let (left, rest) ← if level < 6 then evaluate fuel (level + 1) before words
        else evaluateOperand fuel before words
      if level < 6 then continueWith fuel level left rest else return (left, rest)

def continueWith : Nat → Nat → Octets → List Octets → Result
  | 0, _, value, words => .ok (value, words)
  | fuel + 1, level, left, words =>
      match words with
      | [] => .ok (left, [])
      | operator :: rest =>
          if (operatorsAt level).contains (String.ofList operator) then do
            let (right, rest) ← evaluate fuel (level + 1) operator rest
            let value ← if (level = 0 && !isNull left) then Except.ok left
              else if level = 1 && isNull left then Except.ok ['0']
              else apply level operator left right
            continueWith fuel level value rest
          else .ok (left, words)

def evaluateOperand : Nat → Octets → List Octets → Result
  | 0, before, words => unexpected before words
  | fuel + 1, before, words =>
      match words with
      | [] => unexpected before []
      | word :: rest =>
          match String.ofList word with
          | "(" => do
              let (value, rest) ← evaluate fuel 0 word rest
              match rest with
              | [')'] :: rest => return (value, rest)
              | [] => trouble ("syntax error: expecting ')' after ".toList ++ quoted (words.getLast?.getD []))
              | other :: _ => trouble ("syntax error: expecting ')' instead of ".toList ++ quoted other)
          | ")" => trouble "syntax error: unexpected ')'".toList
          | "+" =>
              match rest with
              | [] => unexpected word []
              | next :: rest => .ok (next, rest)
          | "match" => do
              let (text, rest) ← evaluateOperand fuel word rest
              let (pattern, rest) ← evaluateOperand fuel word rest
              return (← matched text pattern, rest)
          | "length" => do
              let (text, rest) ← evaluateOperand fuel word rest
              return (natText text.length, rest)
          | "index" => do
              let (text, rest) ← evaluateOperand fuel word rest
              let (set, rest) ← evaluateOperand fuel word rest
              let place := (text.findIdx? fun c => set.contains c).map (· + 1)
              return (natText (place.getD 0), rest)
          | "substr" => do
              let (text, rest) ← evaluateOperand fuel word rest
              let (start, rest) ← evaluateOperand fuel word rest
              let (count, rest) ← evaluateOperand fuel word rest
              match number? start, number? count with
              | some start, some count =>
                  if start ≤ 0 || count ≤ 0 then return ([], rest)
                  else return ((text.drop (start.toNat - 1)).take count.toNat, rest)
              | _, _ => return ([], rest)
          | _ => .ok (word, rest)

end

def run : Tool := fun words process =>
  let words := if words.head? = some ['-', '-'] then words.drop 1 else words
  if words.isEmpty then misuse process 2 "missing operand".toList
  else
    match evaluate (16 * words.length + 32) 0 [] words with
    | .error problem => refuse process 2 problem.text
    | .ok (value, rest) =>
        match rest with
        | [] => (process.say (value ++ ['\n'])).withStatus (if isNull value then 1 else 0)
        | _ :: _ => refuse process 2 ("syntax error: unexpected argument ".toList ++ quoted (rest.head?.getD []))

end TemplateLint.Machine.Utility.Calculation
