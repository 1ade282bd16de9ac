import TemplateLint.Machine.FileTree
import TemplateLint.Machine.Shell.Arithmetic

set_option autoImplicit false

/-!
Conditions about texts, numbers and files, as `test` and `[` take them.
-/

namespace TemplateLint.Machine.Shell

structure Surroundings where
  item? : Octets → Option Item
  number? : Octets → Option Nat
  isLink : Octets → Bool

inductive UnaryTest where
  | isEmpty | isNotEmpty | exists | isFile | isDirectory | hasContent | isExecutable | isDevice | isLink
  | isTerminal
  | isOther
deriving DecidableEq, Repr

inductive BinaryTest where
  | equal | different | before | after | sameNumber | otherNumber | less | lessEq | greater | greaterEq
  | newer | older | sameFile
deriving DecidableEq, Repr

inductive TestWord where
  | unary (test : UnaryTest)
  | binary (test : BinaryTest)
  | both
  | either
  | negation
  | opening
  | closing
deriving DecidableEq, Repr

def testWord? (word : Octets) : Option TestWord :=
  match String.ofList word with
  | "-z" => some (.unary .isEmpty)
  | "-n" => some (.unary .isNotEmpty)
  | "-e" | "-r" | "-w" | "-O" | "-G" => some (.unary .exists)
  | "-f" => some (.unary .isFile)
  | "-d" => some (.unary .isDirectory)
  | "-s" => some (.unary .hasContent)
  | "-x" => some (.unary .isExecutable)
  | "-c" => some (.unary .isDevice)
  | "-h" | "-L" => some (.unary .isLink)
  | "-t" => some (.unary .isTerminal)
  | "-b" | "-p" | "-S" | "-u" | "-g" | "-k" => some (.unary .isOther)
  | "=" => some (.binary .equal)
  | "!=" => some (.binary .different)
  | "<" => some (.binary .before)
  | ">" => some (.binary .after)
  | "-eq" => some (.binary .sameNumber)
  | "-ne" => some (.binary .otherNumber)
  | "-lt" => some (.binary .less)
  | "-le" => some (.binary .lessEq)
  | "-gt" => some (.binary .greater)
  | "-ge" => some (.binary .greaterEq)
  | "-nt" => some (.binary .newer)
  | "-ot" => some (.binary .older)
  | "-ef" => some (.binary .sameFile)
  | "-a" => some .both
  | "-o" => some .either
  | "!" => some .negation
  | "(" => some .opening
  | ")" => some .closing
  | _ => none

def isBinary (word : Octets) : Bool :=
  match testWord? word with
  | some (.binary _) => true
  | _ => false

/-- The meaning of the first of some words, in view of those behind it; none when it is an operand. -/
def meaningOf? (words : List Octets) : Option TestWord :=
  match words with
  | [] => none
  | word :: rest =>
      let isOperand := match rest with
        | [] => true
        | [_] => false
        | next :: _ => isBinary next
      match testWord? word with
      | some (.unary test) => if isOperand then none else some (.unary test)
      | some .opening => if rest.isEmpty then none else some .opening
      | other => other

abbrev TestError := Octets

def aboutWord (word : Octets) (reason : String) : TestError := word ++ (": " ++ reason).toList

def testNumber (operand : Octets) : Except TestError Int :=
  match decimalInteger? operand with
  | some value => .ok value
  | none => .error ("Illegal number: ".toList ++ operand)

def holdsSomething : Node → Bool
  | .file content => !content.isEmpty
  | .device _ => false
  | _ => true

def UnaryTest.holds (surroundings : Surroundings) (test : UnaryTest) (operand : Octets) : Except TestError Bool :=
  let onItem := fun (test : Item → Bool) =>
    (Except.ok (((surroundings.item? operand).map test).getD false) : Except TestError Bool)
  match test with
  | .isEmpty => .ok operand.isEmpty
  | .isNotEmpty => .ok (!operand.isEmpty)
  | .exists => onItem fun _ => true
  | .isFile => onItem fun item => match item.node with
      | .file _ | .program _ => true
      | _ => false
  | .isDirectory => onItem fun item => item.node == .directory
  | .hasContent => onItem fun item => holdsSomething item.node
  | .isExecutable => onItem fun item => item.node == .directory || item.isExecutable
  | .isDevice => onItem fun item => match item.node with
      | .device _ => true
      | _ => false
  | .isLink => .ok (surroundings.isLink operand)
  | .isTerminal => do
      let _ ← testNumber operand
      return false
  | .isOther => .ok false

def BinaryTest.holds (surroundings : Surroundings) (test : BinaryTest) (left right : Octets) :
    Except TestError Bool :=
  let numbers := fun (test : Int → Int → Bool) => do
    let first ← testNumber left
    let second ← testNumber right
    return test first second
  let times := fun (test : Nat → Nat → Bool) =>
    match surroundings.item? left, surroundings.item? right with
    | some first, some second => (Except.ok (test first.time second.time) : Except TestError Bool)
    | _, _ => .ok false
  match test with
  | .equal => .ok (left == right)
  | .different => .ok (left != right)
  | .before => .ok (String.ofList left < String.ofList right)
  | .after => .ok (String.ofList right < String.ofList left)
  | .sameNumber => numbers (· == ·)
  | .otherNumber => numbers (· != ·)
  | .less => numbers (· < ·)
  | .lessEq => numbers (· ≤ ·)
  | .greater => numbers (· > ·)
  | .greaterEq => numbers (· ≥ ·)
  | .newer => times (· > ·)
  | .older => times (· < ·)
  | .sameFile =>
      match surroundings.number? left, surroundings.number? right with
      | some first, some second => .ok (first == second)
      | _, _ => .ok false

abbrev Tested := Except TestError (Bool × List Octets)

mutual

def testAny (surroundings : Surroundings) : Nat → Option TestWord → List Octets → Tested
  | 0, _, words => .ok (false, words)
  | fuel + 1, meaning, words => do
      let (left, words) ← testEvery surroundings fuel meaning words
      if meaningOf? (words.drop 1) == some .either then
        let words := words.drop 2
        let (right, words) ← testAny surroundings fuel (meaningOf? words) words
        return (left || right, words)
      else return (left, words)

def testEvery (surroundings : Surroundings) : Nat → Option TestWord → List Octets → Tested
  | 0, _, words => .ok (false, words)
  | fuel + 1, meaning, words => do
      let (left, words) ← testNegated surroundings fuel meaning words
      if meaningOf? (words.drop 1) == some .both then
        let words := words.drop 2
        let (right, words) ← testEvery surroundings fuel (meaningOf? words) words
        return (left && right, words)
      else return (left, words)

def testNegated (surroundings : Surroundings) : Nat → Option TestWord → List Octets → Tested
  | 0, _, words => .ok (false, words)
  | fuel + 1, some .negation, words =>
      if words.length ≤ 1 then .ok (true, words)
      else do
        let (outcome, words) ← testNegated surroundings fuel (meaningOf? (words.drop 1)) (words.drop 1)
        return (!outcome, words)
  | fuel + 1, meaning, words => testOne surroundings fuel meaning words

def testOne (surroundings : Surroundings) : Nat → Option TestWord → List Octets → Tested
  | 0, _, words => .ok (false, words)
  | fuel + 1, meaning, words =>
      match words, meaning with
      | [], _ => .ok (false, [])
      | _ :: rest, some .opening => do
          if meaningOf? rest == some .closing then return (false, rest)
          else
            let (outcome, words) ← testAny surroundings fuel (meaningOf? rest) rest
            let words := words.drop 1
            if meaningOf? words == some .closing then return (outcome, words)
            else throw "closing paren expected".toList
      | operator :: rest, some (.unary test) =>
          match rest with
          | [] => .error (aboutWord operator "argument expected")
          | operand :: _ => do return (← test.holds surroundings operand, rest)
      | left :: rest, _ =>
          match meaningOf? rest, rest with
          | some (.binary _), [operator] => .error (aboutWord operator "argument expected")
          | some (.binary test), _ :: right :: others => do
              return (← test.holds surroundings left right, right :: others)
          | _, _ => .ok (!left.isEmpty, left :: rest)

end

def testWhole (surroundings : Surroundings) (meaning : Option TestWord) (words : List Octets) :
    Except TestError Bool := do
  let (outcome, behind) ← testAny surroundings (8 * words.length + 16) meaning words
  match behind with
  | word :: _ :: _ => throw (aboutWord word "unexpected operator")
  | _ => return outcome

/-- The outcome of a condition; three or four words are first taken apart by rules of their own. -/
def testOutcome (surroundings : Surroundings) : Nat → List Octets → Except TestError Bool
  | 0, _ => .ok false
  | fuel + 1, words =>
      match words with
      | [] => .ok false
      | [left, operator, right] =>
          if isBinary operator then testWhole surroundings none words
          else if left = ['('] && right = [')'] then testWhole surroundings (meaningOf? [operator]) [operator]
          else if left = ['!'] then (testOutcome surroundings fuel [operator, right]).map not
          else testWhole surroundings (meaningOf? words) words
      | [first, second, third, fourth] =>
          if first = ['('] && fourth = [')'] then
            testWhole surroundings (meaningOf? [second, third]) [second, third]
          else if first = ['!'] then (testOutcome surroundings fuel [second, third, fourth]).map not
          else testWhole surroundings (meaningOf? words) words
      | _ => testWhole surroundings (meaningOf? words) words

end TemplateLint.Machine.Shell
