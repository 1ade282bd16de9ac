import TemplateLint.Machine.Shell.Bindings
import TemplateLint.Machine.Shell.Token

set_option autoImplicit false

/-!
Arithmetic of the shell: expressions over integers of 64 bits, which may assign to names.
-/

namespace TemplateLint.Machine.Shell

inductive Operation where
  | add | sub | mul | div | rem | shiftLeft | shiftRight | less | lessEq | greater | greaterEq | equal
  | different | bitAnd | bitXor | bitOr
deriving DecidableEq, Repr

inductive Expression where
  | number (value : Int)
  | named (name : Octets)
  | negative (operand : Expression)
  | isZero (operand : Expression)
  | complement (operand : Expression)
  | binary (operation : Operation) (left right : Expression)
  | both (left right : Expression)
  | either (left right : Expression)
  | choice (condition accepted rejected : Expression)
  | assign (name : Octets) (operation : Option Operation) (value : Expression)
deriving Repr

inductive ArithmeticError where
  | expecting (what : String)
  | divisionByZero
  | notNumber (text : Octets)
  | readOnly (name : Octets)
deriving DecidableEq, Repr

inductive Joint where
  | both
  | either
  | operation (operation : Operation)
deriving DecidableEq, Repr

/-- The spellings of the operators between operands, longer ones first, with how tightly they bind. -/
def jointTable : List (String × Nat × Joint) := [
  ("||", 1, .either), ("&&", 2, .both),
  ("==", 6, .operation .equal), ("!=", 6, .operation .different),
  ("<<", 8, .operation .shiftLeft), (">>", 8, .operation .shiftRight),
  ("<=", 7, .operation .lessEq), (">=", 7, .operation .greaterEq),
  ("|", 3, .operation .bitOr), ("^", 4, .operation .bitXor), ("&", 5, .operation .bitAnd),
  ("<", 7, .operation .less), (">", 7, .operation .greater),
  ("+", 9, .operation .add), ("-", 9, .operation .sub),
  ("*", 10, .operation .mul), ("/", 10, .operation .div), ("%", 10, .operation .rem)]

def assignmentTable : List (String × Option Operation) := [
  ("<<=", some .shiftLeft), (">>=", some .shiftRight), ("+=", some .add), ("-=", some .sub),
  ("*=", some .mul), ("/=", some .div), ("%=", some .rem), ("&=", some .bitAnd), ("^=", some .bitXor),
  ("|=", some .bitOr), ("=", none)]

/-- The first entry of a table whose spelling starts a text, with the text behind it. -/
def findSpelling? {α : Type} (text : Octets) : List (String × α) → Option (α × Octets)
  | [] => none
  | (spelling, value) :: rest =>
      if spelling.toList.isPrefixOf text then some (value, text.drop spelling.length)
      else findSpelling? text rest

def assignmentAt? (text : Octets) : Option (Option Operation × Octets) :=
  if "==".toList.isPrefixOf text then none else findSpelling? text assignmentTable

/-- The operator between operands at the start of a text, with the text behind it. -/
def jointAt? (text : Octets) : Option ((Nat × Joint) × Octets) :=
  match assignmentAt? text with
  | some _ => none
  | none => findSpelling? text jointTable

/-! ### Numbers -/

def greatest : Int := Int.ofNat (Nat.pow 2 63) - 1

def least : Int := -Int.ofNat (Nat.pow 2 63)

/-- The number at the start of a text, in a base that its first characters may say, with the text behind it:
sixteen after `0x`, eight after `0`, else ten. -/
def constantAt (text : Octets) : Nat × Octets :=
  let hexadecimal := match text with
    | '0' :: x :: digit :: _ => (x == 'x' || x == 'X') && isHex digit
    | _ => false
  if hexadecimal then
    let digits := (text.drop 2).takeWhile isHex
    (numberIn 16 digits, text.drop (2 + digits.length))
  else if text.head? = some '0' then
    let digits := text.takeWhile isOctal
    (numberIn 8 digits, text.drop digits.length)
  else
    let digits := text.takeWhile Char.isDigit
    (decimal digits, text.drop digits.length)

/-- The integer that a text writes, with blanks around it; an empty text writes zero.  There is none when the
number does not have 64 bits. -/
def integer? (text : Octets) : Option Int :=
  let trimmed := text.dropWhile isSpace
  let (isNegative, digits) := match trimmed with
    | '-' :: rest => (true, rest)
    | '+' :: rest => (false, rest)
    | other => (false, other)
  if (digits.head?.map Char.isDigit).getD false then
    let (magnitude, behind) := constantAt digits
    let value := if isNegative then -Int.ofNat magnitude else Int.ofNat magnitude
    if behind.all isSpace && least ≤ value && value ≤ greatest then some value else none
  else if trimmed.isEmpty then some 0
  else none

def decimalInteger? (text : Octets) : Option Int :=
  let (isNegative, rest) := match text.dropWhile isSpace with
    | '-' :: rest => (true, rest)
    | '+' :: rest => (false, rest)
    | other => (false, other)
  let digits := rest.takeWhile Char.isDigit
  let value := if isNegative then -Int.ofNat (decimal digits) else Int.ofNat (decimal digits)
  if !digits.isEmpty && (rest.drop digits.length).all isSpace && least ≤ value && value ≤ greatest then
    some value
  else none

/-! ### Reading -/

def skipSpace (text : Octets) : Octets :=
  text.dropWhile fun c => c == ' ' || c == '\t' || c == '\n'

def assignedName? (text : Octets) : Option (Octets × Option Operation × Octets) :=
  if (text.head?.map startsName).getD false then
    let name := text.takeWhile continuesName
    (assignmentAt? (skipSpace (text.drop name.length))).map fun (operation, rest) => (name, operation, rest)
  else none

mutual

def readExpression : Nat → Octets → Except ArithmeticError (Expression × Octets)
  | 0, _ => .error (.expecting "primary")
  | fuel + 1, text =>
      match assignedName? (skipSpace text) with
      | some (name, operation, rest) => do
          let (value, rest) ← readExpression fuel rest
          return (.assign name operation value, rest)
      | none => readCondition fuel text

def readCondition : Nat → Octets → Except ArithmeticError (Expression × Octets)
  | 0, _ => .error (.expecting "primary")
  | fuel + 1, text => do
      let (condition, rest) ← readJoined 1 fuel text
      match skipSpace rest with
      | '?' :: after =>
          let (accepted, rest) ← readExpression fuel after
          match skipSpace rest with
          | ':' :: after =>
              let (rejected, rest) ← readCondition fuel after
              return (.choice condition accepted rejected, rest)
          | _ => throw (.expecting "':'")
      | _ => return (condition, rest)

def readJoined (level : Nat) : Nat → Octets → Except ArithmeticError (Expression × Octets)
  | 0, _ => .error (.expecting "primary")
  | fuel + 1, text => do
      let (left, rest) ← readOperand fuel text
      readJoints level fuel left rest

def readJoints (level : Nat) : Nat → Expression → Octets → Except ArithmeticError (Expression × Octets)
  | 0, _, _ => .error (.expecting "primary")
  | fuel + 1, left, text =>
      match jointAt? (skipSpace text) with
      | none => .ok (left, text)
      | some ((tightness, joint), rest) =>
          if tightness < level then .ok (left, text)
          else do
            let (right, rest) ← readJoined (tightness + 1) fuel rest
            let joined := match joint with
              | .both => Expression.both left right
              | .either => Expression.either left right
              | .operation operation => Expression.binary operation left right
            readJoints level fuel joined rest

def readOperand : Nat → Octets → Except ArithmeticError (Expression × Octets)
  | 0, _ => .error (.expecting "primary")
  | fuel + 1, text =>
      match skipSpace text with
      | '+' :: rest => readOperand fuel rest
      | '-' :: rest => do
          let (operand, rest) ← readOperand fuel rest
          return (.negative operand, rest)
      | '!' :: rest => do
          let (operand, rest) ← readOperand fuel rest
          return (.isZero operand, rest)
      | '~' :: rest => do
          let (operand, rest) ← readOperand fuel rest
          return (.complement operand, rest)
      | '(' :: rest => do
          let (inner, rest) ← readExpression fuel rest
          match skipSpace rest with
          | ')' :: after => return (inner, after)
          | _ => throw (.expecting "')'")
      | [] => .error (.expecting "primary")
      | c :: rest =>
          if startsName c then
            let name := (c :: rest).takeWhile continuesName
            .ok (.named name, (c :: rest).drop name.length)
          else if c.isDigit then
            let (value, behind) := constantAt (c :: rest)
            .ok (.number (min (Int.ofNat value) greatest), behind)
          else .error (.expecting "primary")

end

/-! ### Values -/

def wrap (value : Int) : Int := Int.bmod value (Nat.pow 2 64)

def truth (isTrue : Bool) : Int := if isTrue then 1 else 0

def unsigned (value : Int) : Nat := (value % Int.ofNat (Nat.pow 2 64)).toNat

def Operation.apply (operation : Operation) (left right : Int) : Except ArithmeticError Int :=
  match operation with
  | .add => .ok (wrap (left + right))
  | .sub => .ok (wrap (left - right))
  | .mul => .ok (wrap (left * right))
  | .div => if right = 0 then .error .divisionByZero else .ok (wrap (left.tdiv right))
  | .rem => if right = 0 then .error .divisionByZero else .ok (wrap (left.tmod right))
  | .shiftLeft => .ok (wrap (left * Int.ofNat (Nat.pow 2 (unsigned right % 64))))
  | .shiftRight => .ok (left / Int.ofNat (Nat.pow 2 (unsigned right % 64)))
  | .less => .ok (truth (left < right))
  | .lessEq => .ok (truth (left ≤ right))
  | .greater => .ok (truth (left > right))
  | .greaterEq => .ok (truth (left ≥ right))
  | .equal => .ok (truth (left == right))
  | .different => .ok (truth (left != right))
  | .bitAnd => .ok (wrap (Int.ofNat (unsigned left &&& unsigned right)))
  | .bitXor => .ok (wrap (Int.ofNat (unsigned left ^^^ unsigned right)))
  | .bitOr => .ok (wrap (Int.ofNat (unsigned left ||| unsigned right)))

def valueOf (name : Octets) (bindings : Bindings) : Except ArithmeticError Int :=
  let text := (bindings.get? name).getD []
  match integer? text with
  | some value => .ok value
  | none => .error (.notNumber text)

def Expression.evaluate : Expression → Bindings → Except ArithmeticError (Int × Bindings)
  | .number value, bindings => .ok (value, bindings)
  | .named name, bindings => do return (← valueOf name bindings, bindings)
  | .negative operand, bindings => do
      let (value, bindings) ← operand.evaluate bindings
      return (wrap (-value), bindings)
  | .isZero operand, bindings => do
      let (value, bindings) ← operand.evaluate bindings
      return (truth (value == 0), bindings)
  | .complement operand, bindings => do
      let (value, bindings) ← operand.evaluate bindings
      return (wrap (-value - 1), bindings)
  | .binary operation left right, bindings => do
      let (first, bindings) ← left.evaluate bindings
      let (second, bindings) ← right.evaluate bindings
      return (← operation.apply first second, bindings)
  | .both left right, bindings => do
      let (first, bindings) ← left.evaluate bindings
      if first == 0 then return (0, bindings)
      let (second, bindings) ← right.evaluate bindings
      return (truth (second != 0), bindings)
  | .either left right, bindings => do
      let (first, bindings) ← left.evaluate bindings
      if first != 0 then return (1, bindings)
      let (second, bindings) ← right.evaluate bindings
      return (truth (second != 0), bindings)
  | .choice condition accepted rejected, bindings => do
      let (value, bindings) ← condition.evaluate bindings
      if value != 0 then accepted.evaluate bindings else rejected.evaluate bindings
  | .assign name operation value, bindings => do
      let (second, bindings) ← value.evaluate bindings
      let result ← match operation with
        | none => pure second
        | some operation => operation.apply (← valueOf name bindings) second
      if bindings.isReadOnly name then throw (.readOnly name)
      return (result, bindings.set name (intText result))

def evaluateText (text : Octets) (bindings : Bindings) : Except ArithmeticError (Int × Bindings) := do
  let (expression, rest) ← readExpression (16 * text.length + 64) text
  if (skipSpace rest).isEmpty then expression.evaluate bindings else throw (.expecting "EOF")

def ArithmeticError.message (text : Octets) : ArithmeticError → Octets
  | .expecting what => ("arithmetic expression: expecting " ++ what ++ ": \"").toList ++ text ++ ['"']
  | .divisionByZero => "arithmetic expression: division by zero: \"".toList ++ text ++ ['"']
  | .notNumber value => "Illegal number: ".toList ++ value
  | .readOnly name => name ++ ": is read only".toList

end TemplateLint.Machine.Shell
