import TemplateLint.Machine.Utility.Awk.Token

set_option autoImplicit false

/-!
How programs of patterns and actions are read from their tokens.
-/

namespace TemplateLint.Machine.Utility.Awk

abbrev Read (α : Type) := Except Fault (α × List Placed)

def peek (tokens : List Placed) : Token := (tokens.head?.map Placed.token).getD .final

def peekSecond (tokens : List Placed) : Token := (tokens[1]?.map Placed.token).getD .final

def unexpected {α : Type} (tokens : List Placed) : Except Fault α :=
  let line := (tokens.head?.map Placed.line).getD 1
  let near : Octets := match peek tokens with
    | .final => "near end of file".toList
    | token => "at or near ".toList ++ token.shown
  .error ⟨line, "syntax error ".toList ++ near⟩

def expect (sign : String) (tokens : List Placed) : Except Fault (List Placed) :=
  if (peek tokens).is sign then .ok (tokens.drop 1)
  else
    let line := (tokens.head?.map Placed.line).getD 1
    let near := match peek tokens with
      | .final => "end of file".toList
      | token => token.shown
    if sign = ")" || sign = "\x7d" then .error ⟨line, ("missing " ++ sign ++ " near ").toList ++ near⟩
    else unexpected tokens

def skipLines (tokens : List Placed) : List Placed :=
  tokens.dropWhile fun placed => match placed.token with
    | .newline => true
    | _ => false

def skipEnds (tokens : List Placed) : List Placed :=
  tokens.dropWhile fun placed => match placed.token with
    | .newline => true
    | token => token.is ";"

def isTarget : Expression → Bool
  | .name _ | .element _ _ | .field _ => true
  | _ => false

def assignment? (token : Token) : Option (Option Operator) :=
  match token with
  | .sign "=" => some none
  | .sign "+=" => some (some .add)
  | .sign "-=" => some (some .subtract)
  | .sign "*=" => some (some .multiply)
  | .sign "/=" => some (some .divide)
  | .sign "%=" => some (some .remainder)
  | .sign "^=" | .sign "**=" => some (some .power)
  | _ => none

def relation? (token : Token) : Option Relation :=
  match token with
  | .sign "<" => some .less
  | .sign "<=" => some .lessEqual
  | .sign "==" => some .equal
  | .sign "!=" => some .notEqual
  | .sign ">" => some .greater
  | .sign ">=" => some .greaterEqual
  | _ => none

/-- True of the tokens with which an operand may start that is joined to what stands before it. -/
def startsOperand : Token → Bool
  | .number _ | .text _ | .pattern _ | .name _ | .function _ | .builtin _ => true
  | .sign sign => ["$", "!", "(", "-", "+", "++", "--"].contains sign
  | _ => false

structure Setting where
  isPrinted : Bool
  endsAtIn : Bool

def Setting.inner : Setting := ⟨false, false⟩

mutual

def readExpression : Nat → Setting → List Placed → Except Fault (Expression × List Placed)
  | 0, _, tokens => unexpected tokens
  | fuel + 1, setting, tokens => do
      let (left, rest) ← readChoice fuel setting tokens
      match assignment? (peek rest) with
      | some operator =>
          if isTarget left then do
            let (value, rest) ← readExpression fuel setting (skipLines (rest.drop 1))
            return (.assignment operator left value, rest)
          else unexpected rest
      | none => return (left, rest)

def readChoice : Nat → Setting → List Placed → Except Fault (Expression × List Placed)
  | 0, _, tokens => unexpected tokens
  | fuel + 1, setting, tokens => do
      let (condition, rest) ← readEither fuel setting tokens
      if (peek rest).is "?" then
        let (accepted, rest) ← readExpression fuel setting (skipLines (rest.drop 1))
        let rest ← expect ":" (skipLines rest)
        let (rejected, rest) ← readExpression fuel setting (skipLines rest)
        return (.choice condition accepted rejected, rest)
      else return (condition, rest)

def readEither : Nat → Setting → List Placed → Except Fault (Expression × List Placed)
  | 0, _, tokens => unexpected tokens
  | fuel + 1, setting, tokens => do
      let (left, rest) ← readBoth fuel setting tokens
      if (peek rest).is "||" then
        let (right, rest) ← readEither fuel setting (skipLines (rest.drop 1))
        return (.either left right, rest)
      else return (left, rest)

def readBoth : Nat → Setting → List Placed → Except Fault (Expression × List Placed)
  | 0, _, tokens => unexpected tokens
  | fuel + 1, setting, tokens => do
      let (left, rest) ← readMatching fuel setting tokens
      let (left, rest) ← readMembership fuel setting left rest
      if (peek rest).is "&&" then
        let (right, rest) ← readBoth fuel setting (skipLines (rest.drop 1))
        return (.both left right, rest)
      else return (left, rest)

def readMembership : Nat → Setting → Expression → List Placed → Except Fault (Expression × List Placed)
  | 0, _, left, tokens => .ok (left, tokens)
  | fuel + 1, setting, left, tokens =>
      if (peek tokens).isWord "in" && !setting.endsAtIn then
        match peekSecond tokens with
        | .name array =>
            let indices := match left with
              | .several values => values
              | other => [other]
            readMembership fuel setting (.membership indices array) (tokens.drop 2)
        | _ => unexpected (tokens.drop 1)
      else .ok (left, tokens)

def readMatching : Nat → Setting → List Placed → Except Fault (Expression × List Placed)
  | 0, _, tokens => unexpected tokens
  | fuel + 1, setting, tokens => do
      let (left, rest) ← readComparison fuel setting tokens
      readMatches fuel setting left rest

def readMatches : Nat → Setting → Expression → List Placed → Except Fault (Expression × List Placed)
  | 0, _, left, tokens => .ok (left, tokens)
  | fuel + 1, setting, left, tokens =>
      let isNegated := (peek tokens).is "!~"
      if isNegated || (peek tokens).is "~" then do
        let (right, rest) ← readComparison fuel setting (tokens.drop 1)
        readMatches fuel setting (.matching isNegated left right) rest
      else .ok (left, tokens)

def readComparison : Nat → Setting → List Placed → Except Fault (Expression × List Placed)
  | 0, _, tokens => unexpected tokens
  | fuel + 1, setting, tokens => do
      let (left, rest) ← readJoined fuel setting tokens
      let (left, rest) ← readCommands fuel left rest
      match relation? (peek rest) with
      | some relation =>
          if relation == .greater && setting.isPrinted then return (left, rest)
          else
            let (right, rest) ← readJoined fuel setting (rest.drop 1)
            return (.comparison relation left right, rest)
      | none => return (left, rest)

def readCommands : Nat → Expression → List Placed → Except Fault (Expression × List Placed)
  | 0, command, tokens => .ok (command, tokens)
  | fuel + 1, command, tokens =>
      if (peek tokens).is "|" && (peekSecond tokens).isWord "getline" then do
        let (target, rest) ← readTarget fuel (tokens.drop 2)
        readCommands fuel (.record none (some command) target) rest
      else .ok (command, tokens)

def readJoined : Nat → Setting → List Placed → Except Fault (Expression × List Placed)
  | 0, _, tokens => unexpected tokens
  | fuel + 1, setting, tokens => do
      let (left, rest) ← readSum fuel setting tokens
      joinOperands fuel setting left rest

def joinOperands : Nat → Setting → Expression → List Placed → Except Fault (Expression × List Placed)
  | 0, _, left, tokens => .ok (left, tokens)
  | fuel + 1, setting, left, tokens =>
      let token := peek tokens
      if startsOperand token && !token.is "+" && !token.is "-" && !token.is "!" then do
        let (right, rest) ← readSum fuel setting tokens
        joinOperands fuel setting (.joined left right) rest
      else .ok (left, tokens)

def readSum : Nat → Setting → List Placed → Except Fault (Expression × List Placed)
  | 0, _, tokens => unexpected tokens
  | fuel + 1, setting, tokens => do
      let (left, rest) ← readProduct fuel setting tokens
      addTerms fuel setting left rest

def addTerms : Nat → Setting → Expression → List Placed → Except Fault (Expression × List Placed)
  | 0, _, left, tokens => .ok (left, tokens)
  | fuel + 1, setting, left, tokens =>
      let isAdd := (peek tokens).is "+"
      if isAdd || (peek tokens).is "-" then do
        let (right, rest) ← readProduct fuel setting (tokens.drop 1)
        addTerms fuel setting (.arithmetic (if isAdd then .add else .subtract) left right) rest
      else .ok (left, tokens)

def readProduct : Nat → Setting → List Placed → Except Fault (Expression × List Placed)
  | 0, _, tokens => unexpected tokens
  | fuel + 1, setting, tokens => do
      let (left, rest) ← readUnary fuel setting tokens
      multiplyFactors fuel setting left rest

def multiplyFactors : Nat → Setting → Expression → List Placed → Except Fault (Expression × List Placed)
  | 0, _, left, tokens => .ok (left, tokens)
  | fuel + 1, setting, left, tokens =>
      let operator? : Option Operator := match peek tokens with
        | .sign "*" => some .multiply
        | .sign "/" => some .divide
        | .sign "%" => some .remainder
        | _ => none
      match operator? with
      | some operator => do
          let (right, rest) ← readUnary fuel setting (tokens.drop 1)
          multiplyFactors fuel setting (.arithmetic operator left right) rest
      | none => .ok (left, tokens)

def readUnary : Nat → Setting → List Placed → Except Fault (Expression × List Placed)
  | 0, _, tokens => unexpected tokens
  | fuel + 1, setting, tokens =>
      let inside := fun (make : Expression → Expression) => do
        let (body, rest) ← readUnary fuel setting (tokens.drop 1)
        return (make body, rest)
      match peek tokens with
      | .sign "!" => inside .negation
      | .sign "-" => inside .opposite
      | .sign "+" => inside .numeric
      | _ => readPower fuel setting tokens

def readPower : Nat → Setting → List Placed → Except Fault (Expression × List Placed)
  | 0, _, tokens => unexpected tokens
  | fuel + 1, setting, tokens => do
      let (base, rest) ← readStepped fuel setting tokens
      if (peek rest).is "^" || (peek rest).is "**" then
        let (exponent, rest) ← readUnary fuel setting (rest.drop 1)
        return (.arithmetic .power base exponent, rest)
      else return (base, rest)

def readStepped : Nat → Setting → List Placed → Except Fault (Expression × List Placed)
  | 0, _, tokens => unexpected tokens
  | fuel + 1, setting, tokens => do
      let (body, rest) ← readPrimary fuel setting tokens
      if isTarget body && (peek rest).is "++" then return (.step false true body, rest.drop 1)
      else if isTarget body && (peek rest).is "--" then return (.step false false body, rest.drop 1)
      else return (body, rest)

def readTarget : Nat → List Placed → Except Fault (Option Expression × List Placed)
  | 0, tokens => .ok (none, tokens)
  | fuel + 1, tokens =>
      let isStart := match peek tokens with
        | .name _ => true
        | .sign sign => sign == "$"
        | _ => false
      if isStart then do
        let (target, rest) ← readPrimary fuel .inner tokens
        return (some target, rest)
      else .ok (none, tokens)

def readPrimary : Nat → Setting → List Placed → Except Fault (Expression × List Placed)
  | 0, _, tokens => unexpected tokens
  | fuel + 1, setting, tokens =>
      let rest := tokens.drop 1
      match peek tokens with
      | .number value => .ok (.number value, rest)
      | .text value => .ok (.text value, rest)
      | .pattern body => .ok (.pattern (regularOf body), rest)
      | .sign "(" => do
          let (values, rest) ← readList fuel rest
          let rest ← expect ")" (skipLines rest)
          match values with
          | [value] => return (.several [value], rest)
          | values => return (.several values, rest)
      | .sign "$" => do
          let isUp := (peek rest).is "++"
          if isUp || (peek rest).is "--" then
            let (target, rest) ← readPrimary fuel setting (rest.drop 1)
            return (.field (.step true isUp target), rest)
          else if (peek rest).is "-" then
            let (index, rest) ← readPrimary fuel setting (rest.drop 1)
            return (.field (.opposite index), rest)
          else
            let (index, rest) ← readPrimary fuel setting rest
            return (.field index, rest)
      | .sign "++" => do
          let (target, rest) ← readPrimary fuel setting rest
          if isTarget target then return (.step true true target, rest) else unexpected tokens
      | .sign "--" => do
          let (target, rest) ← readPrimary fuel setting rest
          if isTarget target then return (.step true false target, rest) else unexpected tokens
      | .name name =>
          if (peek rest).is "[" then do
            let (indices, rest) ← readList fuel (rest.drop 1)
            let rest ← expect "]" rest
            return (.element name indices, rest)
          else .ok (.name name, rest)
      | .function name => do
          let (operands, rest) ← readOperands fuel (rest.drop 1)
          return (.call name operands, rest)
      | .builtin name =>
          if (peek rest).is "(" then do
            let (operands, rest) ← readOperands fuel (rest.drop 1)
            return (.builtin name operands, rest)
          else if name = "length" then .ok (.builtin name [], rest)
          else unexpected rest
      | .keyword "getline" => do
          let (target, rest) ← readTarget fuel rest
          if (peek rest).is "<" then
            let (file, rest) ← readPrimary fuel setting (rest.drop 1)
            return (.record (some file) none target, rest)
          else return (.record none none target, rest)
      | _ => unexpected tokens

def readOperands : Nat → List Placed → Except Fault (List Expression × List Placed)
  | 0, tokens => unexpected tokens
  | fuel + 1, tokens => do
      if (peek tokens).is ")" then return ([], tokens.drop 1)
      else
        let (values, rest) ← readList fuel tokens
        let rest ← expect ")" (skipLines rest)
        return (values, rest)

def readList : Nat → List Placed → Except Fault (List Expression × List Placed)
  | 0, tokens => unexpected tokens
  | fuel + 1, tokens => do
      let (first, rest) ← readExpression fuel .inner (skipLines tokens)
      if (peek rest).is "," then
        let (others, rest) ← readList fuel (rest.drop 1)
        return (first :: others, rest)
      else return ([first], rest)

end

def readPrinted : Nat → Nat → List Placed → Except Fault (List Expression × List Placed)
  | 0, _, tokens => unexpected tokens
  | fuel + 1, depth, tokens => do
      let (first, rest) ← readExpression depth ⟨true, false⟩ tokens
      if (peek rest).is "," then
        let (others, rest) ← readPrinted fuel depth (skipLines (rest.drop 1))
        return (first :: others, rest)
      else
        match first with
        | .several values => return (values, rest)
        | other => return ([other], rest)

def endsStatement : Token → Bool
  | .newline | .final => true
  | token => token.is ";" || token.is "\x7d"

def passEnd (tokens : List Placed) : Except Fault (List Placed) :=
  match peek tokens with
  | .newline => .ok (tokens.drop 1)
  | token =>
      if token.is ";" then .ok (tokens.drop 1)
      else if endsStatement token then .ok tokens
      else unexpected tokens

def readDestination (depth : Nat) (tokens : List Placed) : Except Fault (Destination × List Placed) := do
  let token := peek tokens
  if token.is ">" || token.is ">>" then
    let (path, rest) ← readJoined depth ⟨true, false⟩ (tokens.drop 1)
    return (.file (token.is ">>") path, rest)
  else if token.is "|" then
    let (command, rest) ← readJoined depth ⟨true, false⟩ (tokens.drop 1)
    return (.command command, rest)
  else return (.output, tokens)

def readSimple (depth : Nat) (tokens : List Placed) : Except Fault (Statement × List Placed) := do
  let rest := tokens.drop 1
  let optional := fun (make : Option Expression → Statement) => do
    if endsStatement (peek rest) then .ok (make none, rest)
    else
      let (value, rest) ← readExpression depth .inner rest
      .ok (make (some value), rest)
  match peek tokens with
  | .keyword "print" | .keyword "printf" => do
      let isPlain := (peek tokens).isWord "print"
      let isBare := endsStatement (peek rest) || (peek rest).is ">" || (peek rest).is ">>" || (peek rest).is "|"
      let (values, rest) ← if isBare then .ok ([], rest) else readPrinted depth depth rest
      if !isPlain && values.isEmpty then unexpected rest
      else
        let (destination, rest) ← readDestination depth rest
        return (if isPlain then .print values destination else .printFormat values destination, rest)
  | .keyword "next" => return (.next, rest)
  | .keyword "nextfile" => return (.nextFile, rest)
  | .keyword "exit" => optional .exit
  | .keyword "return" => optional .giveBack
  | .keyword "break" => return (.leave, rest)
  | .keyword "continue" => return (.again, rest)
  | .keyword "delete" =>
      match peek rest with
      | .name array =>
          let rest := rest.drop 1
          if (peek rest).is "[" then
            let (indices, rest) ← readList depth (rest.drop 1)
            let rest ← expect "]" rest
            return (.delete array indices, rest)
          else return (.delete array [], rest)
      | _ => unexpected rest
  | _ =>
      let (value, rest) ← readExpression depth .inner tokens
      return (.evaluate value, rest)

mutual

def readStatement (depth : Nat) : Nat → List Placed → Except Fault (Statement × List Placed)
  | 0, tokens => unexpected tokens
  | fuel + 1, tokens =>
      let rest := tokens.drop 1
      match peek tokens with
      | .sign "\x7b" => do
          let (body, rest) ← readBody depth fuel [] rest
          return (.block body, rest)
      | .sign ";" => .ok (.block [], rest)
      | .keyword "if" => do
          let rest ← expect "(" rest
          let (condition, rest) ← readExpression depth .inner rest
          let rest ← expect ")" rest
          let (accepted, rest) ← readStatement depth fuel (skipLines rest)
          let behind := skipEnds rest
          if (peek behind).isWord "else" then
            let (rejected, rest) ← readStatement depth fuel (skipLines (behind.drop 1))
            return (.conditional condition accepted (some rejected), rest)
          else return (.conditional condition accepted none, rest)
      | .keyword "while" => do
          let rest ← expect "(" rest
          let (condition, rest) ← readExpression depth .inner rest
          let rest ← expect ")" rest
          let (body, rest) ← readStatement depth fuel (skipLines rest)
          return (.whileLoop condition body, rest)
      | .keyword "do" => do
          let (body, rest) ← readStatement depth fuel (skipLines rest)
          let rest := skipEnds rest
          if !(peek rest).isWord "while" then unexpected rest
          else
            let rest ← expect "(" (rest.drop 1)
            let (condition, rest) ← readExpression depth .inner rest
            let rest ← expect ")" rest
            let rest ← passEnd rest
            return (.doLoop body condition, rest)
      | .keyword "for" => do
          let rest ← expect "(" rest
          match (rest.take 4).map Placed.token with
          | [.name name, .keyword "in", .name array, .sign ")"] =>
              let (body, rest) ← readStatement depth fuel (skipLines (rest.drop 4))
              return (.forEach name array body, rest)
          | _ =>
              let (first, rest) ← if (peek rest).is ";" then .ok (none, rest)
                else do
                  let (first, rest) ← readSimple depth rest
                  .ok (some first, rest)
              let rest ← expect ";" rest
              let rest := skipLines rest
              let (condition, rest) ← if (peek rest).is ";" then .ok (none, rest)
                else do
                  let (condition, rest) ← readExpression depth .inner rest
                  .ok (some condition, rest)
              let rest ← expect ";" rest
              let rest := skipLines rest
              let (step, rest) ← if (peek rest).is ")" then .ok (none, rest)
                else do
                  let (step, rest) ← readSimple depth rest
                  .ok (some step, rest)
              let rest ← expect ")" rest
              let (body, rest) ← readStatement depth fuel (skipLines rest)
              return (.forLoop first condition step body, rest)
      | _ => do
          let (statement, rest) ← readSimple depth tokens
          let rest ← passEnd rest
          return (statement, rest)

/-- Reads statements up to the closing brace; those before are given with the last one first. -/
def readBody (depth : Nat) : Nat → List Statement → List Placed → Except Fault (List Statement × List Placed)
  | 0, _, tokens => unexpected tokens
  | fuel + 1, done, tokens =>
      let tokens := skipEnds tokens
      match peek tokens with
      | .sign "\x7d" => .ok (done.reverse, tokens.drop 1)
      | .final => do
          let rest ← expect "\x7d" tokens
          return (done.reverse, rest)
      | _ => do
          let (statement, rest) ← readStatement depth fuel tokens
          readBody depth fuel (statement :: done) rest

end

def readParameters : Nat → List Placed → Except Fault (List Octets × List Placed)
  | 0, tokens => unexpected tokens
  | fuel + 1, tokens => do
      match peek tokens with
      | .sign ")" => return ([], tokens.drop 1)
      | .name name =>
          let rest := tokens.drop 1
          let rest := if (peek rest).is "," then skipLines (rest.drop 1) else rest
          let (others, rest) ← readParameters fuel rest
          return (name :: others, rest)
      | _ => unexpected tokens

def printRecord : Statement := .print [] .output

def readRuleAction (depth : Nat) (isNeeded : Bool) (tokens : List Placed) :
    Except Fault (Statement × List Placed) :=
  if (peek tokens).is "\x7b" then readStatement depth depth tokens
  else if isNeeded then unexpected tokens
  else
    match peek tokens with
    | .newline | .final => .ok (printRecord, tokens)
    | token => if token.is ";" then .ok (printRecord, tokens) else unexpected tokens

def readItems (depth : Nat) : Nat → Script → List Placed → Except Fault Script
  | 0, script, _ => .ok script
  | fuel + 1, script, tokens =>
      let tokens := skipEnds tokens
      let rest := tokens.drop 1
      let withRule := fun (trigger : Trigger) (action : Statement) (rest : List Placed) =>
        readItems depth fuel { script with rules := script.rules ++ [⟨trigger, action⟩] } rest
      match peek tokens with
      | .final => .ok script
      | .keyword "BEGIN" => do
          let (action, rest) ← readRuleAction depth true rest
          withRule .start action rest
      | .keyword "END" => do
          let (action, rest) ← readRuleAction depth true rest
          withRule .final action rest
      | .keyword "function" | .keyword "func" => do
          match peek rest with
          | .name name | .function name =>
              let rest ← expect "(" (rest.drop 1)
              let (parameters, rest) ← readParameters (rest.length + 1) rest
              let (body, rest) ← readRuleAction depth true (skipLines rest)
              readItems depth fuel { script with functions := script.functions ++ [⟨name, parameters, body⟩] } rest
          | _ => unexpected rest
      | .sign "\x7b" => do
          let (action, rest) ← readRuleAction depth true tokens
          withRule .always action rest
      | _ => do
          let (condition, rest) ← readExpression depth .inner tokens
          if (peek rest).is "," then
            let (last, rest) ← readExpression depth .inner (skipLines (rest.drop 1))
            let (action, rest) ← readRuleAction depth false rest
            withRule (.range condition last) action rest
          else
            let (action, rest) ← readRuleAction depth false rest
            withRule (.condition condition) action rest

def readScript (text : Octets) : Except Fault Script := do
  let tokens ← tokensOf text
  readItems (20 * tokens.length + 20) (tokens.length + 1) ⟨[], []⟩ tokens

end TemplateLint.Machine.Utility.Awk
