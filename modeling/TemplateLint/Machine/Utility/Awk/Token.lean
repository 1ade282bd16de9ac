import TemplateLint.Machine.Real
import TemplateLint.Machine.Utility.Awk.Script

set_option autoImplicit false

/-!
The tokens of programs of patterns and actions.
-/

namespace TemplateLint.Machine.Utility.Awk

inductive Token where
  | number (value : Float)
  | text (value : Octets)
  | pattern (text : Octets)
  | name (name : Octets)
  | function (name : Octets)
  | keyword (word : String)
  | builtin (name : String)
  | sign (text : String)
  | newline
  | final

def Token.shown : Token → Octets
  | .number value => natText value.toUInt64.toNat
  | .text value => '"' :: value ++ ['"']
  | .pattern value => '/' :: value ++ ['/']
  | .name value | .function value => value
  | .keyword word | .builtin word | .sign word => word.toList
  | .newline => "end of line".toList
  | .final => "end of file".toList

def Token.is (token : Token) (text : String) : Bool :=
  match token with
  | .sign other => other == text
  | _ => false

def Token.isWord (token : Token) (text : String) : Bool :=
  match token with
  | .keyword other => other == text
  | _ => false

structure Placed where
  token : Token
  line : Nat

structure Fault where
  line : Nat
  message : Octets

def keywords : List String :=
  ["BEGIN", "END", "function", "func", "if", "else", "while", "for", "do", "break", "continue", "next", "nextfile",
    "exit", "return", "delete", "in", "getline", "print", "printf"]

def builtinNames : List String :=
  ["length", "substr", "index", "split", "sub", "gsub", "match", "sprintf", "sin", "cos", "atan2", "exp", "log",
    "sqrt", "int", "rand", "srand", "tolower", "toupper", "system", "close", "fflush", "systime"]

def signs : List String :=
  ["**=", "&&", "||", "==", "<=", ">=", "!=", "++", "--", "+=", "-=", "*=", "/=", "%=", "^=", "**", ">>", "!~",
    "\x7b", "\x7d", "(", ")", "[", "]", ";", ",", "+", "-", "*", "/", "%", "^", "!", ">", "<", "|", "?", ":", "~",
    "$", "="]

def Token.isOperand : Token → Bool
  | .number _ | .text _ | .name _ | .builtin _ | .pattern _ => true
  | .sign value => [")", "]", "$", "++", "--"].contains value
  | _ => false

def startsName (c : Char) : Bool := c.isAlpha || c == '_'

def continuesName (c : Char) : Bool := c.isAlphanum || c == '_'

def textEscape (text : Octets) : Octets × Octets :=
  match text with
  | [] => ([backslash], [])
  | c :: rest =>
      if isOctal c then
        let digits := (text.take 3).takeWhile isOctal
        ([Char.ofNat (numberIn 8 digits % 256)], text.drop digits.length)
      else if c = '"' || c = '/' || c = backslash then ([c], rest)
      else if c = '\n' then ([], rest)
      else if c = 'b' then ([Char.ofNat 8], rest)
      else
        match Regular.escaped? c with
        | some byte => ([byte], rest)
        | none => ([backslash, c], rest)

/-- The text up to the next double quote, with escapes replaced; at most `fuel` characters. -/
def readText : Nat → Octets → Option (Octets × Octets)
  | 0, _ => none
  | fuel + 1, text =>
      match text with
      | [] | '\n' :: _ => none
      | '"' :: rest => some ([], rest)
      | c :: rest =>
          let (first, behind) := if c = backslash then textEscape rest else ([c], rest)
          (readText fuel behind).map fun (others, rest) => (first ++ others, rest)

def readPattern : Nat → Bool → Octets → Option (Octets × Octets)
  | 0, _, _ => none
  | fuel + 1, isInside, text =>
      match text with
      | [] | '\n' :: _ => none
      | c :: rest =>
          if c = '/' && !isInside then some ([], rest)
          else if c = backslash then
            match rest with
            | [] => none
            | d :: behind =>
                (readPattern fuel isInside behind).map fun (others, rest) =>
                  (if d = '/' then (d :: others, rest) else (c :: d :: others, rest))
          else if c = '[' && !isInside then
            let lead := if rest.head? = some '^' then ['^'] else []
            let first := if (rest.drop lead.length).head? = some ']' then [']'] else []
            let taken := lead ++ first
            (readPattern fuel true (rest.drop taken.length)).map fun (others, rest) => (c :: taken ++ others, rest)
          else
            (readPattern fuel (isInside && c != ']') rest).map fun (others, rest) => (c :: others, rest)

def tokensWithin : Nat → Nat → Token → Octets → Except Fault (List Placed)
  | 0, line, _, _ => .ok [⟨.final, line⟩]
  | fuel + 1, line, before, text =>
      let goOn := fun (token : Token) (rest : Octets) =>
        (tokensWithin fuel line token rest).map fun others => ⟨token, line⟩ :: others
      match text with
      | [] => .ok [⟨.final, line⟩]
      | '\n' :: rest =>
          (tokensWithin fuel (line + 1) .newline rest).map fun others => ⟨.newline, line⟩ :: others
      | '#' :: rest => tokensWithin fuel line before (rest.dropWhile (· != '\n'))
      | c :: rest =>
          if c = ' ' || c = '\t' || c = '\r' then tokensWithin fuel line before rest
          else if c = backslash && rest.head? = some '\n' then tokensWithin fuel (line + 1) before (rest.drop 1)
          else if c = '"' then
            match readText (rest.length + 1) rest with
            | some (value, rest) => goOn (.text value) rest
            | none => .error ⟨line, "runaway string constant ".toList ++ text.takeWhile (· != '\n') ++ " ...".toList⟩
          else if c = '/' && !before.isOperand then
            match readPattern (rest.length + 1) false rest with
            | some (pattern, rest) => goOn (.pattern pattern) rest
            | none => .error ⟨line, "runaway regular expression /".toList ++
                rest.takeWhile (· != '\n') ++ " ...".toList⟩
          else if c.isDigit || (c = '.' && (rest.head?.map Char.isDigit).getD false) then
            match decimalAt? false text with
            | some (value, rest) => goOn (.number (Float.ofBits value.bits)) rest
            | none => .error ⟨line, "unexpected character".toList⟩
          else if startsName c then
            let name := text.takeWhile continuesName
            let rest := text.drop name.length
            let word := String.ofList name
            if keywords.contains word then goOn (.keyword word) rest
            else if builtinNames.contains word then goOn (.builtin word) rest
            else if rest.head? = some '(' then goOn (.function name) rest
            else goOn (.name name) rest
          else
            match signs.find? fun sign => sign.toList.isPrefixOf text with
            | some sign => goOn (.sign sign) (text.drop sign.length)
            | none => .error ⟨line, "unexpected character '".toList ++ [c, '\'']⟩

def tokensOf (text : Octets) : Except Fault (List Placed) :=
  tokensWithin (text.length + 1) 1 .newline text

end TemplateLint.Machine.Utility.Awk
