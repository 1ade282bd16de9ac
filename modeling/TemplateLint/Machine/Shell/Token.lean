import TemplateLint.Machine.Shell.Script

set_option autoImplicit false

/-!
Tokens of scripts, and the place up to which a script has been read.

A script is read on demand, because an alias that one line defines is known to the next one.
-/

namespace TemplateLint.Machine.Shell

/-! ### Characters -/

def endsWord (c : Char) : Bool :=
  c == ' ' || c == '\t' || c == '\n' || c == ';' || c == '&' || c == '|' || c == '<' || c == '>' ||
    c == '(' || c == ')'

def isActive (c : Char) : Bool :=
  c == backslash || c == backQuote || c == '"' || c == '\'' || c == '$'

def startsName (c : Char) : Bool := c.isAlpha || c == '_'

def continuesName (c : Char) : Bool := startsName c || c.isDigit

def isName (text : Octets) : Bool :=
  match text with
  | [] => false
  | c :: rest => startsName c && rest.all continuesName

def assignmentOf? (word : Word) : Option (Octets × Word) :=
  match word with
  | .text false text :: rest =>
      let name := text.takeWhile continuesName
      match text.drop name.length with
      | '=' :: value =>
          if isName name then
            some (name, if value.isEmpty then rest else .text false value :: rest)
          else none
      | _ => none
  | _ => none

def isSpecialParameter (c : Char) : Bool :=
  c == '@' || c == '*' || c == '#' || c == '?' || c == '-' || c == '$' || c == '!'

/-! ### Tokens -/

inductive Token where
  | word (word : Word)
  /-- The operator of a redirection; `dropsTabs` says that tabs in front of the lines of a text are dropped. -/
  | redirection (descriptor : Nat) (kind : RedirectionKind) (dropsTabs : Bool)
  | sign (text : String)
  | newline
  | final

def reservedWords : List String :=
  ["!", "case", "do", "done", "elif", "else", "esac", "fi", "for", "if", "in", "then", "until", "while",
    String.singleton openBrace, String.singleton closeBrace]

def Token.endsList : Token → Bool
  | .sign text =>
      [")", ";;", "do", "done", "elif", "else", "esac", "fi", "then", String.singleton closeBrace].contains text
  | .final => true
  | _ => false

def Token.name : Token → String
  | .word _ => "word"
  | .redirection _ _ _ => "redirection"
  | .sign text => "\"" ++ text ++ "\""
  | .newline => "newline"
  | .final => "end of file"

def Token.is (token : Token) (text : String) : Bool :=
  match token with
  | .sign other => other == text
  | _ => false

structure SyntaxError where
  line : Nat
  message : String
deriving DecidableEq, Repr

/-! ### The place in a script -/

structure AliasUse where
  name : Octets
  left : Nat
  endsBlank : Bool

structure Cursor where
  rest : Octets
  line : Nat
  /-- The number of lines behind the current one that have been taken out of the rest. -/
  taken : Nat
  pushed : Option Token
  uses : List AliasUse
  aliases : List (Octets × Octets)

namespace Cursor

def start (text : Octets) (line : Nat) (aliases : List (Octets × Octets)) : Cursor where
  rest := text
  line := line
  taken := 0
  pushed := none
  uses := []
  aliases := aliases

def advance (cursor : Cursor) (count : Nat) : Cursor :=
  let lines := (cursor.rest.take count).count '\n'
  { cursor with
    rest := cursor.rest.drop count
    line := cursor.line + lines + (if lines = 0 then 0 else cursor.taken)
    taken := if lines = 0 then cursor.taken else 0 }

def push (cursor : Cursor) (token : Token) : Cursor := { cursor with pushed := some token }

def joinWithin : Nat → Cursor → Cursor
  | 0, cursor => cursor
  | fuel + 1, cursor =>
      match cursor.rest with
      | c :: '\n' :: _ => if c = backslash then joinWithin fuel (cursor.advance 2) else cursor
      | _ => cursor

def join (cursor : Cursor) : Cursor := joinWithin cursor.rest.length cursor

/-- The cursor behind blanks, joined lines and a comment; at most `fuel` runs of them. -/
def skipWithin : Nat → Cursor → Cursor
  | 0, cursor => cursor
  | fuel + 1, cursor =>
      match cursor.rest with
      | [] => cursor
      | '#' :: rest => cursor.advance (1 + (rest.takeWhile (· != '\n')).length)
      | c :: rest =>
          if isSpaceOrTab c then
            skipWithin fuel (cursor.advance (1 + (rest.takeWhile isSpaceOrTab).length))
          else if c = backslash && rest.head? = some '\n' then skipWithin fuel (cursor.advance 2)
          else cursor

def skip (cursor : Cursor) : Cursor := skipWithin (cursor.rest.length + 1) cursor

/-- The cursor without the aliases whose text has been read, and whether the text of one ended with a blank. -/
def release (cursor : Cursor) : Bool × Cursor :=
  let isRead := fun (use : AliasUse) => cursor.rest.length < use.left
  (cursor.uses.any fun use => isRead use && use.endsBlank,
    { cursor with uses := cursor.uses.filter fun use => !isRead use })

/-- The cursor before the text of an alias; none when there is no such alias or its text is being read. -/
def enterAlias? (cursor : Cursor) (name : Octets) : Option Cursor :=
  if cursor.uses.any fun use => use.name == name then none
  else
    (cursor.aliases.find? fun entry => entry.1 == name).map fun (_, text) =>
      if text.isEmpty then cursor
      else
        { cursor with
          rest := text ++ cursor.rest
          uses := ⟨name, cursor.rest.length, (text.getLast?.map isSpaceOrTab).getD false⟩ :: cursor.uses }

def fail {α : Type} (cursor : Cursor) (message : String) : Except SyntaxError α :=
  .error ⟨cursor.line, message⟩

def unexpected {α : Type} (cursor : Cursor) (token : Token) (expected : Option Token) : Except SyntaxError α :=
  match expected with
  | none => cursor.fail (token.name ++ " unexpected")
  | some other => cursor.fail (token.name ++ " unexpected (expecting " ++ other.name ++ ")")

def operator? (cursor : Cursor) : Option String :=
  ["&&", "&", "||", "|", ";;", ";", "(", ")"].find? fun text => text.toList.isPrefixOf cursor.rest

end Cursor

/-- The lines before one that is equal to a given one, with the number of lines that were passed and the text
behind them; at most `fuel` lines. -/
def untilLine (dropsTabs : Bool) (final : Octets) : Nat → Octets → Octets × Nat × Octets
  | 0, text => ([], 0, text)
  | fuel + 1, text =>
      if text.isEmpty then ([], 0, [])
      else
        let whole := text.takeWhile (· != '\n')
        let line := if dropsTabs then whole.dropWhile (· == '\t') else whole
        let rest := text.drop (whole.length + 1)
        if line == final then ([], 1, rest)
        else if whole.length = text.length then (line, 0, [])
        else
          let (lines, count, rest) := untilLine dropsTabs final fuel rest
          (line ++ '\n' :: lines, count + 1, rest)

def Cursor.takeDocument (cursor : Cursor) (dropsTabs : Bool) (final : Octets) : Octets × Cursor :=
  let line := cursor.rest.takeWhile (· != '\n')
  let below := cursor.rest.drop (line.length + 1)
  let (text, count, behind) := untilLine dropsTabs final (below.length + 1) below
  let removed := below.length - behind.length
  (text,
    { cursor with
      rest := if cursor.rest.length = line.length then line else line ++ '\n' :: behind
      taken := cursor.taken + count
      uses := cursor.uses.map fun use => { use with left := use.left - removed } })

end TemplateLint.Machine.Shell
