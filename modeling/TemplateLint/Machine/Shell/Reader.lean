import TemplateLint.Machine.Shell.Token

set_option autoImplicit false

/-!
Reading scripts.

A script is read one line at a time, and a line may go on over several lines of text when a command is not
complete.  Every reader returns what it has read with the cursor behind it, or the reason why the text is not
well formed.  The readers call each other, so each has a bound on the depth of calls; the bound of
`readLine` is larger than any depth that its text can cause.
-/

namespace TemplateLint.Machine.Shell

/-! ### Words -/

inductive Setting where
  | bare
  | final
  | double
  | brace (isQuoted : Bool)
  | sum (depth : Nat)
  | document
deriving DecidableEq, Repr

def Setting.isQuoted : Setting → Bool
  | .bare | .final => false
  | .brace isQuoted => isQuoted
  | _ => true

def Setting.stopsAt (setting : Setting) (c : Char) : Bool :=
  isActive c ||
    match setting with
    | .bare | .final => endsWord c
    | .brace _ => c == closeBrace
    | .sum _ => c == '(' || c == ')'
    | _ => false

def Setting.complaint? : Setting → Option String
  | .bare | .final | .document => none
  | .double | .brace true => some "Unterminated quoted string"
  | .brace false => some ("Missing '" ++ String.singleton closeBrace ++ "'")
  | .sum _ => some "Missing '))'"

def Setting.quotes (setting : Setting) (c : Char) : Bool :=
  c == '$' || c == backQuote || c == backslash ||
    match setting with
    | .double | .sum _ => c == '"'
    | .brace true => c == '"' || c == closeBrace
    | _ => false

/-- Text behind pieces of a word, the last piece first; plain text is joined to plain text. -/
def addText (isQuoted : Bool) (text : Octets) : List Piece → List Piece
  | .text otherQuoted before :: rest =>
      if isQuoted = otherQuoted then .text isQuoted (before ++ text) :: rest
      else .text isQuoted text :: .text otherQuoted before :: rest
  | rest => .text isQuoted text :: rest

/-- The text of a command in back quotes, with the number of characters up to the closing one. -/
def untilBackQuote (isQuoted : Bool) : Octets → Option (Octets × Nat)
  | [] => none
  | [c] => if c = backQuote then some ([], 1) else none
  | c :: d :: rest =>
      if c = backQuote then some ([], 1)
      else if c = backslash && d = '\n' then
        (untilBackQuote isQuoted rest).map fun (text, count) => (text, count + 2)
      else if c = backslash then
        let isEscape := d == backQuote || d == backslash || d == '$' || (isQuoted && d == '"')
        (untilBackQuote isQuoted rest).map fun (text, count) =>
          (if isEscape then d :: text else c :: d :: text, count + 2)
      else (untilBackQuote isQuoted (d :: rest)).map fun (text, count) => (c :: text, count + 1)

/-- The use that an operator asks for: whether an empty value counts as a missing one, and the length of the
operator.  An operator that is none is still passed. -/
def useOf : Octets → Use × Bool × Nat
  | ':' :: '-' :: _ => (.default, true, 2)
  | ':' :: '=' :: _ => (.assign, true, 2)
  | ':' :: '?' :: _ => (.require, true, 2)
  | ':' :: '+' :: _ => (.alternative, true, 2)
  | ':' :: _ :: _ => (.unknown, true, 2)
  | '-' :: _ => (.default, false, 1)
  | '=' :: _ => (.assign, false, 1)
  | '?' :: _ => (.require, false, 1)
  | '+' :: _ => (.alternative, false, 1)
  | '#' :: '#' :: _ => (.dropStart true, false, 2)
  | '#' :: _ => (.dropStart false, false, 1)
  | '%' :: '%' :: _ => (.dropEnd true, false, 2)
  | '%' :: _ => (.dropEnd false, false, 1)
  | text => (.unknown, false, if text.isEmpty then 0 else 1)

def Use.takesPattern : Use → Bool
  | .dropStart _ | .dropEnd _ => true
  | _ => false

/-- The name of a parameter at the start of a text in braces; empty when there is none. -/
def parameterName (text : Octets) : Octets :=
  match text with
  | [] => []
  | c :: _ =>
      if startsName c then text.takeWhile continuesName
      else if c.isDigit then text.takeWhile Char.isDigit
      else if isSpecialParameter c then [c]
      else []

/-- The parameter whose length is asked for, at the start of a text behind the sign for it.  The sign can also
be the name of a parameter. -/
def lengthName? (text : Octets) : Option Octets :=
  match text with
  | c :: d :: _ =>
      if continuesName c then some (parameterName text)
      else if c != closeBrace && d == closeBrace && isSpecialParameter c then some [c]
      else none
  | _ => none

structure Attention where
  skipsLines : Bool
  seesReserved : Bool
  seesAliases : Bool

def Attention.plain : Attention := ⟨false, false, false⟩

def Attention.sameLine : Attention := ⟨false, true, true⟩

def Attention.laterLine : Attention := ⟨true, true, true⟩

/-- The operator of a redirection at a cursor, with its own descriptor and the length of its text. -/
def redirectionAt? (text : Octets) : Option (RedirectionKind × Nat × Bool × Nat) :=
  match text with
  | '>' :: '>' :: _ => some (.append, 1, false, 2)
  | '>' :: '&' :: _ => some (.duplicate, 1, false, 2)
  | '>' :: '|' :: _ => some (.replace, 1, false, 2)
  | '>' :: _ => some (.write, 1, false, 1)
  | '<' :: '<' :: '-' :: _ => some (.hereText, 0, true, 3)
  | '<' :: '<' :: _ => some (.hereText, 0, false, 2)
  | '<' :: '&' :: _ => some (.duplicate, 0, false, 2)
  | '<' :: '>' :: _ => some (.both, 0, false, 2)
  | '<' :: _ => some (.read, 0, false, 1)
  | _ => none

/-- The descriptor that a word in front of a redirection names; an empty word names none of its own. -/
def descriptorIn? (word : Word) (default : Nat) : Option Nat :=
  match word with
  | [] => some default
  | [.text false [c]] => if c.isDigit then some (digitValue c) else none
  | _ => none

def specialNames : List String :=
  [".", ":", "break", "continue", "eval", "exec", "exit", "export", "readonly", "return", "set", "shift",
    "times", "trap", "unset"]

inductive ListKind where
  | line
  | body
  | branch
deriving DecidableEq, Repr

def commandOf : List Command → Command
  | [only] => only
  | commands => .sequence commands

def allParameters : Word := [.parameter true ['@'] .plain false []]

/-- The pieces of a quotation, which starts with an empty text so that it makes a field.  All parameters alone
make as many fields as there are parameters, which may be none. -/
def quotedWord (word : Word) : Word :=
  match word with
  | [.text true [], .parameter true ['@'] .plain false []] => allParameters
  | _ => word

mutual

/-- Reads pieces up to where their setting ends; those before are given with the last one first. -/
def readPieces : Nat → Setting → List Piece → Cursor → Except SyntaxError (Word × Cursor)
  | 0, _, _, cursor => cursor.fail "too deep"
  | fuel + 1, setting, done, cursor =>
      let isQuoted := setting.isQuoted
      let plain := cursor.rest.takeWhile fun c => !setting.stopsAt c
      let goOn := fun (text : Octets) (count : Nat) =>
        readPieces fuel setting (addText isQuoted text done) (cursor.advance count)
      if !plain.isEmpty then goOn plain plain.length
      else
        match cursor.rest with
        | [] =>
            match setting.complaint? with
            | none => .ok (done.reverse, cursor)
            | some complaint => cursor.fail complaint
        | c :: rest =>
            if c = backslash then
              match rest with
              | [] => readPieces fuel setting (addText true [c] done) (cursor.advance 1)
              | d :: _ =>
                  if d = '\n' then readPieces fuel setting done (cursor.advance 2)
                  else
                    let text := if isQuoted && !setting.quotes d then [c, d] else [d]
                    readPieces fuel setting (addText true text done) (cursor.advance 2)
            else if c = '$' then
              if setting = .final then goOn [c] 1
              else do
                let (piece, cursor) ← readDollar fuel isQuoted (cursor.advance 1).join
                let done := match piece with
                  | none => addText isQuoted ['$'] done
                  | some piece => piece :: done
                readPieces fuel setting done cursor
            else if c = backQuote then
              match untilBackQuote isQuoted rest with
              | none =>
                  let atEnd := cursor.advance cursor.rest.length
                  atEnd.fail "EOF in backquote substitution"
              | some (text, count) => do
                  let (commands, _) ← readItems fuel .branch [] (Cursor.start text 1 cursor.aliases)
                  readPieces fuel setting (.substitution isQuoted (commandOf commands) :: done)
                    (cursor.advance (count + 1))
            else if c = '"' then
              match setting with
              | .double => .ok (done.reverse, cursor.advance 1)
              | .sum _ | .document => goOn [c] 1
              | _ => do
                  let (inner, cursor) ← readPieces fuel .double [.text true []] (cursor.advance 1)
                  readPieces fuel setting ((quotedWord inner).reverse ++ done) cursor
            else if c = '\'' then
              if isQuoted then goOn [c] 1
              else
                let text := rest.takeWhile (· != '\'')
                if text.length = rest.length then
                  (cursor.advance cursor.rest.length).fail "Unterminated quoted string"
                else readPieces fuel setting (addText true text done) (cursor.advance (text.length + 2))
            else
              match setting with
              | .brace _ => .ok (done.reverse, cursor.advance 1)
              | .sum depth =>
                  if c = '(' then
                    readPieces fuel (.sum (depth + 1)) (addText true [c] done) (cursor.advance 1)
                  else
                    match depth, rest with
                    | 0, ')' :: _ => .ok (done.reverse, cursor.advance 2)
                    | 0, _ => goOn [c] 1
                    | outer + 1, _ =>
                        readPieces fuel (.sum outer) (addText true [c] done) (cursor.advance 1)
              | _ => .ok (done.reverse, cursor)

/-- Reads what stands behind a dollar sign; nothing is read when the sign stands for itself. -/
def readDollar : Nat → Bool → Cursor → Except SyntaxError (Option Piece × Cursor)
  | 0, _, cursor => cursor.fail "too deep"
  | fuel + 1, isQuoted, cursor =>
      match cursor.rest with
      | [] => .ok (none, cursor)
      | c :: _ =>
          if c = '(' then
            let inner := (cursor.advance 1).join
            match inner.rest with
            | '(' :: _ => do
                let (word, cursor) ← readPieces fuel (.sum 0) [] (inner.advance 1)
                return (some (.arithmetic isQuoted word), cursor)
            | _ => do
                let (commands, cursor) ← readItems fuel .branch [] inner
                let (token, cursor) ← readToken fuel .plain cursor
                if !token.is ")" then cursor.unexpected token (some (.sign ")"))
                else return (some (.substitution isQuoted (commandOf commands)), cursor)
          else if c = openBrace then readBraced fuel isQuoted (cursor.advance 1).join
          else if startsName c then
            let name := cursor.rest.takeWhile continuesName
            .ok (some (.parameter isQuoted name .plain false []), cursor.advance name.length)
          else if c.isDigit || isSpecialParameter c then
            .ok (some (.parameter isQuoted [c] .plain false []), cursor.advance 1)
          else .ok (none, cursor)

def readBraced : Nat → Bool → Cursor → Except SyntaxError (Option Piece × Cursor)
  | 0, _, cursor => cursor.fail "too deep"
  | fuel + 1, isQuoted, cursor =>
      let withWord := fun (name : Octets) (use : Use) (countsEmpty : Bool) (cursor : Cursor) => do
        let (word, cursor) ← readPieces fuel (.brace (isQuoted && !use.takesPattern)) [] cursor
        return (some (Piece.parameter isQuoted name use countsEmpty word), cursor)
      let length? := match cursor.rest with
        | '#' :: rest => lengthName? rest
        | _ => none
      match length? with
      | some name =>
          let behind := cursor.advance (1 + name.length)
          if behind.rest.head? = some closeBrace then
            .ok (some (.parameter isQuoted name .length false []), behind.advance 1)
          else withWord name .unknown false behind
      | none =>
          let name := parameterName cursor.rest
          let behind := (cursor.advance name.length).join
          if name.isEmpty then withWord name .unknown false behind
          else if behind.rest.head? = some closeBrace then
            .ok (some (.parameter isQuoted name .plain false []), behind.advance 1)
          else
            let (use, countsEmpty, count) := useOf behind.rest
            withWord name use countsEmpty (behind.advance count)

def readRaw : Nat → Cursor → Except SyntaxError (Token × Cursor)
  | 0, cursor => cursor.fail "too deep"
  | fuel + 1, cursor =>
      match cursor.rest with
      | [] => .ok (.final, cursor)
      | '\n' :: _ => .ok (.newline, cursor.advance 1)
      | _ =>
          match cursor.operator? with
          | some text => .ok (.sign text, cursor.advance text.length)
          | none => do
              let (word, behind) ← readPieces fuel .bare [] cursor
              match redirectionAt? behind.rest with
              | none => return (.word word, behind)
              | some (kind, descriptor, dropsTabs, count) =>
                  match descriptorIn? word descriptor with
                  | none => return (.word word, behind)
                  | some descriptor =>
                      return (.redirection descriptor kind dropsTabs, behind.advance count)

def readToken : Nat → Attention → Cursor → Except SyntaxError (Token × Cursor)
  | 0, _, cursor => cursor.fail "too deep"
  | fuel + 1, attention, cursor => do
      let (isAlias, token, cursor) ←
        match cursor.pushed with
        | some token => pure (false, token, { cursor with pushed := none })
        | none =>
            let (isAlias, cursor) := cursor.skip.release
            let (token, cursor) ← readRaw fuel cursor
            pure (isAlias, token, cursor)
      match token with
      | .newline =>
          if attention.skipsLines then readToken fuel attention cursor else return (token, cursor)
      | .word [.text false text] =>
          let reserved := String.ofList text
          if attention.seesReserved && reservedWords.contains reserved then return (.sign reserved, cursor)
          else if attention.seesAliases || isAlias then
            match cursor.enterAlias? text with
            | some cursor => readToken fuel { attention with seesAliases := true } cursor
            | none => return (token, cursor)
          else return (token, cursor)
      | other => return (other, cursor)

def readRedirection : Nat → Nat → RedirectionKind → Bool → Cursor →
    Except SyntaxError (Redirection × Cursor)
  | 0, _, _, _, cursor => cursor.fail "too deep"
  | fuel + 1, descriptor, .hereText, dropsTabs, cursor => do
      let cursor := cursor.skip
      let (word, cursor) ← readPieces fuel .final [] cursor
      if word.isEmpty then
        let (token, cursor) ← readToken fuel .plain cursor
        cursor.unexpected token none
      else
        let (text, behind) := cursor.takeDocument dropsTabs (plainText word)
        if hasQuotes word then return (.mk descriptor .hereText [.text true text], behind)
        else
          let (word, _) ← readPieces fuel .document [] (Cursor.start text (cursor.line + 1) cursor.aliases)
          return (.mk descriptor .hereText word, behind)
  | fuel + 1, descriptor, kind, _, cursor => do
      let (token, cursor) ← readToken fuel .plain cursor
      match token with
      | .word word => return (.mk descriptor kind word, cursor)
      | other => cursor.unexpected other none

/-- Reads the redirections behind a compound command; those before are given with the last one first. -/
def readRedirections : Nat → List Redirection → Cursor → Except SyntaxError (List Redirection × Cursor)
  | 0, _, cursor => cursor.fail "too deep"
  | fuel + 1, done, cursor => do
      let (token, cursor) ← readToken fuel .sameLine cursor
      match token with
      | .redirection descriptor kind dropsTabs =>
          let (redirection, cursor) ← readRedirection fuel descriptor kind dropsTabs cursor
          readRedirections fuel (redirection :: done) cursor
      | other => return (done.reverse, cursor.push other)

/-- Reads the parts of a simple command, or the definition of a function; the parts before are given with the
last one first. -/
def readSimple : Nat → Nat → List (Octets × Word) → List Word → List Redirection → Cursor →
    Except SyntaxError (Command × Cursor)
  | 0, _, _, _, _, cursor => cursor.fail "too deep"
  | fuel + 1, line, assignments, words, redirections, cursor => do
      let finish := fun (token : Token) (cursor : Cursor) =>
        ((.ok (.simple line assignments.reverse words.reverse redirections.reverse, cursor.push token)) :
          Except SyntaxError (Command × Cursor))
      let (token, cursor) ← readToken fuel ⟨false, false, words.isEmpty⟩ cursor
      match token with
      | .word word =>
          match if words.isEmpty then assignmentOf? word else none with
          | some assignment => readSimple fuel line (assignment :: assignments) words redirections cursor
          | none => readSimple fuel line assignments (word :: words) redirections cursor
      | .redirection descriptor kind dropsTabs =>
          let (redirection, cursor) ← readRedirection fuel descriptor kind dropsTabs cursor
          readSimple fuel line assignments words (redirection :: redirections) cursor
      | .sign "(" =>
          match assignments, words, redirections with
          | [], [word], [] =>
              let (token, cursor) ← readToken fuel .plain cursor
              if !token.is ")" then cursor.unexpected token (some (.sign ")"))
              else
                let name := plainText word
                let isGood := isName name && !hasQuotes word && word.length == 1 &&
                  !specialNames.contains (String.ofList name)
                if !isGood then cursor.fail "Bad function name"
                else
                  let (body, after) ← readCommand fuel .laterLine cursor
                  return (.definition name cursor.line body, after)
          | _, _, _ => finish token cursor
      | other => finish other cursor

def readWords : Nat → List Word → Cursor → Except SyntaxError (List Word × Token × Cursor)
  | 0, _, cursor => cursor.fail "too deep"
  | fuel + 1, done, cursor => do
      let (token, cursor) ← readToken fuel .plain cursor
      match token with
      | .word word => readWords fuel (word :: done) cursor
      | other => return (done.reverse, other, cursor)

/-- Reads the patterns of a branch, the first of which is given, up to the closing parenthesis. -/
def readPatterns : Nat → Token → Cursor → Except SyntaxError (List Word × Cursor)
  | 0, _, cursor => cursor.fail "too deep"
  | fuel + 1, first, cursor => do
      let word := match first with
        | .word word => word
        | .sign text => [.text false text.toList]
        | _ => []
      let (token, cursor) ← readToken fuel .plain cursor
      match token with
      | .sign "|" =>
          let (next, cursor) ← readToken fuel .plain cursor
          let (others, cursor) ← readPatterns fuel next cursor
          return (word :: others, cursor)
      | .sign ")" => return ([word], cursor)
      | other => cursor.unexpected other (some (.sign ")"))

def readBranches : Nat → List (List Word × Command) → Cursor →
    Except SyntaxError (List (List Word × Command) × Cursor)
  | 0, _, cursor => cursor.fail "too deep"
  | fuel + 1, done, cursor => do
      let (token, cursor) ← readToken fuel ⟨true, true, false⟩ cursor
      if token.is "esac" then return (done.reverse, cursor)
      else
        let (first, cursor) ←
          if token.is "(" then readToken fuel .plain cursor else pure (token, cursor)
        let (patterns, cursor) ← readPatterns fuel first cursor
        let (commands, cursor) ← readItems fuel .branch [] cursor
        let done := (patterns, commandOf commands) :: done
        let (token, cursor) ← readToken fuel ⟨true, true, false⟩ cursor
        match token with
        | .sign "esac" => return (done.reverse, cursor)
        | .sign ";;" => readBranches fuel done cursor
        | other => cursor.unexpected other (some (.sign ";;"))

def readBody : Nat → String → Cursor → Except SyntaxError (Command × Cursor)
  | 0, _, cursor => cursor.fail "too deep"
  | fuel + 1, closing, cursor => do
      let (commands, cursor) ← readItems fuel .body [] cursor
      let (token, cursor) ← readToken fuel .plain cursor
      if token.is closing then return (commandOf commands, cursor)
      else cursor.unexpected token (some (.sign closing))

def readConditional : Nat → Cursor → Except SyntaxError (Command × Cursor)
  | 0, cursor => cursor.fail "too deep"
  | fuel + 1, cursor => do
      let (condition, cursor) ← readBody fuel "then" cursor
      let (accepted, cursor) ← readItems fuel .body [] cursor
      let (token, cursor) ← readToken fuel .plain cursor
      match token with
      | .sign "elif" =>
          let (rejected, cursor) ← readConditional fuel cursor
          return (.conditional condition (commandOf accepted) (some rejected), cursor)
      | .sign "else" =>
          let (rejected, cursor) ← readBody fuel "fi" cursor
          return (.conditional condition (commandOf accepted) (some rejected), cursor)
      | .sign "fi" => return (.conditional condition (commandOf accepted) none, cursor)
      | other => cursor.unexpected other (some (.sign "fi"))

def readLoopBody : Nat → Cursor → Except SyntaxError (Command × Cursor)
  | 0, cursor => cursor.fail "too deep"
  | fuel + 1, cursor => do
      let (token, cursor) ← readToken fuel .laterLine cursor
      if token.is "do" then readBody fuel "done" cursor
      else cursor.unexpected token (some (.sign "do"))

def readEach : Nat → Nat → Cursor → Except SyntaxError (Command × Cursor)
  | 0, _, cursor => cursor.fail "too deep"
  | fuel + 1, line, cursor => do
      let (token, cursor) ← readToken fuel .plain cursor
      match token with
      | .word [.text false name] =>
          if !isName name then cursor.fail "Bad for loop variable"
          else
            let (token, cursor) ← readToken fuel .laterLine cursor
            if token.is "in" then
              let (words, token, cursor) ← readWords fuel [] cursor
              match token with
              | .newline | .sign ";" =>
                  let (body, cursor) ← readLoopBody fuel cursor
                  return (.each line name words body, cursor)
              | other => cursor.unexpected other none
            else
              let cursor := if token.is ";" then cursor else cursor.push token
              let (body, cursor) ← readLoopBody fuel cursor
              return (.each line name [allParameters] body, cursor)
      | _ => cursor.fail "Bad for loop variable"

def readChoice : Nat → Nat → Cursor → Except SyntaxError (Command × Cursor)
  | 0, _, cursor => cursor.fail "too deep"
  | fuel + 1, line, cursor => do
      let (token, cursor) ← readToken fuel .plain cursor
      match token with
      | .word subject =>
          let (token, cursor) ← readToken fuel .laterLine cursor
          if !token.is "in" then cursor.unexpected token (some (.sign "in"))
          else
            let (branches, cursor) ← readBranches fuel [] cursor
            return (.choice line subject branches, cursor)
      | other => cursor.unexpected other (some (.word []))

def readCommand : Nat → Attention → Cursor → Except SyntaxError (Command × Cursor)
  | 0, _, cursor => cursor.fail "too deep"
  | fuel + 1, attention, cursor => do
      let (token, cursor) ← readToken fuel attention cursor
      let line := cursor.line
      let compound : Option (Except SyntaxError (Command × Cursor)) :=
        match token with
        | .sign "if" => some (readConditional fuel cursor)
        | .sign "while" => some (do
            let (commands, cursor) ← readItems fuel .body [] cursor
            let (body, cursor) ← readLoopBody fuel cursor
            return (.loop false (commandOf commands) body, cursor))
        | .sign "until" => some (do
            let (commands, cursor) ← readItems fuel .body [] cursor
            let (body, cursor) ← readLoopBody fuel cursor
            return (.loop true (commandOf commands) body, cursor))
        | .sign "for" => some (readEach fuel line cursor)
        | .sign "case" => some (readChoice fuel line cursor)
        | .sign "(" => some (do
            let (body, cursor) ← readBody fuel ")" cursor
            return (.subshell line body, cursor))
        | .sign other =>
            if other = String.singleton openBrace then
              some (readBody fuel (String.singleton closeBrace) cursor)
            else none
        | _ => none
      match compound, token with
      | some result, _ =>
          let (command, cursor) ← result
          let (redirections, cursor) ← readRedirections fuel [] cursor
          return (if redirections.isEmpty then command else .redirected line command redirections, cursor)
      | none, .word _ | none, .redirection _ _ _ => readSimple fuel line [] [] [] (cursor.push token)
      | none, other => cursor.unexpected other none

def readStages : Nat → Attention → List Command → Cursor → Except SyntaxError (Command × Cursor)
  | 0, _, _, cursor => cursor.fail "too deep"
  | fuel + 1, attention, done, cursor => do
      let (command, cursor) ← readCommand fuel attention cursor
      let (token, cursor) ← readToken fuel .plain cursor
      if token.is "|" then readStages fuel .laterLine (command :: done) cursor
      else
        return (if done.isEmpty then command else .pipeline (command :: done).reverse, cursor.push token)

def readPipeline : Nat → Attention → Cursor → Except SyntaxError (Command × Cursor)
  | 0, _, cursor => cursor.fail "too deep"
  | fuel + 1, attention, cursor => do
      let (token, cursor) ← readToken fuel attention cursor
      if token.is "!" then
        let (body, cursor) ← readStages fuel .sameLine [] cursor
        return (.negation body, cursor)
      else readStages fuel .plain [] (cursor.push token)

def readChain : Nat → Command → Cursor → Except SyntaxError (Command × Cursor)
  | 0, _, cursor => cursor.fail "too deep"
  | fuel + 1, first, cursor => do
      let (token, cursor) ← readToken fuel .plain cursor
      match token with
      | .sign "&&" =>
          let (second, cursor) ← readPipeline fuel .laterLine cursor
          readChain fuel (.both first second) cursor
      | .sign "||" =>
          let (second, cursor) ← readPipeline fuel .laterLine cursor
          readChain fuel (.either first second) cursor
      | other => return (first, cursor.push other)

/-- Reads the commands of a list; those before are given with the last one first. -/
def readItems : Nat → ListKind → List Command → Cursor → Except SyntaxError (List Command × Cursor)
  | 0, _, _, cursor => cursor.fail "too deep"
  | fuel + 1, kind, done, cursor => do
      let isLine := kind == .line
      let (token, cursor) ← readToken fuel ⟨!isLine, true, true⟩ cursor
      let mayEnd := kind == .branch || (kind == .body && !done.isEmpty)
      match token with
      | .newline => return (done.reverse, cursor)
      | .final => return (done.reverse, cursor.push .final)
      | token =>
          if mayEnd && token.endsList then return (done.reverse, cursor.push token)
          else
            let (first, cursor) ← readPipeline fuel .plain (cursor.push token)
            let (command, cursor) ← readChain fuel first cursor
            let (token, cursor) ← readToken fuel .plain cursor
            match token with
            | .sign "&" => readItems fuel kind (.background command :: done) cursor
            | .sign ";" => readItems fuel kind (command :: done) cursor
            | .newline | .final => readItems fuel kind (command :: done) (cursor.push token)
            | other =>
                if isLine then cursor.unexpected other none
                else return ((command :: done).reverse, cursor.push other)

end

/-- Reads the next line of a script, and all lines that its commands go on to; `none` at the end. -/
def readLine (cursor : Cursor) : Except SyntaxError (Option Command × Cursor) :=
  let aliasSize := cursor.aliases.foldl (fun size entry => size + entry.2.length + 2) 0
  match readItems (32 * (cursor.rest.length + 4) * (aliasSize + 1) + 64) .line [] cursor with
  | .error error => .error error
  | .ok ([], cursor) => .ok (none, cursor)
  | .ok (commands, cursor) => .ok (some (commandOf commands), cursor)

/-- The word that a text without quotes writes; none when it is not well formed. -/
def readUnquoted? (text : Octets) : Option Word :=
  match readPieces (32 * (text.length + 4)) .document [] (Cursor.start text 1 []) with
  | .ok (word, _) => some word
  | .error _ => none

end TemplateLint.Machine.Shell
