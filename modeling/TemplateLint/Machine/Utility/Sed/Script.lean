import TemplateLint.Machine.Regular

set_option autoImplicit false

/-!
Scripts that edit lines: commands with addresses, and how they are read.
-/

namespace TemplateLint.Machine.Utility.Sed

structure Pattern where
  regular : Option Regular
  groups : Nat
  foldsCase : Bool
  hasLines : Bool

inductive Address where
  | line (number : Nat)
  | last
  | pattern (pattern : Pattern)
  | step (first width : Nat)

inductive Ending where
  | address (address : Address)
  | more (count : Nat)
  | multiple (number : Nat)

inductive Extent where
  | all
  | one (address : Address)
  | range (first : Address) (ending : Ending)

inductive CaseChange where
  | upper
  | lower
  | upperNext
  | lowerNext
  | none
deriving DecidableEq, Repr

inductive Part where
  | text (text : Octets)
  | group (index : Nat)
  | change (change : CaseChange)

inductive Action where
  | substitute (pattern : Pattern) (replacement : List Part) (isGlobal : Bool) (index : Nat) (prints : Bool)
      (file : Option Octets)
  | transliterate (pairs : List (Char × Char))
  | delete
  | deleteFirst
  | print
  | printFirst
  | next
  | nextAppend
  | quit (isSilent : Bool) (status : Nat)
  | showNumber
  /-- Shows the line in signs that can all be seen, in rows of a width; zero stands for one row. -/
  | showPlain (width : Option Nat)
  | append (text : Octets)
  | insert (text : Octets)
  | change (text : Octets)
  | hold
  | holdAppend
  | get
  | getAppend
  | exchange
  | clear
  | label (name : Octets)
  | branch (name : Octets)
  | branchIf (isDone : Bool) (name : Octets)
  | readFile (path : Octets)
  | writeFile (path : Octets)
  | writeFirst (path : Octets)
  | showName
  | opening (behind : Nat)
  | closing

structure Command where
  extent : Extent
  isNegated : Bool
  action : Action

/-! ### Faults -/

inductive Fault where
  | before (left : Nat) (message : String)
  | whole (message : String)
  | pattern (message : String)

def Fault.message (length : Nat) : Fault → String
  | .before left message => s!"-e expression #1, char {length - left}: {message}"
  | .whole message => s!"-e expression #1, char 0: {message}"
  | .pattern message => message

def faultBefore {α : Type} (rest : Octets) (message : String) : Except Fault α :=
  .error (.before rest.length message)

/-! ### Reading -/

def isGap (c : Char) : Bool := isSpace c || c == ';'

/-- The text up to a mark that is not quoted, and the text behind the mark.  A quoted mark loses its backslash
unless it would mean something else without it; inside of brackets the mark does not count. -/
def untilMark (isPattern : Bool) (mark : Char) : Nat → Bool → Octets → Option (Octets × Octets)
  | 0, _, _ => none
  | fuel + 1, isInside, text =>
      match text with
      | [] => none
      | c :: rest =>
          if c = mark && !isInside then some ([], rest)
          else if c = backslash && !isInside then
            match rest with
            | [] => none
            | d :: behind =>
                let quoted : Octets :=
                  if d = mark then
                    if isPattern && "+?()^$*.[]|".toList.contains mark then
                      (if "+?()|".toList.contains mark then ['[', d, ']'] else [backslash, d])
                    else if isPattern && (mark == openBrace || mark == closeBrace) then ['[', d, ']']
                    else [d]
                  else if d = '\n' && !isPattern then [backslash, '\n']
                  else [backslash, d]
                (untilMark isPattern mark fuel false behind).map fun (text, rest) => (quoted ++ text, rest)
          else if isPattern && c == '[' && !isInside then
            let lead := if rest.head? = some '^' then ['^'] else []
            let behind := rest.drop lead.length
            let first := if behind.head? = some ']' then [']'] else []
            let behind := behind.drop first.length
            (untilMark isPattern mark fuel true behind).map fun (text, rest) => (c :: lead ++ first ++ text, rest)
          else if isInside && c == '[' && (rest.head?.map fun d => [':', '.', '='].contains d) == some true then
            let kind := rest.head?.getD ':'
            let name := (rest.drop 1).takeWhile (· != kind)
            let isClosed := (rest.drop (1 + name.length)).take 2 == [kind, ']']
            let taken := if isClosed then kind :: name ++ [kind, ']'] else []
            (untilMark isPattern mark fuel true (rest.drop taken.length)).map fun (text, rest) =>
              (c :: taken ++ text, rest)
          else
            (untilMark isPattern mark fuel (isInside && c != ']') rest).map fun (text, rest) => (c :: text, rest)

/-- The character that a number behind a letter writes, with the text behind it. -/
def numberedCharacter? (letter : Char) (text : Octets) : Option (Char × Octets) :=
  let read := fun (base width : Nat) (test : Char → Bool) =>
    let digits := (text.take width).takeWhile test
    if digits.isEmpty then none
    else some (Char.ofNat (numberIn base digits % 256), text.drop digits.length)
  match letter with
  | 'x' => read 16 2 isHex
  | 'o' => read 8 3 isOctal
  | 'd' => read 10 3 Char.isDigit
  | 'c' =>
      match text with
      | c :: rest => some (Char.ofNat ((c.toUpper.toNat + 64) % 128), rest)
      | [] => none
  | _ => none

/-- A text with characters in place of the numbers that write them; `quotes` are the characters that get a
backslash then. -/
def withCharacters (quotes : Octets) : Nat → Octets → Octets
  | 0, text => text
  | fuel + 1, text =>
      match text with
      | c :: d :: rest =>
          if c = backslash then
            match numberedCharacter? d rest with
            | some (e, behind) =>
                (if quotes.contains e then [backslash, e] else [e]) ++ withCharacters quotes fuel behind
            | none => c :: d :: withCharacters quotes fuel rest
          else c :: withCharacters quotes fuel (d :: rest)
      | short => short

def patternOf (isExtended : Bool) (text : Octets) (foldsCase hasLines : Bool) (rest : Octets) :
    Except Fault Pattern :=
  if text.isEmpty then .ok ⟨none, 9, foldsCase, hasLines⟩
  else
    let quotes := backslash :: openBrace :: closeBrace :: "^$*.[]+?()|/".toList
    let text := withCharacters quotes (text.length + 1) text
    match Regular.read ⟨isExtended, true, false, false⟩ text with
    | .ok (regular, groups) => .ok ⟨some regular, groups, foldsCase, hasLines⟩
    | .error message =>
        if message = Regular.bareClass then .error (.pattern message) else faultBefore rest message

def addressFlags (text : Octets) : Octets := text.takeWhile fun c => c == 'I' || c == 'M'

def readAddress (isExtended : Bool) (text : Octets) : Except Fault (Option Address × Octets) :=
  match text with
  | [] => .ok (none, [])
  | c :: rest =>
      if c = '$' then .ok (some .last, rest)
      else if c.isDigit then
        let digits := text.takeWhile Char.isDigit
        let behind := text.drop digits.length
        match behind with
        | '~' :: more =>
            let width := more.takeWhile Char.isDigit
            .ok (some (.step (decimal digits) (decimal width)), more.drop width.length)
        | _ => .ok (some (.line (decimal digits)), behind)
      else if c = '/' || c = backslash then
        let mark := if c = '/' then '/' else rest.head?.getD '/'
        let body := if c = '/' then rest else rest.drop 1
        match untilMark true mark (body.length + 1) false body with
        | none => faultBefore [] "unterminated address regex"
        | some (pattern, behind) => do
            let flags := addressFlags behind
            let behind := behind.drop flags.length
            let pattern ← patternOf isExtended pattern (flags.contains 'I') (flags.contains 'M')
              (behind.dropWhile isSpaceOrTab)
            return (some (.pattern pattern), behind)
      else .ok (none, text)

def readEnding (isExtended : Bool) (text : Octets) : Except Fault (Ending × Octets) :=
  let number := fun (rest : Octets) => rest.takeWhile Char.isDigit
  match text with
  | '+' :: c :: rest =>
      if c.isDigit then .ok (.more (decimal (number (c :: rest))), (c :: rest).dropWhile Char.isDigit)
      else faultBefore (c :: rest) "expected number"
  | '~' :: c :: rest =>
      if c.isDigit then .ok (.multiple (decimal (number (c :: rest))), (c :: rest).dropWhile Char.isDigit)
      else faultBefore (c :: rest) "expected number"
  | _ => do
      match ← readAddress isExtended text with
      | (some address, rest) => return (.address address, rest)
      | (none, _) => faultBefore (text.drop 1) "unexpected `,'"

def Extent.startsNowhere : Extent → Bool
  | .one (.line 0) => true
  | .range (.line 0) (.address (.pattern _)) => false
  | .range (.line 0) _ => true
  | _ => false

def readExtent (isExtended : Bool) (text : Octets) : Except Fault (Extent × Octets) := do
  let (first, rest) ← readAddress isExtended text
  match first with
  | none => return (.all, rest)
  | some first =>
      let rest := rest.dropWhile isSpaceOrTab
      let (extent, rest) ← match rest with
        | ',' :: behind => do
            let (ending, rest) ← readEnding isExtended (behind.dropWhile isSpaceOrTab)
            .ok (Extent.range first ending, rest)
        | _ => .ok (Extent.one first, rest)
      if extent.startsNowhere then
        faultBefore ((rest.dropWhile isSpaceOrTab).drop 1) "invalid usage of line address 0"
      else return (extent, rest)

def replacementParts : Nat → Octets → List Part
  | 0, _ => []
  | fuel + 1, text =>
      match text with
      | [] => []
      | '&' :: rest => .group 0 :: replacementParts fuel rest
      | c :: rest =>
          if c = backslash then
            match rest with
            | [] => [.text [backslash]]
            | d :: behind =>
                if d.isDigit then .group (digitValue d) :: replacementParts fuel behind
                else
                  match d with
                  | 'U' => .change .upper :: replacementParts fuel behind
                  | 'L' => .change .lower :: replacementParts fuel behind
                  | 'u' => .change .upperNext :: replacementParts fuel behind
                  | 'l' => .change .lowerNext :: replacementParts fuel behind
                  | 'E' => .change .none :: replacementParts fuel behind
                  | _ => .text [(Regular.escaped? d).getD d] :: replacementParts fuel behind
          else .text [c] :: replacementParts fuel rest

def readPath (text : Octets) : Except Fault (Octets × Octets) :=
  let line := text.takeWhile (· != '\n')
  let path := line.dropWhile isSpaceOrTab
  let rest := text.drop line.length
  if path.isEmpty then faultBefore rest "missing filename in r/R/w/W commands" else .ok (path, rest.drop 1)

/-- The flags of a replacement: everywhere, which one, printing, folding, lines, and a file. -/
structure Flags where
  isGlobal : Bool := false
  index : Option Nat := none
  prints : Bool := false
  foldsCase : Bool := false
  hasLines : Bool := false
  file : Option Octets := none

/-- The flags behind a replacement, with what ends them; at most `fuel` of them. -/
def readFlags : Nat → Flags → Octets → Except Fault (Flags × Octets)
  | 0, flags, text => .ok (flags, text)
  | fuel + 1, flags, text =>
      match text with
      | [] => .ok (flags, [])
      | c :: rest =>
          if c = 'g' then
            if flags.isGlobal then faultBefore rest "multiple `g' options to `s' command"
            else readFlags fuel { flags with isGlobal := true } rest
          else if c = 'p' then
            if flags.prints then faultBefore rest "multiple `p' options to `s' command"
            else readFlags fuel { flags with prints := true } rest
          else if c = 'i' || c = 'I' then readFlags fuel { flags with foldsCase := true } rest
          else if c = 'm' || c = 'M' then readFlags fuel { flags with hasLines := true } rest
          else if c.isDigit then
            let digits := text.takeWhile Char.isDigit
            let behind := text.drop digits.length
            if flags.index.isSome then faultBefore rest "multiple number options to `s' command"
            else if decimal digits = 0 then faultBefore behind "number option to `s' command may not be zero"
            else readFlags fuel { flags with index := some (decimal digits) } behind
          else if c = 'w' then do
            let (path, rest) ← readPath rest
            return ({ flags with file := some path }, rest)
          else if c = ' ' then readFlags fuel flags rest
          else if c = closeBrace || c = '#' then .ok (flags, text)
          else if c = ';' || c = '\n' then .ok (flags, rest)
          else faultBefore rest "unknown option to `s'"

def readSubstitute (isExtended : Bool) (text : Octets) : Except Fault (Action × Octets) :=
  let unended := faultBefore (α := Action × Octets) [] "unterminated `s' command"
  match text with
  | [] => unended
  | mark :: rest =>
      match untilMark true mark (rest.length + 1) false rest with
      | none => unended
      | some (pattern, rest) =>
          match untilMark false mark (rest.length + 1) false rest with
          | none => unended
          | some (replacement, rest) => do
              let (flags, rest) ← readFlags (rest.length + 1) {} rest
              let pattern ← patternOf isExtended pattern flags.foldsCase flags.hasLines rest
              let replacement := withCharacters [backslash, '&', '\n'] (replacement.length + 1) replacement
              let parts := replacementParts (replacement.length + 1) replacement
              let highest := parts.foldl (fun highest part => match part with
                | .group index => max highest index
                | _ => highest) 0
              if pattern.groups < highest then
                faultBefore rest s!"invalid reference \\{highest} on `s' command's RHS"
              else
                return (.substitute pattern parts flags.isGlobal (flags.index.getD 1) flags.prints flags.file, rest)

def plainCharacters : Octets → Octets
  | c :: d :: rest =>
      if c = backslash then (Regular.escaped? d).getD d :: plainCharacters rest
      else c :: plainCharacters (d :: rest)
  | short => short
termination_by text => text.length

def readTransliterate (text : Octets) : Except Fault (Action × Octets) :=
  let unended := faultBefore (α := Action × Octets) [] "unterminated `y' command"
  match text with
  | [] => unended
  | mark :: rest =>
      match untilMark false mark (rest.length + 1) false rest with
      | none => unended
      | some (source, rest) =>
          match untilMark false mark (rest.length + 1) false rest with
          | none => unended
          | some (target, rest) =>
              let source := plainCharacters source
              let target := plainCharacters target
              if source.length = target.length then .ok (.transliterate (source.zip target), rest)
              else faultBefore rest "strings for `y' command are different lengths"

/-- The lines of a text behind its letter, up to a line that does not go on; at most `fuel` characters. -/
def textLines : Nat → Octets → Octets × Octets
  | 0, text => ([], text)
  | fuel + 1, text =>
      match text with
      | [] => ([], [])
      | '\n' :: rest => ([], rest)
      | c :: rest =>
          if c = backslash then
            match rest with
            | [] => ([], [])
            | d :: behind =>
                let (text, rest) := textLines fuel behind
                ((if d = 't' then '\t' else d) :: text, rest)
          else
            let (text, rest) := textLines fuel rest
            (c :: text, rest)

/-- The text of a command behind its letter, with the end of its last line.  Blanks in front of it do not count,
unless a backslash stands before them. -/
def readText (text : Octets) : Except Fault (Octets × Octets) :=
  let rest := text.dropWhile isSpaceOrTab
  match rest with
  | [] => faultBefore [] "expected \\ after `a', `c' or `i'"
  | c :: more =>
      let body :=
        if c = backslash then
          let behind := more.dropWhile isSpaceOrTab
          if behind.head? = some '\n' then behind.drop 1 else more
        else rest
      if c = backslash && (more.dropWhile isSpaceOrTab).isEmpty then .ok ([], [])
      else
        let (text, behind) := textLines (body.length + 1) body
        .ok (text ++ ['\n'], behind)

def readLabel (text : Octets) : Octets × Octets :=
  let rest := text.dropWhile isSpaceOrTab
  let name := rest.takeWhile fun c => !isGap c && c != closeBrace
  (name, rest.drop name.length)

def readNumber (text : Octets) : Option Nat × Octets :=
  let rest := text.dropWhile isSpaceOrTab
  let digits := rest.takeWhile Char.isDigit
  (if digits.isEmpty then none else some (decimal digits), rest.drop digits.length)

def readEnd {α : Type} (value : α) (text : Octets) : Except Fault (α × Octets) :=
  match text.dropWhile isSpaceOrTab with
  | [] => .ok (value, [])
  | c :: rest =>
      if c = closeBrace || c = '#' then .ok (value, c :: rest)
      else if c = ';' || c = '\n' then .ok (value, rest)
      else faultBefore rest "extra characters after command"

def readAction (isExtended : Bool) (extent : Extent) (letter : Char) (rest : Octets) : Except Fault (Action × Octets) :=
  let plain := fun (action : Action) => readEnd action rest
  let quit := fun (isSilent : Bool) =>
    match extent with
    | .range _ _ => faultBefore rest "command only uses one address"
    | _ =>
        let (status, rest) := readNumber rest
        readEnd (Action.quit isSilent (status.getD 0)) rest
  let withText := fun (make : Octets → Action) => do
    let (text, rest) ← readText rest
    return (make text, rest)
  let withPath := fun (make : Octets → Action) => do
    let (path, rest) ← readPath rest
    return (make path, rest)
  let withLabel := fun (make : Octets → Action) =>
    let (name, rest) := readLabel rest
    readEnd (make name) rest
  match letter with
  | 's' => readSubstitute isExtended rest
  | 'y' => do
      let (action, rest) ← readTransliterate rest
      readEnd action rest
  | 'd' => plain .delete
  | 'D' => plain .deleteFirst
  | 'p' => plain .print
  | 'P' => plain .printFirst
  | 'n' => plain .next
  | 'N' => plain .nextAppend
  | '=' => plain .showNumber
  | 'l' =>
      let (width, rest) := readNumber rest
      readEnd (.showPlain width) rest
  | 'h' => plain .hold
  | 'H' => plain .holdAppend
  | 'g' => plain .get
  | 'G' => plain .getAppend
  | 'x' => plain .exchange
  | 'z' => plain .clear
  | 'F' => plain .showName
  | 'q' => quit false
  | 'Q' => quit true
  | 'a' => withText .append
  | 'i' => withText .insert
  | 'c' => withText .change
  | ':' =>
      let (name, behind) := readLabel rest
      match extent with
      | .all =>
          if name.isEmpty then faultBefore behind "\":\" lacks a label" else readEnd (.label name) behind
      | _ => faultBefore rest ": doesn't want any addresses"
  | 'b' => withLabel .branch
  | 't' => withLabel (.branchIf true)
  | 'T' => withLabel (.branchIf false)
  | 'r' => withPath .readFile
  | 'w' => withPath .writeFile
  | 'W' => withPath .writeFirst
  | 'v' =>
      let (_, rest) := readLabel rest
      readEnd (.label []) rest
  | '#' => faultBefore rest "comments don't accept any addresses"
  | c => faultBefore rest ("unknown command: `" ++ String.singleton c ++ "'")

/-- The commands of a text; `opened` are the numbers of the groups that are not closed.  At most `fuel`
commands are read. -/
def readCommands (isExtended : Bool) : Nat → List Nat → Array Command → Octets → Except Fault (Array Command)
  | 0, _, commands, _ => .ok commands
  | fuel + 1, opened, commands, text =>
      match text.dropWhile isGap with
      | [] => if opened.isEmpty then .ok commands else .error (.whole "unmatched `\x7b'")
      | '#' :: rest => readCommands isExtended fuel opened commands (rest.dropWhile (· != '\n'))
      | text => do
          let (extent, rest) ← readExtent isExtended text
          let rest := rest.dropWhile isSpaceOrTab
          let isNegated := rest.head? = some '!'
          let rest := if isNegated then (rest.drop 1).dropWhile isSpaceOrTab else rest
          match rest with
          | [] => faultBefore [] "missing command"
          | letter :: rest =>
              if isNegated && letter = '!' then faultBefore rest "multiple `!'s"
              else if letter = openBrace then
                readCommands isExtended fuel (commands.size :: opened)
                  (commands.push ⟨extent, isNegated, .opening 0⟩) rest
              else if letter = closeBrace then
                match opened, extent with
                | [], _ => faultBefore rest "unexpected `\x7d'"
                | start :: others, .all => do
                    let behind := commands.size
                    let commands := commands.modify start fun command =>
                      { command with action := .opening behind }
                    let (_, rest) ← readEnd () rest
                    readCommands isExtended fuel others (commands.push ⟨.all, false, .closing⟩) rest
                | _, _ => faultBefore rest "\x7d doesn't want any addresses"
              else
                let (action, rest) ← readAction isExtended extent letter rest
                readCommands isExtended fuel opened (commands.push ⟨extent, isNegated, action⟩) rest

def readScript (isExtended : Bool) (text : Octets) : Except Fault (Array Command) :=
  readCommands isExtended (text.length + 1) [] #[] text

end TemplateLint.Machine.Utility.Sed
