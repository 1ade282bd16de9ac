import TemplateLint.Machine.Shell.Field
import TemplateLint.Machine.Shell.Process

set_option autoImplicit false

/-!
Expansions of words.

Commands inside words are run by a function that is given, so that expansions are defined before the run of
commands.
-/

namespace TemplateLint.Machine.Shell

abbrev Expanded (α : Type) := Except Flow α × Process

abbrev Substitute := Command → Process → Expanded Octets

def Expanded.bind {α β : Type} (first : Expanded α) (next : α → Process → Expanded β) : Expanded β :=
  match first with
  | (.ok value, process) => next value process
  | (.error flow, process) => (.error flow, process)

def Expanded.refuse {α : Type} (process : Process) (text : Octets) : Expanded α :=
  let (flow, process) := process.fail text
  (.error flow, process)

/-! ### Tildes -/

def homeOf? (process : Process) (user : Octets) : Option Octets :=
  if user.isEmpty then process.bindings.get? "HOME".toList
  else if user == "root".toList then some "/root".toList
  else none

/-- The elements of a text that may start with a tilde; `isLast` says that nothing else of the word follows. -/
def tildeGlyphs (process : Process) (isLast : Bool) (text : Octets) : List Glyph :=
  let plain := fun (text : Octets) => text.map fun c => Glyph.char ⟨c, false⟩
  match text with
  | '~' :: rest =>
      let user := rest.takeWhile (· != '/')
      let behind := rest.drop user.length
      match if behind.isEmpty && !isLast then none else homeOf? process user with
      | some home => valueGlyphs true home ++ plain behind
      | none => plain text
  | _ => plain text

/-- The elements of the parts between colons, at each of which a tilde may start. -/
def tildeParts (process : Process) (isLast : Bool) : List Octets → List Glyph
  | [] => []
  | [only] => tildeGlyphs process isLast only
  | first :: rest => tildeGlyphs process true first ++ .char ⟨':', false⟩ :: tildeParts process isLast rest

inductive TildeRule where
  | never
  | atStart
  | atColons
deriving DecidableEq, Repr

def textGlyphs (process : Process) (rule : TildeRule) (isFirst isLast : Bool) (text : Octets) : List Glyph :=
  let plain := fun (text : Octets) => text.map fun c => Glyph.char ⟨c, false⟩
  match rule with
  | .never => plain text
  | .atStart => if isFirst then tildeGlyphs process isLast text else plain text
  | .atColons =>
      let parts := splitAt ':' text
      if isFirst then tildeParts process isLast parts
      else
        match parts with
        | first :: second :: rest =>
            plain first ++ .char ⟨':', false⟩ :: tildeParts process isLast (second :: rest)
        | _ => plain text

/-! ### Pieces -/

/-- Texts joined by the first separator, or by a blank when there are no separators set. -/
def joinParameters (process : Process) : Octets :=
  joinWith (process.separators.take 1) process.parameters

def allGlyphs (isQuoted isJoined : Bool) (process : Process) : List Glyph :=
  if isQuoted && isJoined then valueGlyphs true (joinParameters process)
  else fieldGlyphs isQuoted process.parameters

def parameterValue? (process : Process) (isQuoted : Bool) (name : Octets) : Option (Octets × List Glyph) :=
  if name = ['@'] || name = ['*'] then
    some (joinParameters process, allGlyphs isQuoted (name == ['*']) process)
  else (process.value? name).map fun text => (text, valueGlyphs isQuoted text)

def absenceText (countsEmpty : Bool) : Octets :=
  "parameter not set".toList ++ if countsEmpty then " or null".toList else []

mutual

def expandPiece (substitute : Substitute) : Piece → Process → Expanded (List Glyph)
  | .text isQuoted text, process =>
      let glyphs : List Glyph := text.map fun c => .char ⟨c, isQuoted⟩
      (.ok (if isQuoted then .quotation :: glyphs else glyphs), process)
  | .substitution isQuoted body, process =>
      (substitute body process).bind fun text process =>
        (.ok (valueGlyphs isQuoted (dropEndWhile (· == '\n') text)), process)
  | .arithmetic isQuoted word, process =>
      (expandPieces substitute .never true word process).bind fun glyphs process =>
        let text := unmark (marksOf process.separators glyphs)
        match evaluateText text process.bindings with
        | .ok (value, bindings) => (.ok (valueGlyphs isQuoted (intText value)), { process with bindings := bindings })
        | .error error => Expanded.refuse process (error.message text)
  | .parameter isQuoted name use countsEmpty word, process =>
      let value? := parameterValue? process isQuoted name
      let present := value?.filter fun (text, _) => !(countsEmpty && text.isEmpty)
      let isAll := name = ['@'] || name = ['*']
      let empty : List Glyph := if isQuoted && !isAll then [.quotation] else []
      let inner := fun (_ : Unit) => expandPieces substitute .atStart true word process
      let needed := fun (next : Octets → Expanded (List Glyph)) =>
        match value? with
        | some (text, _) => next text
        | none =>
            if process.has 'u' then Expanded.refuse process (name ++ ": ".toList ++ absenceText false)
            else next []
      match use with
      | .unknown => Expanded.refuse process "Bad substitution".toList
      | .plain =>
          match value? with
          | some (_, glyphs) => (.ok glyphs, process)
          | none => needed fun _ => (.ok empty, process)
      | .length => needed fun text => (.ok (valueGlyphs isQuoted (natText text.length)), process)
      | .default =>
          match present with
          | some (_, glyphs) => (.ok glyphs, process)
          | none => (inner ()).bind fun glyphs process => (.ok (innerGlyphs glyphs), process)
      | .alternative =>
          match present with
          | some _ => (inner ()).bind fun glyphs process => (.ok (innerGlyphs glyphs), process)
          | none => (.ok empty, process)
      | .assign =>
          match present with
          | some (_, glyphs) => (.ok glyphs, process)
          | none =>
              (inner ()).bind fun glyphs process =>
                let text := unmark (marksOf process.separators glyphs)
                if !isName name then Expanded.refuse process (name ++ ": bad variable name".toList)
                else
                  match process.assign? name text with
                  | .ok process => (.ok (valueGlyphs isQuoted text), process)
                  | .error complaint => Expanded.refuse process complaint
      | .require =>
          match present with
          | some (_, glyphs) => (.ok glyphs, process)
          | none =>
              (inner ()).bind fun glyphs process =>
                let text := unmark (marksOf process.separators glyphs)
                Expanded.refuse process
                  (name ++ ": ".toList ++ if word.isEmpty then absenceText countsEmpty else text)
      | .dropStart isLongest =>
          needed fun text =>
            (inner ()).bind fun glyphs process =>
              let pattern := elements (marksOf process.separators glyphs)
              (.ok (valueGlyphs isQuoted (dropMatchedStart isLongest pattern text)), process)
      | .dropEnd isLongest =>
          needed fun text =>
            (inner ()).bind fun glyphs process =>
              let pattern := elements (marksOf process.separators glyphs)
              (.ok (valueGlyphs isQuoted (dropMatchedEnd isLongest pattern text)), process)

/-- Expands the pieces of a word in order; `isFirst` says that the word starts with them. -/
def expandPieces (substitute : Substitute) (rule : TildeRule) (isFirst : Bool) :
    List Piece → Process → Expanded (List Glyph)
  | [], process => (.ok [], process)
  | .text false text :: rest, process =>
      let glyphs := textGlyphs process rule isFirst rest.isEmpty text
      (expandPieces substitute rule false rest process).bind fun others process => (.ok (glyphs ++ others), process)
  | piece :: rest, process =>
      (expandPiece substitute piece process).bind fun glyphs process =>
        (expandPieces substitute rule false rest process).bind fun others process =>
          (.ok (glyphs ++ others), process)

end

/-! ### Words -/

def expandMarks (substitute : Substitute) (rule : TildeRule) (word : Word) (process : Process) :
    Expanded (List Mark) :=
  (expandPieces substitute rule true word process).bind fun glyphs process =>
    (.ok (marksOf process.separators glyphs), process)

def expandText (substitute : Substitute) (rule : TildeRule) (word : Word) (process : Process) :
    Expanded Octets :=
  (expandMarks substitute rule word process).bind fun marks process => (.ok (unmark marks), process)

/-- The words for a field: the paths that it matches if it is a pattern and there are any, else itself. -/
def Process.wordsOfField (process : Process) (field : List Mark) : List Octets :=
  if process.has 'f' || !isPattern field then [unmark field]
  else
    match matchesOf process.files process.directory field with
    | [] => [unmark field]
    | found => found

def expandFields (substitute : Substitute) (word : Word) (process : Process) : Expanded (List Octets) :=
  (expandPieces substitute .atStart true word process).bind fun glyphs process =>
    (.ok ((fieldsOf process.separators glyphs).flatMap process.wordsOfField), process)

/-- Expands words to the words of a command; what looks like an assignment stays one word if that is asked
for. -/
def expandWords (substitute : Substitute) (keepsAssignments : Bool) : List Word → Process →
    Expanded (List Octets)
  | [], process => (.ok [], process)
  | word :: rest, process =>
      let first := match if keepsAssignments then assignmentOf? word else none with
        | some (name, value) =>
            (expandText substitute .atColons value process).bind fun text process =>
              (.ok [name ++ '=' :: text], process)
        | none => expandFields substitute word process
      first.bind fun texts process =>
        (expandWords substitute keepsAssignments rest process).bind fun others process =>
          (.ok (texts ++ others), process)

end TemplateLint.Machine.Shell
