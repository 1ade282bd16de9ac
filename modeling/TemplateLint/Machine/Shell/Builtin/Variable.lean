import TemplateLint.Machine.Shell.Builtin.Option
import TemplateLint.Machine.Shell.Field
import TemplateLint.Machine.Shell.Token

set_option autoImplicit false

/-!
The commands that give names and parameters their values.
-/

namespace TemplateLint.Machine.Shell

/-- Carries out something for every operand; the first one that is refused is a failure. -/
def forEachOperand (act : Octets → Process → Except Octets Process) : List Octets → Process → Flow × Process
  | [], process => goOn process 0
  | operand :: rest, process =>
      match act operand process with
      | .ok process => forEachOperand act rest process
      | .error reason => process.fail reason

def nameOf (operand : Octets) : Octets := operand.takeWhile (· != '=')

def valueOf? (operand : Octets) : Option Octets :=
  match operand.drop (nameOf operand).length with
  | [] => none
  | _ :: value => some value

def badName (name : Octets) : Octets := name ++ ": bad variable name".toList

/-! ### Marks -/

def declare (mark : Bindings → Octets → Bindings) (operand : Octets) (process : Process) :
    Except Octets Process :=
  let name := nameOf operand
  let marked := fun (process : Process) => { process with bindings := mark process.bindings name }
  if !isName name then .error (badName name)
  else
    match valueOf? operand with
    | some value => (process.assign? name value).map marked
    | none => .ok (marked process)

def runDeclare (word : String) (mark : Bindings → Octets → Bindings) (isMarked : Binding → Bool)
    (operands : List Octets) (process : Process) : Flow × Process :=
  withOptions "p" operands process fun options operands =>
    if operands.isEmpty || hasOption options 'p' then
      let lines := (process.bindings.ascending.filter isMarked).map fun entry =>
        word.toList ++ ' ' :: entry.name ++
          match entry.value? with
          | some value => '=' :: singleQuoted value
          | none => []
      goOn (process.say (asLines lines)) 0
    else forEachOperand (declare mark) operands process

/-! ### Removal -/

def fixedNames : List String := ["IFS", "MAIL", "MAILPATH", "OPTIND", "PATH", "PS1", "PS2", "PS4"]

def removeValue (operand : Octets) (process : Process) : Except Octets Process :=
  let name := nameOf operand
  if !isName name then .error (badName name)
  else if process.bindings.isReadOnly name then .error (name ++ ": is read only".toList)
  else if fixedNames.contains (String.ofList name) then
    .ok { process with bindings := process.bindings.mark name fun entry => { entry with value? := none } }
  else .ok { process with bindings := process.bindings.erase name }

def runUnset (operands : List Octets) (process : Process) : Flow × Process :=
  withOptions "vf" operands process fun options operands =>
    if (options.getLast?.map Prod.fst) == some 'f' then
      goOn { process with functions := process.functions.filter fun function => !operands.contains function.name } 0
    else forEachOperand removeValue operands process

/-! ### Functions and parameters -/

def makeLocal (operand : Octets) (process : Process) : Except Octets Process :=
  if operand = ['-'] then
    .ok { process with hiddenOptions := process.hiddenOptions.orElse fun _ => some process.options }
  else
    let name := nameOf operand
    match valueOf? operand with
    | some value => (process.hide name).assign? name value
    | none => if isName name then .ok (process.hide name) else .error (badName name)

def runLocal (operands : List Octets) (process : Process) : Flow × Process :=
  if process.hidden.isNone then process.fail "not in a function".toList
  else withOptions "" operands process fun _ operands => forEachOperand makeLocal operands process

def runShift (operands : List Octets) (process : Process) : Flow × Process :=
  withCount 1 operands process fun count =>
    if process.parameters.length < count then process.fail "can't shift that many".toList
    else goOn { process with parameters := process.parameters.drop count, optionPlace := ⟨1, 0⟩ } 0

/-! ### Lines -/

structure LineState where
  fields : List Octets := []
  left : Nat
  current : Octets := []
  /-- What may have to be dropped at the end of the current field, last character first. -/
  doubtful : Octets := []
  isBlank : Bool := false
  isFresh : Bool := true

/-- One character more of a line.  The last name gets all that is left, without the separators at its end if
they are blanks, or a single other one with blanks around it. -/
def LineState.take (separators : Octets) (state : LineState) (mark : Mark) : LineState :=
  let c := mark.char
  let isSeparator := !mark.isQuoted && separators.contains c
  let isBlank := isSeparator && isBlankSeparator c
  if state.left = 0 then
    if mark.isQuoted then
      if state.doubtful.isEmpty then { state with current := c :: state.current, isBlank := false }
      else { state with doubtful := c :: state.doubtful, isBlank := false }
    else if isBlank then { state with doubtful := c :: state.doubtful }
    else if isSeparator && state.isBlank then
      if state.doubtful.isEmpty then
        { state with current := c :: state.current, isBlank := false }
      else { state with doubtful := c :: state.doubtful, isBlank := false }
    else
      { state with current := c :: state.doubtful ++ state.current, doubtful := [], isBlank := false }
  else if state.isBlank && isBlank then state
  else if state.isBlank && isSeparator then { state with isBlank := false, isFresh := true }
  else if isSeparator then
    if state.isFresh && isBlank then state
    else if state.left = 1 then { state with left := 0, doubtful := [c], isBlank := isBlank, isFresh := false }
    else
      { state with
        fields := state.current.reverse :: state.fields
        left := state.left - 1
        current := []
        isBlank := isBlank
        isFresh := true }
  else { state with current := c :: state.current, isBlank := false, isFresh := false }

def lineFields (separators : Octets) (count : Nat) (marks : List Mark) : List Octets :=
  let state : LineState := marks.foldl (LineState.take separators) { left := count }
  (state.current.reverse :: state.fields).reverse

/-- The characters of a line, of which those behind a backslash are quoted; the truth value says that the line
goes on behind its end. -/
def lineMarks (isRaw : Bool) : Octets → List Mark × Bool
  | [] => ([], false)
  | [c] => if c = backslash && !isRaw then ([], true) else ([⟨c, false⟩], false)
  | c :: d :: rest =>
      if c = backslash && !isRaw then
        let (marks, goesOn) := lineMarks isRaw rest
        (⟨d, true⟩ :: marks, goesOn)
      else
        let (marks, goesOn) := lineMarks isRaw (d :: rest)
        (⟨c, false⟩ :: marks, goesOn)

/-- Reads a line and those that it goes on to, at most `fuel` of them; the truth value says that the last one
was ended. -/
def takeLine (isRaw : Bool) : Nat → Process → List Mark × Bool × Process
  | 0, process => ([], false, process)
  | fuel + 1, process =>
      match (process.channel? 0).bind process.shared.line? with
      | none => ([], false, process)
      | some line =>
          let process := process.advance 0 line.length
          let isEnded := line.getLast? == some '\n'
          let (marks, goesOn) := lineMarks isRaw ((bareLine line).filter (· != nul))
          if goesOn && isEnded then
            let (others, isEnded, process) := takeLine isRaw fuel process
            (marks ++ others, isEnded, process)
          else (marks, isEnded, process)

def assignFields : List Octets → List Octets → Process → Except Octets Process
  | [], _, process => .ok process
  | name :: names, fields, process =>
      if !isName name then .error (badName (nameOf name))
      else
        match process.assign? name (fields.head?.getD []) with
        | .ok process => assignFields names (fields.drop 1) process
        | .error reason => .error reason

def runRead (operands : List Octets) (process : Process) : Flow × Process :=
  withOptions "p:r" operands process fun options names =>
    if names.isEmpty then process.fail "arg count".toList
    else
      let (marks, isEnded, process) :=
        takeLine (hasOption options 'r') ((process.readable 0).length + 1) process
      match assignFields names (lineFields process.separators names.length marks) process with
      | .ok process => goOn process (statusOf isEnded)
      | .error reason => process.fail reason

/-! ### Options of scripts -/

structure FoundOption where
  /-- The letter; a question mark when it is not known, and a colon when its text is missing. -/
  letter : Char
  text : Option Octets
  complaint : Option Octets
  isEnd : Bool
  passed : Nat
  /-- How much of the last of them has been read; zero when nothing is left of it. -/
  offset : Nat

/-- The option at a letter, with the text behind it in its word and the parameters behind that word. -/
def optionAt (letters : Octets) (passed offset : Nat) (letter : Char) (rest : Octets) (behind : List Octets) :
    FoundOption :=
  let isSilent := letters.head? = some ':'
  let refuse := fun (mark : Char) (complaint : Octets) =>
    if isSilent then FoundOption.mk mark (some [letter]) none false
    else FoundOption.mk '?' none (some complaint) false
  match letterKind letters letter with
  | .unknown => refuse '?' ("Illegal option -".toList ++ [letter]) passed offset
  | .plain => ⟨letter, some [], none, false, passed, offset⟩
  | .takesText =>
      if !rest.isEmpty then ⟨letter, some rest, none, false, passed, 0⟩
      else
        match behind with
        | text :: _ => ⟨letter, some text, none, false, passed + 1, 0⟩
        | [] => refuse ':' ("No arg for -".toList ++ letter :: " option".toList) passed offset

def nextOption (letters : Octets) (parameters : List Octets) (place : OptionPlace) : FoundOption :=
  let passed := place.index - 1
  let word := if 1 < place.index then (parameters[passed - 1]?).getD [] else []
  let left := if place.offset = 0 then [] else word.drop place.offset
  match left with
  | letter :: rest => optionAt letters passed (place.offset + 1) letter rest (parameters.drop passed)
  | [] =>
      match parameters[passed]? with
      | some ['-', '-'] => ⟨'?', none, none, true, passed + 1, 0⟩
      | some ('-' :: letter :: rest) =>
          optionAt letters (passed + 1) 2 letter rest (parameters.drop (passed + 1))
      | _ => ⟨'?', none, none, true, passed, 0⟩

def runGetopts (operands : List Octets) (process : Process) : Flow × Process :=
  match operands with
  | letters :: name :: given =>
      let parameters := if given.isEmpty then process.parameters else given
      let place := if parameters.length + 1 < process.optionPlace.index then ⟨1, 0⟩ else process.optionPlace
      let found := nextOption letters parameters place
      let process := match found.complaint with
        | some complaint => process.report (complaint ++ ['\n'])
        | none => process
      let assigned := if found.isEnd then Except.ok process
        else
          match found.text with
          | some text => process.assign? "OPTARG".toList text
          | none => removeValue "OPTARG".toList process
      let index := found.passed + 1
      match assigned with
      | .error reason => process.fail reason
      | .ok process =>
          let process := process.assign "OPTIND".toList (natText index)
          if !isName name then process.fail (badName (nameOf name))
          else
            match process.assign? name [found.letter] with
            | .error reason => process.fail reason
            | .ok process =>
                goOn { process with optionPlace := ⟨index, found.offset⟩ } (statusOf (!found.isEnd))
  | _ => process.fail "Usage: getopts optstring var [arg...]".toList

end TemplateLint.Machine.Shell
