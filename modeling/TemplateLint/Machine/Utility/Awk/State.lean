import TemplateLint.Machine.Utility.Awk.Reader
import TemplateLint.Machine.Utility.Awk.Value
import TemplateLint.Machine.Utility.Basic

set_option autoImplicit false

/-!
The state of a run of patterns and actions: its variables, the current record with its fields, and what it
reads and writes.
-/

namespace TemplateLint.Machine.Utility.Awk

open Shell (Process)

inductive Cell where
  | unset
  | value (value : Value)
  | table (table : Table)
  | link (index : Nat)

structure Sink where
  name : Octets
  isCommand : Bool
  descriptor : Nat
  parts : List Octets

structure Reader where
  name : Octets
  isCommand : Bool
  rest : Octets
  status : Nat

structure State where
  process : Process
  cells : Array Cell
  globals : List (Octets × Nat)
  frame : List (Octets × Nat)
  calls : Nat
  record : Value
  fields : Array Value
  open? : List Nat
  operand : Nat
  hasInput : Bool
  input : Option Octets
  readers : List Reader
  sinks : List Sink
  output : List Octets
  seed : Nat
  random : Nat

inductive Stop where
  | leave
  | again
  | next
  | nextFile
  | giveBack (value : Value)
  | exits
  | fault (message : Octets)
  | endless

abbrev Run := EStateM Stop State

namespace State

def cell? (state : State) (name : Octets) : Option Nat :=
  (((state.frame.find? fun entry => entry.1 == name).orElse fun _ =>
    state.globals.find? fun entry => entry.1 == name)).map Prod.snd

def global (state : State) (name : String) : Value :=
  match ((state.globals.find? fun entry => entry.1 == name.toList).map Prod.snd).bind fun index =>
      state.cells[index]? with
  | some (.value value) => value
  | _ => .unset

def format (state : State) : Octets := (state.global "CONVFMT").toText "%.6g".toList

def textOf (state : State) (name : String) : Octets := (state.global name).toText state.format

def setCell (state : State) (index : Nat) (cell : Cell) : State :=
  { state with cells := state.cells.modify index fun _ => cell }

def addCell (state : State) (cell : Cell) : Nat × State :=
  (state.cells.size, { state with cells := state.cells.push cell })

def setGlobal (state : State) (name : Octets) (value : Value) : State :=
  match state.globals.find? fun entry => entry.1 == name with
  | some (_, index) => state.setCell index (.value value)
  | none =>
      let (index, state) := state.addCell (.value value)
      { state with globals := (name, index) :: state.globals }

/-- The number of the cell that holds the table of another cell, or that would hold it; at most `fuel` steps
away. -/
def root (state : State) : Nat → Nat → Nat
  | 0, index => index
  | fuel + 1, index =>
      match state.cells[index]? with
      | some (.link next) => state.root fuel next
      | _ => index

end State

/-! ### Fields -/

/-- The parts of a text between matches that are not empty; at most `fuel` of them. -/
def splitByMatches (regular : Regular) (text : Octets) : List Octets :=
  let subject := subjectOf false text
  let found := (regular.findAll subject (text.length + 2) 0 none).filter fun found => found.start < found.stop
  let (parts, place) := found.foldl (fun (parts, place) found =>
    ((text.drop place).take (found.start - place) :: parts, found.stop)) (([] : List Octets), 0)
  (text.drop place :: parts).reverse

def wordsOf (text : Octets) : List Octets :=
  let isBlank := fun (c : Char) => c == ' ' || c == '\t' || c == '\n'
  ((text.splitBy fun left right => isBlank left == isBlank right).filter fun part =>
    !(part.head?.map isBlank).getD true)

/-- The fields of a text: words if a blank separates them, and otherwise what is between the matches of an
expression; a single character stands for itself. -/
def fieldsOf (separator text : Octets) : List Octets :=
  if text.isEmpty then []
  else
    match separator with
    | [' '] => wordsOf text
    | [] => text.map fun c => [c]
    | [c] => splitAt c text
    | _ => splitByMatches (regularOf separator) text

/-- The first record of a text and what is behind it; none when nothing is left. -/
def recordAt? (separator text : Octets) : Option (Octets × Octets) :=
  let upTo := fun (c : Char) (text : Octets) =>
    let record := text.takeWhile (· != c)
    (record, text.drop (record.length + 1))
  if text.isEmpty then none
  else
    match separator with
    | [] =>
        let text := text.dropWhile (· == '\n')
        if text.isEmpty then none
        else
          let found := (Regular.repeated 2 none (Regular.single '\n')).find? (subjectOf false text) 0
          match found with
          | some found => some (text.take found.start, text.drop found.stop)
          | none => some (bareLine text, [])
    | [c] => some (upTo c text)
    | _ =>
        let found := (regularOf separator).find? (subjectOf false text) 0
        match found with
        | some found =>
            if found.start < found.stop then some (text.take found.start, text.drop found.stop)
            else some (text, [])
        | none => some (text, [])

namespace State

def setFields (state : State) (fields : Array Value) : State :=
  let texts := fields.toList.map fun (field : Value) => field.toText state.format
  { state with
    fields := fields
    record := .input (joinWith (state.textOf "OFS") texts) }.setGlobal "NF".toList (.ofNat fields.size)

def setRecord (state : State) (record : Value) : State :=
  let fields := fieldsOf (state.textOf "FS") (record.toText state.format)
  { state with
    record := record
    fields := (fields.map Value.input).toArray }.setGlobal "NF".toList (.ofNat fields.length)

def resize (state : State) (count : Nat) : State :=
  let fields := state.fields.extract 0 count
  state.setFields (fields ++ Array.replicate (count - fields.size) (.text []))

def setField (state : State) (index : Nat) (value : Value) : State :=
  if index = 0 then
    state.setRecord (match value with
      | .number _ => .text (value.toText state.format)
      | other => other)
  else
    let fields := state.fields ++ Array.replicate (index - state.fields.size) (.text [])
    state.setFields (fields.modify (index - 1) fun _ => value)

def countRecord (state : State) (names : List String) : State :=
  names.foldl (fun state name =>
    state.setGlobal name.toList (.number ((state.global name).toNumber + 1))) state

/-! ### Output -/

/-- The state after all that is on its way to files and to the output has been written. -/
def flush (state : State) : State :=
  let process := state.process.say state.output.reverse.flatten
  let process := state.sinks.foldl (fun process sink =>
    if sink.isCommand then process else process.write sink.descriptor sink.parts.reverse.flatten) process
  { state with
    process := process
    output := []
    sinks := state.sinks.map fun sink => if sink.isCommand then sink else { sink with parts := [] } }

def addTo (state : State) (name : Octets) (isCommand : Bool) (text : Octets) : State :=
  { state with sinks := state.sinks.map fun sink =>
      if sink.name == name && sink.isCommand == isCommand then { sink with parts := text :: sink.parts } else sink }

def firstDescriptor : Nat := 200

end State

/-! ### Variables -/

/-- The text of an assignment among the operands: its name, and its value with escapes replaced. -/
def assignmentOf? (text : Octets) : Option (Octets × Octets) :=
  let name := text.takeWhile continuesName
  if (name.head?.map startsName).getD false && (text.drop name.length).head? = some '=' then
    some (name, text.drop (name.length + 1))
  else none

def unescaped : Nat → Octets → Octets
  | 0, text => text
  | fuel + 1, text =>
      match text with
      | [] => []
      | c :: rest =>
          let (first, behind) := if c = backslash then textEscape rest else ([c], rest)
          first ++ unescaped fuel behind

def advanceRandom (seed : Nat) : Nat := (seed * 1103515245 + 12345) % 2147483648

def startState (process : Process) (operands : List Octets) : State :=
  let plain : List (String × Value) := [("FS", .text [' ']), ("RS", .text ['\n']), ("OFS", .text [' ']),
    ("ORS", .text ['\n']), ("SUBSEP", .text [Char.ofNat 28]), ("CONVFMT", .text "%.6g".toList),
    ("OFMT", .text "%.6g".toList), ("NR", .number 0), ("FNR", .number 0), ("NF", .number 0),
    ("RSTART", .number 0), ("RLENGTH", .number (-1)), ("FILENAME", .unset),
    ("ARGC", .ofNat (operands.length + 1))]
  let given := (ownName process :: operands).zipIdx.map fun (operand, index) =>
    Entry.mk (natText index) (.input operand) true
  let known := process.bindings.entries.filterMap fun entry =>
    entry.value?.map fun value => Entry.mk entry.name (.input value) false
  let tables : List (String × Table) :=
    [("ARGV", { Table.empty with entries := given.reverse }),
      ("ENVIRON", { Table.empty with entries := known, hasTexts := true })]
  let cells := plain.map (fun entry => Cell.value entry.2) ++ tables.map fun entry => Cell.table entry.2
  let names := plain.map Prod.fst ++ tables.map Prod.fst
  { process := process
    cells := cells.toArray
    globals := names.zipIdx.map fun (name, index) => (name.toList, index)
    frame := []
    calls := 0
    record := .input []
    fields := #[]
    open? := []
    operand := 1
    hasInput := false
    input := none
    readers := []
    sinks := []
    output := []
    seed := 0
    random := 0 }

end TemplateLint.Machine.Utility.Awk
