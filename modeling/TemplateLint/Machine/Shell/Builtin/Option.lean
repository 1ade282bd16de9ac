import TemplateLint.Machine.Shell.Builtin.Basic

set_option autoImplicit false

/-!
The options of a shell, which are letters with long names, and the words that turn them on and off.
-/

namespace TemplateLint.Machine.Shell

/-- The long names of the options with their letters.  The letters of the last two cannot be used. -/
def optionNames : List (String × Char) := [
  ("errexit", 'e'), ("noglob", 'f'), ("ignoreeof", 'I'), ("interactive", 'i'), ("monitor", 'm'),
  ("noexec", 'n'), ("stdin", 's'), ("xtrace", 'x'), ("verbose", 'v'), ("vi", 'V'), ("emacs", 'E'),
  ("noclobber", 'C'), ("allexport", 'a'), ("notify", 'b'), ("nounset", 'u'), ("privileged", 'p'),
  ("nolog", 'L'), ("debug", 'D')]

namespace Process

def withOptionLetters (process : Process) (letters : List Char) : Process :=
  { process with
    options := letters
    bindings := { process.bindings with exportsAll := letters.contains 'a' } }

/-- The state with an option turned on or off; of the two ways to edit lines only one is on. -/
def turn (process : Process) (isOn : Bool) (letter : Char) : Process :=
  let others := process.options.filter (· != letter)
  if !isOn then process.withOptionLetters others
  else if letter = 'V' then process.withOptionLetters (letter :: others.filter (· != 'E'))
  else if letter = 'E' then process.withOptionLetters (letter :: others.filter (· != 'V'))
  else process.withOptionLetters (letter :: others)

def sayOptions (process : Process) (asCommands : Bool) : Process :=
  if asCommands then
    process.say (asLines (optionNames.map fun (name, letter) =>
      ((if process.has letter then "set -o " else "set +o ") ++ name).toList))
  else
    process.say (asLines ("Current option settings".toList :: optionNames.map fun (name, letter) =>
      let name := name.toList
      name ++ List.replicate (16 - name.length) ' ' ++ (if process.has letter then "on" else "off").toList))

/-- The state with an option turned on or off by its long name, or without a name with all options written;
the error is what is wrong with the name. -/
def turnNamed (process : Process) (isOn : Bool) (name : Option Octets) : Except Octets Process :=
  match name with
  | none => .ok (process.sayOptions (!isOn))
  | some name =>
      match optionNames.find? fun entry => entry.1.toList == name with
      | some (_, letter) => .ok (process.turn isOn letter)
      | none => .error ("Illegal option -o ".toList ++ name)

end Process

structure OptionReading where
  process : Process
  words : List Octets
  hasText : Bool

def OptionReading.takeLetters (isStart isOn : Bool) (reading : OptionReading) : Octets →
    Except Octets OptionReading
  | [] => .ok reading
  | letter :: rest =>
      if letter = 'c' && isStart then { reading with hasText := true }.takeLetters isStart isOn rest
      else if letter = 'l' && isStart then reading.takeLetters isStart isOn rest
      else if letter = 'o' then
        match reading.process.turnNamed isOn reading.words.head? with
        | .error reason => .error reason
        | .ok process =>
            { reading with process := process, words := reading.words.drop 1 }.takeLetters isStart isOn rest
      else if Process.optionOrder.contains letter then
        { reading with process := reading.process.turn isOn letter }.takeLetters isStart isOn rest
      else .error ("Illegal option -".toList ++ [letter])

/-- Reads the words with options at the start of those that are left; at most `fuel` words. -/
def OptionReading.takeWords (isStart : Bool) : Nat → OptionReading → Except Octets OptionReading
  | 0, reading => .ok reading
  | fuel + 1, reading =>
      match reading.words with
      | [] => .ok reading
      | word :: rest =>
          match word with
          | ['-'] =>
              let process := if isStart then reading.process
                else (reading.process.turn false 'x').turn false 'v'
              .ok { reading with process := process, words := rest }
          | ['-', '-'] =>
              let process := if isStart || !rest.isEmpty then reading.process
                else { reading.process with parameters := [], optionPlace := ⟨1, 0⟩ }
              .ok { reading with process := process, words := rest }
          | sign :: letters =>
              if sign = '-' || sign = '+' then
                match { reading with words := rest }.takeLetters isStart (sign == '-') letters with
                | .ok reading => reading.takeWords isStart fuel
                | .error reason => .error reason
              else .ok reading
          | [] => .ok reading

/-- The state after options have been changed: there is no terminal from which jobs could be controlled. -/
def Process.settle (process : Process) : Process :=
  if process.has 'm' then
    (process.complain "can't access tty; job control turned off".toList).turn false 'm'
  else process

def runSet (operands : List Octets) (process : Process) : Flow × Process :=
  if operands.isEmpty then
    let lines := process.bindings.ascending.filterMap fun entry =>
      entry.value?.map fun value => entry.name ++ '=' :: singleQuoted value
    goOn (process.say (asLines lines)) 0
  else
    match OptionReading.takeWords false operands.length ⟨process, operands, false⟩ with
    | .error reason => process.fail reason
    | .ok reading =>
        let process := reading.process.settle
        if reading.words.isEmpty then goOn process 0
        else goOn { process with parameters := reading.words, optionPlace := ⟨1, 0⟩ } 0

end TemplateLint.Machine.Shell
