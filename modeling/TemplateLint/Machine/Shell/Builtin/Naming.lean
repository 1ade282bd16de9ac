import TemplateLint.Machine.Image
import TemplateLint.Machine.Shell.Builtin.Basic
import TemplateLint.Machine.Shell.Reader

set_option autoImplicit false

/-!
What names mean as commands: words of the language, aliases, functions, commands of the shell and programs.
-/

namespace TemplateLint.Machine.Shell

def regularNames : List String :=
  ["[", "alias", "bg", "cd", "chdir", "command", "echo", "false", "fg", "getopts", "hash", "jobs", "kill",
    "printf", "pwd", "read", "test", "true", "type", "ulimit", "umask", "unalias", "wait"]

def isSpecialName (name : String) : Bool := specialNames.contains name || name == "local"

def isBuiltinName (name : String) : Bool := isSpecialName name || regularNames.contains name

def keepsAssignments (name : String) : Bool :=
  ["export", "readonly", "local", "alias"].contains name

inductive Located where
  | found (path : Octets)
  | denied
  | missing
deriving DecidableEq, Repr

def locateAmong (process : Process) (name : Octets) : List Octets → Located → Located
  | [], otherwise => otherwise
  | first :: rest, otherwise =>
      let path := nameIn first name
      match process.item? path with
      | some item =>
          if item.node.isRunnable && item.isExecutable then .found path
          else locateAmong process name rest .denied
      | none => locateAmong process name rest otherwise

/-- Where a program is found by its name in directories that are listed with colons between them. -/
def locateProgram (process : Process) (path name : Octets) : Located :=
  if name.isEmpty then .missing else locateAmong process name (splitAt ':' path) .missing

def describe (inWords : Bool) (path name : Octets) (process : Process) : Bool × Process :=
  let answer := fun (words brief : Octets) =>
    (true, process.say ((if inWords then name ++ words else brief) ++ ['\n']))
  let missing :=
    (false, if inWords then process.say (name ++ ": not found\n".toList) else process)
  let text := String.ofList name
  if reservedWords.contains text then answer " is a shell keyword".toList name
  else
    match process.aliases.find? fun entry => entry.1 == name with
    | some (_, value) =>
        answer (" is an alias for ".toList ++ value)
          ("alias ".toList ++ name ++ '=' :: singleQuoted value)
    | none =>
        if process.functions.any fun function => function.name == name then
          answer " is a shell function".toList name
        else if isSpecialName text then answer " is a special shell builtin".toList name
        else if isBuiltinName text then answer " is a shell builtin".toList name
        else if name.contains '/' then
          match process.item? name with
          | some _ => answer (" is ".toList ++ name) name
          | none => missing
        else
          match locateProgram process path name with
          | .found path =>
              let tracked := if process.known.contains name then " a tracked alias for".toList else []
              let (isFound, process) := answer (" is".toList ++ tracked ++ ' ' :: path) path
              (isFound, { process with known := name :: process.known.filter (· != name) })
          | _ => missing

def runType (operands : List Octets) (process : Process) : Flow × Process :=
  withOptions "" operands process fun _ operands =>
    let (isGood, process) := operands.foldl (fun (isGood, process) name =>
      let (isFound, process) := describe true process.searchPath name process
      (isGood && isFound, process)) (true, process)
    goOn process (if isGood then 0 else 127)

def runHash (operands : List Octets) (process : Process) : Flow × Process :=
  withOptions "rv" operands process fun options operands =>
    if hasOption options 'r' then goOn { process with known := [] } 0
    else if operands.isEmpty then
      let places := process.known.filterMap fun name =>
        match locateProgram process process.searchPath name with
        | .found path => some path
        | _ => none
      goOn (process.say (asLines places)) 0
    else
      let (isGood, process) := operands.foldl (fun (isGood, process) name =>
        if isBuiltinName (String.ofList name) then (isGood, process)
        else
          match locateProgram process process.searchPath name with
          | .found _ => (isGood, { process with known := name :: process.known.filter (· != name) })
          | _ => (false, process.complain (name ++ ": not found".toList))) (true, process)
      goOn process (statusOf isGood)

def aliasText (entry : Octets × Octets) : Octets := entry.1 ++ '=' :: singleQuoted entry.2

def runAlias (operands : List Octets) (process : Process) : Flow × Process :=
  if operands.isEmpty then
    let sorted := process.aliases.mergeSort fun left right => notAfter left.1 right.1
    goOn (process.say (asLines (sorted.map aliasText))) 0
  else
    let (isGood, process) := operands.foldl (fun (isGood, process) operand =>
      let name := operand.take 1 ++ (operand.drop 1).takeWhile (· != '=')
      match operand.drop name.length with
      | '=' :: value =>
          (isGood, { process with
            aliases := (name, value) :: process.aliases.filter fun entry => entry.1 != name })
      | _ =>
          match process.aliases.find? fun entry => entry.1 == operand with
          | some entry => (isGood, process.say (aliasText entry ++ ['\n']))
          | none => (false, process.report ("alias: ".toList ++ operand ++ " not found\n".toList)))
      (true, process)
    goOn process (statusOf isGood)

def runUnalias (operands : List Octets) (process : Process) : Flow × Process :=
  withOptions "a" operands process fun options operands =>
    if hasOption options 'a' then goOn { process with aliases := [] } 0
    else
      let (isGood, process) := operands.foldl (fun (isGood, process) name =>
        if process.aliases.any fun entry => entry.1 == name then
          (isGood, { process with aliases := process.aliases.filter fun entry => entry.1 != name })
        else (false, process.report ("unalias: ".toList ++ name ++ " not found\n".toList))) (true, process)
      goOn process (statusOf isGood)

end TemplateLint.Machine.Shell
