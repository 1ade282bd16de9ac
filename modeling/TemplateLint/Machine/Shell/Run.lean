import TemplateLint.Machine.Shell.Builtin.Table
import TemplateLint.Machine.Utility.Table

set_option autoImplicit false

/-!
The run of scripts.

Every function that runs commands has a bound on the depth of calls.  The commands of a pipeline run one after
the other, and what one of them writes is what the next one reads.
-/

namespace TemplateLint.Machine.Shell

open Utility (Course Step)

/-! ### Words that name a command -/

/-- True when a command whose words have been expanded so far takes assignments as its operands; none when
its name is not known yet. -/
def takesAssignments? (process : Process) (seesFunctions : Bool) : List Octets → Option Bool
  | [] => none
  | name :: rest =>
      let text := String.ofList name
      if seesFunctions && process.functions.any fun function => function.name == name then some false
      else if text = "command" then
        takesAssignments? process false (rest.dropWhile fun word => word.head? == some '-')
      else some (keepsAssignments text)
termination_by words => words.length
decreasing_by
  have := (List.dropWhile_sublist (l := rest) fun word => word.head? == some '-').length_le
  simp only [List.length_cons]
  omega

def expandCommand (substitute : Substitute) (done : List Octets) : List Word → Process →
    Expanded (List Octets)
  | [], process => (.ok done, process)
  | word :: rest, process =>
      match takesAssignments? process true done with
      | some keeps =>
          (expandWords substitute keeps (word :: rest) process).bind fun texts process =>
            (.ok (done ++ texts), process)
      | none =>
          (expandFields substitute word process).bind fun texts process =>
            expandCommand substitute (done ++ texts) rest process

structure Plan where
  words : List Octets
  seesFunctions : Bool
  usesKnownPath : Bool
  isSpecial : Bool
  hidesAssignments : Bool

/-- The operands of `command` that name a command, and whether it is looked for in the directories that every
machine has; none when they ask for something else. -/
def commandOperands? : List Octets → Option (List Octets × Bool)
  | [] => none
  | word :: rest =>
      match word with
      | ['-', '-'] => if rest.isEmpty then none else some (rest, false)
      | '-' :: letters =>
          if letters.isEmpty then some (word :: rest, false)
          else if letters.all (· == 'p') then (commandOperands? rest).map fun (words, _) => (words, true)
          else none
      | _ => some (word :: rest, false)

/-- The plan for words behind any number of `command`s, of which at most `fuel` are passed. -/
def planBehind : Nat → Plan → Plan
  | 0, plan => plan
  | fuel + 1, plan =>
      match plan.words with
      | name :: operands =>
          if name == "command".toList then
            match commandOperands? operands with
            | some (words, usesKnownPath) =>
                planBehind fuel { plan with
                  words := words
                  seesFunctions := false
                  usesKnownPath := plan.usesKnownPath || usesKnownPath }
            | none => plan
          else plan
      | [] => plan

def planOf (process : Process) (words : List Octets) : Plan :=
  let name := words.head?.getD []
  let isFunction := process.functions.any fun function => function.name == name
  let isSpecial := !isFunction && isSpecialName (String.ofList name)
  let plan : Plan := ⟨words, true, false, isSpecial, !words.isEmpty && !isSpecial⟩
  if isFunction then plan else planBehind words.length plan

/-! ### Processes -/

/-- The state of a shell whose process has been forked; what is made by it is later than what was there. -/
def Process.forkLater (process : Process) : Process :=
  let files := process.files
  { process.fork with
    shared := { process.fork.shared with files := { files with time := files.time + 1 } }
    parentNumber := process.number }

def Process.hasTraps (process : Process) : Bool := process.traps.any fun entry => !entry.2.isEmpty

/-- How the shell goes on after a process it has waited for, the status of the process, and the state of the
shell. -/
def afterChild (result : Flow × Process) (process : Process) : Flow × Nat × Process :=
  let process := { process.restore result.2 with
    jobs := process.jobs.map fun job => { job with isUnseen := job.isUnseen && job.isSleeping } }
  match result.1 with
  | .endless => (.endless, 0, process)
  | .killed signal =>
      let process := match signalText? signal with
        | some text => process.report (text.toList ++ ['\n'])
        | none => process
      (.next, signalStatus signal, process)
  | _ => (.next, result.2.status % 256, process)

/-- The state with a new job in the first free place; a job that has been waited for leaves its place. -/
def Process.addJob (process : Process) (number status : Nat) (isSleeping : Bool) : Process :=
  let kept := process.jobs.filter fun job => !job.isWaitedFor
  let isFree := fun (index : Nat) => !kept.any fun job => job.index == index
  let index := ((List.range (kept.length + 1)).map (· + 1)).find? isFree
  let job : Job := ⟨index.getD 1, number, status, isSleeping, true, false⟩
  { process with
    jobs := job :: process.jobs.filter fun other => other.index != job.index
    lastJob := some number }

def Process.undo (outer : Process) (redirections : List Redirection) (inner : Process) : Process :=
  redirections.foldl (fun inner redirection =>
    match redirection with
    | .mk descriptor _ _ =>
        match outer.channel? descriptor with
        | some index => inner.connect descriptor index
        | none => inner.close descriptor) inner

def Process.forProgram (process : Process) (name : Octets) : Process :=
  { process with
    bindings := process.bindings.forProgram
    aliases := []
    parameters := []
    optionPlace := ⟨1, 0⟩
    functions := []
    known := []
    status := 0
    innerStatus := 0
    statusOutside := none
    options := []
    loops := 0
    calls := 0
    hidden := none
    hiddenOptions := none
    line := 0
    commandName := some name
    traps := process.traps.filter fun entry => entry.2.isEmpty && entry.1 != 0
    pending := []
    jobs := []
    lastJob := none }

def Process.forShell (process : Process) (name : Octets) : Process :=
  let given := process.bindings.get? "PWD".toList
  let isHere := fun (text : Octets) =>
    text.head? == some '/' && (process.locate text).toOption == some process.directory
  let directory := (given.filter isHere).getD (placeText process.directory)
  let bindings := [("IFS", " \t\n".toList), ("OPTIND", ['1']), ("PPID", natText process.parentNumber),
    ("PS1", "# ".toList), ("PS2", "> ".toList), ("PS4", "+ ".toList)].foldl
      (fun (bindings : Bindings) (entry : String × Octets) =>
        if entry.1.startsWith "PS" && (bindings.get? entry.1.toList).isSome then bindings
        else bindings.set entry.1.toList entry.2) process.bindings
  { process with
    bindings := (bindings.set "PWD".toList directory).markExported "PWD".toList
    directoryText := directory
    shellNumber := process.number
    scriptName := name
    commandName := none }

/-! ### Programs -/

def asScript (process : Process) (path : Octets) : StartError → Except StartError Image
  | .notExecutable =>
      let shell := "/bin/sh".toList
      (image process.files process.directory shell shell).map fun image =>
        { image with first := image.first ++ [path] }
  | error => .error error

def imageAt (process : Process) (path name : Octets) : Except StartError Image :=
  match image process.files process.directory path name with
  | .ok image => .ok image
  | .error error => asScript process path error

/-- What is started under a name in the first of some directories where it can be started; otherwise the last
hindrance counts, besides that there is nothing. -/
def imageIn (process : Process) (name : Octets) : List Octets → StartError → Except StartError Image
  | [], error => .error error
  | first :: rest, error =>
      match imageAt process (nameIn first name) name with
      | .ok image => .ok image
      | .error (.path .missing) | .error (.path .notDirectory) => imageIn process name rest error
      | .error other => imageIn process name rest other

def findImage (process : Process) (path name : Octets) : Except StartError Image :=
  if name.contains '/' then imageAt process name name
  else imageIn process name (splitAt ':' path) (.path .missing)

def isAbsence : StartError → Bool
  | .path _ => true
  | _ => false

def startReason : StartError → Octets
  | .path .missing | .path .notDirectory => "not found".toList
  | other => other.message.toList

def startStatus (error : StartError) : Nat := if isAbsence error then 127 else 126

def Process.settleWriting (process : Process) (isProgram : Bool) : Flow × Process :=
  if process.isUnread && !process.traps.any (fun entry => entry.1 == pipeSignal) then
    (.killed pipeSignal, { process with isUnread := false, writeError := none })
  else
    let reason := if process.isUnread then some "Broken pipe" else process.writeError
    let process := { process with isUnread := false, writeError := none }
    match reason with
    | none => (.next, process)
    | some reason =>
        let name := process.commandName.getD []
        if isProgram then
          let process := process.report (name ++ ": write error: ".toList ++ reason.toList ++ ['\n'])
          (.next, process.withStatus (if ["ls", "sort", "grep"].contains (String.ofList name) then 2 else 1))
        else
          (.next, (process.complain (name ++ ": I/O error".toList)).withStatus (process.status ||| 1))

def isSleep : Command → Bool
  | .simple _ _ (word :: _) _ => plainText word == "sleep".toList
  | .subshell _ body => isSleep body
  | .redirected _ body _ => isSleep body
  | _ => false

def pipeLimit : Nat := 1048576

def traceText (prompt : Octets) (assigned : List Octets) (words : List Octets) : Octets :=
  prompt ++ joinWords (assigned ++ words) ++ ['\n']

/-- True of the prompts with a command in parentheses, which cannot be read to its end. -/
def hasCommand : Octets → Bool
  | first :: second :: rest =>
      (first == '$' && second == '(' && rest.head? != some '(') || hasCommand (second :: rest)
  | _ => false

def sourceFile? (process : Process) (name : Octets) : Option Octets :=
  if name.contains '/' then some name
  else
    let paths := (splitAt ':' process.searchPath).map fun directory => nameIn directory name
    paths.find? fun path =>
      match (process.item? path).map Item.node with
      | some (.file _) => true
      | _ => false

def runQuery (operands : List Octets) (process : Process) : Flow × Process :=
  withOptions "pvV" operands process fun options operands =>
    let letter := (options.reverse.find? fun option => option.1 != 'p').map Prod.fst
    match letter, operands with
    | some letter, name :: _ =>
        let path := if hasOption options 'p' then programPath else process.searchPath
        let (isFound, process) := describe (letter == 'V') path name process
        goOn process (if isFound then 0 else 127)
    | _, _ => goOn process 0

mutual

/-- Runs a command inside a word in a process of its own, and gives what it writes. -/
def substitute : Nat → Command → Process → Expanded Octets
  | 0, _, process => (.error .endless, process)
  | fuel + 1, body, process =>
      match body with
      | .sequence [] => (.ok [], process)
      | _ =>
          let (index, shared) := process.shared.openStream (.collector [] 0 none)
          let process := { process with shared := shared }
          let result := runChild fuel ⟨false, true⟩ body (process.forkLater.connect 1 index)
          let text := (result.2.shared.collected index).filter (· != nul)
          let (flow, status, process) := afterChild result process
          let process := { process with
            shared := process.shared.setStream index (.device .empty)
            innerStatus := status }
          (if flow = .next then .ok text else .error flow, process)

def runChild : Nat → Manner → Command → Process → Flow × Process
  | 0, _, _, process => (.endless, process)
  | fuel + 1, manner, body, process => finish fuel (execute fuel manner body process)

def finish : Nat → Flow × Process → Flow × Process
  | 0, (_, process) => (.endless, process)
  | fuel + 1, (flow, process) =>
      match flow with
      | .killed _ | .endless => (flow, process)
      | _ =>
          match process.traps.find? fun entry => entry.1 == 0 with
          | none => (.next, process)
          | some (_, action) =>
              let status := process.status
              let inner := { process with
                traps := process.traps.filter fun entry => entry.1 != 0
                statusOutside := some status
                commandName := none
                loops := 0 }
              match runText fuel ⟨false, false⟩ none (Cursor.start action 1 process.aliases) inner with
              | (.killed signal, process) => (.killed signal, process)
              | (.endless, process) => (.endless, process)
              | (.exits, process) | (.fails, process) => (.next, process)
              | (_, process) => (.next, process.withStatus status)

def runTraps : Nat → Process → Flow × Process
  | 0, process => (.endless, process)
  | fuel + 1, process =>
      if process.shared.signals.isEmpty && process.pending.isEmpty then (.next, process)
      else
        match process.deliver with
        | (some signal, process) => (.killed signal, process)
        | (none, process) =>
            match process.pending.min? with
            | none => (.next, process)
            | some signal =>
                let waiting := { process with pending := process.pending.filter (· != signal) }
                match process.traps.find? fun entry => entry.1 == signal with
                | none => runTraps fuel waiting
                | some (_, action) =>
                    let status := process.status
                    let inner := { waiting with statusOutside := process.statusOutside.orElse fun _ => some status }
                    match runText fuel ⟨false, false⟩ none (Cursor.start action 1 process.aliases) inner with
                    | (.next, inner) =>
                        runTraps fuel { inner with status := status, statusOutside := process.statusOutside }
                    | (flow, inner) => (flow, { inner with statusOutside := process.statusOutside })

def execute : Nat → Manner → Command → Process → Flow × Process
  | 0, _, _, process => (.endless, process)
  | fuel + 1, manner, command, process =>
      if process.has 'n' then (.next, process)
      else
        match runTraps fuel process with
        | (.next, process) =>
            match perform fuel manner command process with
            | (.next, process) =>
                let status := process.status
                match runTraps fuel process with
                | (.next, process) =>
                    let isChecked := match command with
                      | .simple _ _ _ _ | .subshell _ _ | .redirected _ (.subshell _ _) _ | .background _
                      | .pipeline _ => true
                      | _ => false
                    if isChecked && !manner.isTested && status != 0 && process.has 'e' then (.exits, process)
                    else (.next, process)
                | other => other
            | other => other
        | other => other

def perform : Nat → Manner → Command → Process → Flow × Process
  | 0, _, _, process => (.endless, process)
  | fuel + 1, manner, command, process =>
      let inner : Manner := ⟨manner.isTested, false⟩
      match command with
      | .simple line assignments words redirections =>
          runSimple fuel manner assignments words redirections
            { process with line := line, innerStatus := 0 }
      | .subshell line body => runSubshell fuel manner body [] { process with line := line }
      | .redirected line (.subshell _ body) redirections =>
          runSubshell fuel manner body redirections { process with line := line }
      | .redirected line body redirections =>
          let process := { process with line := line }
          match redirectAll (substitute fuel) redirections process with
          | (.error flow, after) => (flow, process.undo redirections after)
          | (.ok false, after) =>
              let after := (process.undo redirections after).withStatus 2
              (if !manner.isTested && process.has 'e' then .exits else .next, after)
          | (.ok true, after) =>
              let (flow, after) := execute fuel inner body after
              (flow, process.undo redirections after)
      | .pipeline commands => runStages fuel ⟨manner.isTested, true⟩ commands none process
      | .negation body =>
          let (flow, process) := execute fuel ⟨true, false⟩ body process
          match flow with
          | .exits | .fails | .killed _ | .endless => (flow, process)
          | _ => (flow, process.withStatus (statusOf (process.status != 0)))
      | .both first second =>
          match execute fuel ⟨true, false⟩ first process with
          | (.next, process) =>
              if process.status = 0 then execute fuel manner second process else (.next, process)
          | other => other
      | .either first second =>
          match execute fuel ⟨true, false⟩ first process with
          | (.next, process) =>
              if process.status = 0 then (.next, process) else execute fuel manner second process
          | other => other
      | .sequence commands => runAll fuel manner commands process
      | .background body =>
          let child := process.forkLater.connectNew 0 (.device .empty)
          let result := runChild fuel ⟨false, true⟩ body child
          match result.1 with
          | .endless => (.endless, process.restore result.2)
          | flow =>
              let status := match flow with
                | .killed signal => signalStatus signal
                | _ => result.2.status % 256
              goOn ((process.restore result.2).addJob child.number status (isSleep body)) 0
      | .conditional condition accepted rejected =>
          match execute fuel ⟨true, false⟩ condition process with
          | (.next, process) =>
              if process.status = 0 then execute fuel manner accepted process
              else
                match rejected with
                | some rejected => execute fuel manner rejected process
                | none => goOn process 0
          | other => other
      | .loop isUntil condition body =>
          let (flow, after) :=
            runLoop fuel inner isUntil condition body 0 { process with loops := process.loops + 1 }
          (flow, { after with loops := process.loops })
      | .each line name words body =>
          match expandWords (substitute fuel) false words { process with line := line } with
          | (.error flow, process) => (flow, process)
          | (.ok values, process) =>
              let (flow, after) := runEach fuel inner name body values
                { process with loops := process.loops + 1, status := 0 }
              (flow, { after with loops := process.loops })
      | .choice line subject branches =>
          match expandText (substitute fuel) .atStart subject { process with line := line } with
          | (.error flow, process) => (flow, process)
          | (.ok text, process) => runChoice fuel manner text branches process
      | .definition name line body =>
          let others := process.functions.filter fun function => function.name != name
          goOn { process with functions := ⟨name, line, body⟩ :: others } 0

/-- Runs a command in a process of its own, which is the current one if nothing follows. -/
def runSubshell : Nat → Manner → Command → List Redirection → Process → Flow × Process
  | 0, _, _, _, process => (.endless, process)
  | fuel + 1, manner, body, redirections, process =>
      let run := fun (child : Process) =>
        match redirectAll (substitute fuel) redirections child with
        | (.error flow, child) => (flow, child)
        | (.ok false, child) => (.exits, child.withStatus 2)
        | (.ok true, child) => execute fuel ⟨manner.isTested, true⟩ body child
      if manner.isLast && !process.hasTraps then
        match run process with
        | (.next, process) => (.next, process)
        | (.leaves _, process) | (.repeats _, process) | (.returns, process) => (.exits, process)
        | other => other
      else
        let (flow, status, process) := afterChild (finish fuel (run process.forkLater)) process
        (flow, process.withStatus status)

def runAll : Nat → Manner → List Command → Process → Flow × Process
  | 0, _, _, process => (.endless, process)
  | _ + 1, _, [], process => (.next, process)
  | fuel + 1, manner, [command], process => execute fuel manner command process
  | fuel + 1, manner, command :: rest, process =>
      match execute fuel ⟨manner.isTested, false⟩ command process with
      | (.next, process) => runAll fuel manner rest process
      | other => other

/-- Runs the commands of a pipeline: each reads what the one before it has written. -/
def runStages : Nat → Manner → List Command → Option Nat → Process → Flow × Process
  | 0, _, _, _, process => (.endless, process)
  | _ + 1, _, [], _, process => (.next, process)
  | fuel + 1, manner, command :: rest, input, process =>
      let child := match input with
        | some index => process.forkLater.connect 0 index
        | none => process.forkLater
      if rest.isEmpty then
        let (flow, status, process) := afterChild (runChild fuel manner command child) process
        (flow, process.withStatus status)
      else
        let (index, shared) := child.shared.openStream (.collector [] 0 (some pipeLimit))
        let result := runChild fuel manner command ({ child with shared := shared }.connect 1 index)
        let (flow, _, process) := afterChild result process
        if flow = .next then
          let shared := process.shared.setStream index (.source (process.shared.collected index))
          runStages fuel manner rest (some index) { process with shared := shared }
        else (flow, process)

def runLoop : Nat → Manner → Bool → Command → Command → Nat → Process → Flow × Process
  | 0, _, _, _, _, _, process => (.endless, process)
  | fuel + 1, manner, isUntil, condition, body, status, process =>
      match execute fuel ⟨true, false⟩ condition process with
      | (.next, process) =>
          if (process.status == 0) == isUntil then (.next, process.withStatus status)
          else
            match execute fuel manner body process with
            | (.next, process) => runLoop fuel manner isUntil condition body process.status process
            | (.leaves count, process) => (if count ≤ 1 then .next else .leaves (count - 1), process)
            | (.repeats count, process) =>
                if count ≤ 1 then runLoop fuel manner isUntil condition body process.status process
                else (.repeats (count - 1), process)
            | other => other
      | (.leaves count, process) =>
          (if count ≤ 1 then .next else .leaves (count - 1), process.withStatus status)
      | (.repeats count, process) =>
          if count ≤ 1 then runLoop fuel manner isUntil condition body status process
          else (.repeats (count - 1), process.withStatus status)
      | other => other

def runEach : Nat → Manner → Octets → Command → List Octets → Process → Flow × Process
  | 0, _, _, _, _, process => (.endless, process)
  | _ + 1, _, _, _, [], process => (.next, process)
  | fuel + 1, manner, name, body, value :: rest, process =>
      match process.assign? name value with
      | .error reason => process.fail reason
      | .ok process =>
          match execute fuel manner body process with
          | (.next, process) => runEach fuel manner name body rest process
          | (.leaves count, process) => (if count ≤ 1 then .next else .leaves (count - 1), process)
          | (.repeats count, process) =>
              if count ≤ 1 then runEach fuel manner name body rest process
              else (.repeats (count - 1), process)
          | other => other

def runChoice : Nat → Manner → Octets → List (List Word × Command) → Process → Flow × Process
  | 0, _, _, _, process => (.endless, process)
  | _ + 1, _, _, [], process => goOn process 0
  | fuel + 1, manner, text, (patterns, body) :: rest, process =>
      match matchesAny fuel text patterns process with
      | (.error flow, process) => (flow, process)
      | (.ok false, process) => runChoice fuel manner text rest process
      | (.ok true, process) =>
          match body with
          | .sequence [] => goOn process 0
          | _ => execute fuel manner body process

def matchesAny : Nat → Octets → List Word → Process → Expanded Bool
  | 0, _, _, process => (.error .endless, process)
  | _ + 1, _, [], process => (.ok false, process)
  | fuel + 1, text, pattern :: rest, process =>
      match expandMarks (substitute fuel) .atStart pattern process with
      | (.error flow, process) => (.error flow, process)
      | (.ok marks, process) =>
          if matchesAll (elements marks) text then (.ok true, process)
          else matchesAny fuel text rest process

/-- Carries out the assignments in front of a command, and gives them as texts.  The names get their values
for the command alone if that is asked for. -/
def assignAll : Nat → Bool → Bool → List (Octets × Word) → Process → Expanded (List Octets)
  | 0, _, _, _, process => (.error .endless, process)
  | _ + 1, _, _, [], process => (.ok [], process)
  | fuel + 1, hides, exports, (name, word) :: rest, process =>
      (expandText (substitute fuel) .atColons word process).bind fun value process =>
        let process := if hides then process.hide name else process
        match process.assign? name value with
        | .error reason => Expanded.refuse process reason
        | .ok process =>
            let process := if hides || exports then
                { process with bindings := process.bindings.markExported name }
              else process
            (assignAll fuel hides exports rest process).bind fun texts process =>
              (.ok ((name ++ '=' :: value) :: texts), process)

def runSimple : Nat → Manner → List (Octets × Word) → List Word → List Redirection → Process → Flow × Process
  | 0, _, _, _, _, process => (.endless, process)
  | fuel + 1, manner, assignments, words, redirections, process =>
      match expandCommand (substitute fuel) [] words process with
      | (.error flow, process) => (flow, process)
      | (.ok texts, process) =>
          let plan := planOf process texts
          let isExec := plan.words.head? == some "exec".toList
          match redirectAll (substitute fuel) redirections process with
          | (.error flow, after) => (flow, process.undo redirections after)
          | (.ok false, after) =>
              (if plan.isSpecial then .fails else .next, (process.undo redirections after).withStatus 2)
          | (.ok true, after) =>
              let framed := if plan.hidesAssignments then { after with hidden := some [] } else after
              let exports := isExec && plan.words.length > 1
              let (flow, after) :=
                match assignAll fuel plan.hidesAssignments exports assignments framed with
                | (.error flow, after) => (flow, after)
                | (.ok assigned, after) =>
                    let after := if process.has 'x' then trace fuel (process.channel? 2) assigned texts after
                      else after
                    runPlan fuel manner plan after
              let after := if plan.hidesAssignments then
                  { after.reveal (after.hidden.getD []) with hidden := process.hidden }
                else after
              (flow, if isExec && flow = .next then after else process.undo redirections after)

def trace : Nat → Option Nat → List Octets → List Octets → Process → Process
  | 0, _, _, _, process => process
  | fuel + 1, stream, assigned, words, process =>
      let prompt := (process.bindings.get? "PS4".toList).getD []
      let plain := { process with options := process.options.filter (· != 'x') }
      let complained := if hasCommand prompt then
          process.complain "Syntax error: end of file unexpected (expecting \")\")".toList
        else process
      let shown := match if hasCommand prompt then none else readUnquoted? prompt with
        | none => prompt
        | some word =>
            match expandText (substitute fuel) .never word plain with
            | (.ok text, _) => text
            | (.error _, _) => prompt
      match stream with
      | none => complained
      | some index =>
          match complained.shared.write index (traceText shown assigned words) with
          | .done shared => { complained with shared := shared }
          | _ => complained

def runPlan : Nat → Manner → Plan → Process → Flow × Process
  | 0, _, _, process => (.endless, process)
  | fuel + 1, manner, plan, process =>
      match plan.words with
      | [] => goOn process process.innerStatus
      | name :: operands =>
          let function? := if plan.seesFunctions then
              process.functions.find? fun function => function.name == name
            else none
          match function? with
          | some function => runFunction fuel manner function operands process
          | none =>
              if isBuiltinName (String.ofList name) then
                let (flow, after) := runBuiltin fuel manner name operands { process with commandName := some name }
                let (flow, after) := if flow = .next then
                    let (ending, settled) := after.settleWriting false
                    (ending, settled)
                  else (flow, after)
                (if flow = .fails && !plan.isSpecial then .next else flow,
                  { after with commandName := process.commandName })
              else
                let path := if plan.usesKnownPath then programPath else process.searchPath
                runNamed fuel manner path name operands process

def runFunction : Nat → Manner → Function → List Octets → Process → Flow × Process
  | 0, _, _, _, process => (.endless, process)
  | fuel + 1, manner, function, operands, process =>
      if 1000 ≤ process.calls then
        process.fail "Maximum function recursion depth (1000) reached".toList
      else
        let (flow, after) := execute fuel ⟨manner.isTested, false⟩ function.body { process with
          parameters := operands
          optionPlace := ⟨1, 0⟩
          loops := 0
          calls := process.calls + 1
          hiddenOptions := none }
        let after := match after.hiddenOptions with
          | some letters => after.withOptionLetters letters
          | none => after
        (if flow = .returns then .next else flow,
          { after with
            parameters := process.parameters
            optionPlace := process.optionPlace
            loops := process.loops
            calls := process.calls
            hiddenOptions := process.hiddenOptions })

def runBuiltin : Nat → Manner → Octets → List Octets → Process → Flow × Process
  | 0, _, _, _, process => (.endless, process)
  | fuel + 1, manner, name, operands, process =>
      match String.ofList name with
      | "eval" =>
          if operands.isEmpty then goOn process 0
          else
            runText fuel ⟨manner.isTested, false⟩ (some 0)
              (Cursor.start (joinWords operands) 1 process.aliases) process
      | "." =>
          withOptions "" operands process fun _ operands =>
            match operands with
            | [] => goOn process 0
            | file :: _ =>
                match sourceFile? process file with
                | none => process.fail (file ++ ": not found".toList)
                | some path =>
                    match process.openToRead 10 path with
                    | .error error =>
                        process.fail ("cannot open ".toList ++ path ++ ": ".toList ++ openReason false error)
                    | .ok opened =>
                        let text := opened.readable 10
                        let process := { opened.close 10 with commandName := some path }
                        let (flow, process) := runText fuel ⟨false, false⟩ (some 0)
                          (Cursor.start text 1 process.aliases) process
                        (if flow = .returns then .next else flow, process)
      | "exec" =>
          withOptions "" operands process fun _ operands =>
            match operands with
            | [] => goOn process 0
            | name :: operands =>
                match findImage process process.searchPath name with
                | .error error =>
                    let process := process.complain (name ++ ": ".toList ++ startReason error)
                    (.exits, process.withStatus (startStatus error))
                | .ok image => runImage fuel image operands process
      | "command" => runQuery operands process
      | text =>
          match builtin? text with
          | some run => run operands process
          | none => goOn process 0

def runImage : Nat → Image → List Octets → Process → Flow × Process
  | 0, _, _, process => (.endless, process)
  | fuel + 1, image, operands, process =>
      let (flow, after) := runProgram fuel image operands process
      (if flow = .next then .exits else flow,
        { process.restore after with status := after.status, traps := [] })

/-- Runs the program with a name, in a process of its own unless nothing follows. -/
def runNamed : Nat → Manner → Octets → Octets → List Octets → Process → Flow × Process
  | 0, _, _, _, _, process => (.endless, process)
  | fuel + 1, manner, path, name, operands, process =>
      let start := fun (process : Process) =>
        if manner.isLast && !process.hasTraps then
          match findImage process path name with
          | .ok image => runImage fuel image operands process
          | .error error =>
              (.exits, (process.complain (name ++ ": ".toList ++ startReason error)).withStatus
                (startStatus error))
        else
          match findImage process path name with
          | .ok image =>
              let (flow, status, process) :=
                afterChild (runProgram fuel image operands process.forkLater) process
              (flow, process.withStatus status)
          | .error error =>
              goOn (process.complain (name ++ ": ".toList ++ startReason error)) (startStatus error)
      if name.contains '/' then start process
      else
        match locateProgram process path name with
        | .found _ => start { process with known := name :: process.known.filter (· != name) }
        | .denied => goOn (process.complain (name ++ ": Permission denied".toList)) 127
        | .missing => goOn (process.complain (name ++ ": not found".toList)) 127

def runProgram : Nat → Image → List Octets → Process → Flow × Process
  | 0, _, _, process => (.endless, process)
  | fuel + 1, image, operands, process =>
      let process := process.forProgram image.name
      let operands := image.first ++ operands
      if image.program = "sh" then runShell fuel operands (process.forShell image.name)
      else
        match Utility.launcher? image.program with
        | some launcher => runCourse fuel (launcher operands process)
        | none =>
            match Utility.utility? image.program with
            | some run => (run operands process).settleWriting true
            | none => goOn process 0

def runCourse : Nat → Course → Flow × Process
  | 0, course => (.endless, course.process)
  | fuel + 1, course =>
      let process := course.process
      match course.steps with
      | [] => process.settleWriting true
      | .say text :: rest => runCourse fuel { course with process := process.say text, steps := rest }
      | .run [] :: rest => runCourse fuel { course with steps := rest }
      | .run (name :: operands) :: rest =>
          match findImage process ((process.bindings.get? "PATH".toList).getD programPath) name with
          | .error error =>
              let reason := error.message.toList
              let complained := Utility.warn process (course.complaint name ++ ": ".toList ++ reason)
              goOn complained (if error = .path .missing then 127 else 126)
          | .ok image =>
              if course.replaces then runProgram fuel image operands process
              else
                let outer := process.status
                let result := runProgram fuel image operands process.forkLater
                match result.1 with
                | .endless => (.endless, process.restore result.2)
                | flow =>
                    let status := match flow with
                      | .killed signal => 256 + signal
                      | _ => result.2.status % 256
                    let process := (process.restore result.2).withStatus (course.combine outer status)
                    match course.stops? name status with
                    | some text => (.next, Utility.warn process text)
                    | none => runCourse fuel { course with process := process, steps := rest }

def runShell : Nat → List Octets → Process → Flow × Process
  | 0, _, process => (.endless, process)
  | fuel + 1, operands, process =>
      match OptionReading.takeWords true (operands.length + 1) ⟨process, operands, false⟩ with
      | .error reason => (.next, (process.complain reason).withStatus 2)
      | .ok reading =>
          let process := reading.process.settle
          let readInput := fun (process : Process) =>
            let (text, process) := process.takeInput
            runText fuel ⟨false, false⟩ none (Cursor.start text 1 []) process
          match reading.hasText, reading.words with
          | true, [] => (.next, (process.complain "-c requires an argument".toList).withStatus 2)
          | true, text :: rest =>
              let process := { process with
                scriptName := rest.head?.getD process.scriptName
                parameters := rest.drop 1 }
              let readsOn := process.has 's'
              match runText fuel ⟨false, !readsOn⟩ none (Cursor.start text 1 []) process with
              | (.next, process) => finish fuel (if readsOn then readInput process else (.next, process))
              | other => finish fuel other
          | false, words =>
              if words.isEmpty || process.has 's' then
                finish fuel (readInput { process.turn true 's' with parameters := words })
              else
                let file := words.head?.getD []
                match process.openToRead 10 file with
                | .error error =>
                    let reason := "cannot open ".toList ++ file ++ ": ".toList ++ openReason false error
                    (.next, (process.complain reason).withStatus 2)
                | .ok opened =>
                    let text := opened.readable 10
                    finish fuel (runText fuel ⟨false, false⟩ none (Cursor.start text 1 [])
                      { opened.close 10 with scriptName := file, parameters := words.drop 1 })

/-- Runs the lines of a script one after the other.  A status is given for the case that there are no
commands. -/
def runText : Nat → Manner → Option Nat → Cursor → Process → Flow × Process
  | 0, _, _, _, process => (.endless, process)
  | fuel + 1, manner, statusOfNone, cursor, process =>
      if cursor.rest.isEmpty then (.next, process.withStatus (statusOfNone.getD process.status))
      else
        match readLine { cursor with aliases := process.aliases } with
        | .error error =>
            { process with line := error.line }.fail ("Syntax error: " ++ error.message).toList
        | .ok (command?, next) =>
            let process := if process.has 'v' then
                process.report (cursor.rest.take (cursor.rest.length - next.rest.length))
              else process
            match command? with
            | none => runText fuel manner statusOfNone next process
            | some command =>
                match execute fuel ⟨manner.isTested, manner.isLast && next.rest.isEmpty⟩ command process with
                | (.next, process) => runText fuel manner none next process
                | other => other

end

end TemplateLint.Machine.Shell
