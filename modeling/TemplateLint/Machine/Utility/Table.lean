import TemplateLint.Machine.Utility.Calculation
import TemplateLint.Machine.Utility.Grep
import TemplateLint.Machine.Utility.Launch
import TemplateLint.Machine.Utility.Lines
import TemplateLint.Machine.Utility.Sed.Run
import TemplateLint.Machine.Utility.Sorting

set_option autoImplicit false

/-!
The programs of the machine by their names.
-/

namespace TemplateLint.Machine.Utility

def utilities : List (String × Tool) := [
  ("true", fun _ process => process.withStatus 0),
  ("false", fun _ process => process.withStatus 1),
  ("sync", fun _ process => process.withStatus 0),
  ("echo", runEcho), ("printf", runPrintf), ("test", runTest), ("[", runBracket), ("pwd", runPwd),
  ("yes", runYes), ("sleep", runSleep), ("printenv", runPrintenv), ("seq", runSeq),
  ("basename", runBasename), ("dirname", runDirname), ("uname", runUname), ("whoami", runWhoami), ("id", runId),
  ("expr", Calculation.run),
  ("touch", runTouch), ("mkdir", runMkdir), ("rmdir", runRmdir), ("rm", runRm), ("cp", runCp), ("mv", runMv),
  ("ln", runLn), ("link", runLn), ("unlink", runUnlink), ("readlink", runReadlink), ("realpath", runRealpath),
  ("chmod", runChmod), ("chown", runChown), ("chgrp", runChown), ("ls", runLs), ("stat", runStat),
  ("mktemp", runMktemp), ("truncate", runTruncate),
  ("cat", runCat), ("tee", runTee), ("head", runExtent false), ("tail", runExtent true), ("wc", runWc),
  ("tac", runTac), ("rev", runRev), ("nl", runNl), ("fold", runFold), ("cut", runCut), ("paste", runPaste),
  ("uniq", runUniq), ("comm", runComm), ("tr", runTr), ("base64", runBase64), ("od", runOd), ("cmp", runCmp),
  ("sort", Sorting.run), ("sed", Sed.run), ("grep", Grep.runWith []),
  ("egrep", Grep.runWith [⟨"E", []⟩]), ("fgrep", Grep.runWith [⟨"F", []⟩])]

def launchers : List (String × Launcher) := [
  ("env", launchEnv), ("nohup", launchNohup), ("nice", launchNice), ("timeout", launchTimeout),
  ("setsid", launchPlainly "cfw"), ("stdbuf", launchPlainly "i:o:e:"), ("xargs", launchXargs),
  ("find", launchFind)]

def utilityNames : List String := utilities.map Prod.fst

def launcherNames : List String := launchers.map Prod.fst

def utility? (name : String) : Option Tool :=
  (utilities.find? fun entry => entry.1 == name).map Prod.snd

def launcher? (name : String) : Option Launcher :=
  (launchers.find? fun entry => entry.1 == name).map Prod.snd

end TemplateLint.Machine.Utility
