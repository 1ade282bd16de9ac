import TemplateLint.Machine.Utility.Basic

set_option autoImplicit false

/-!
Programs that start other programs, as the steps that they take.
-/

namespace TemplateLint.Machine.Utility

open Shell (Process)

inductive Step where
  | say (text : Octets)
  | run (words : List Octets)

structure Course where
  process : Process
  steps : List Step
  replaces : Bool
  /-- What is said about a program that cannot be started, in front of the reason. -/
  complaint : Octets → Octets
  combine : Nat → Nat → Nat
  /-- What is said about a program that has ended with a status after which nothing more is started. -/
  stops? : Octets → Nat → Option Octets

def Course.over (process : Process) : Course where
  process := process
  steps := []
  replaces := false
  complaint := id
  combine := fun _ status => status
  stops? := fun _ _ => none

def Course.into (process : Process) (complaint : Octets → Octets) (words : List Octets) : Course where
  process := process
  steps := [.run words]
  replaces := true
  complaint := complaint
  combine := fun _ status => status
  stops? := fun _ _ => none

abbrev Launcher := List Octets → Process → Course

end TemplateLint.Machine.Utility
