import TemplateLint.Machine.Octets

set_option autoImplicit false

/-!
The names of a shell and what they are bound to.
-/

namespace TemplateLint.Machine.Shell

structure Binding where
  name : Octets
  value? : Option Octets
  isExported : Bool
  isReadOnly : Bool
deriving DecidableEq, Repr

structure Bindings where
  entries : List Binding
  exportsAll : Bool
deriving DecidableEq, Repr

namespace Bindings

def find? (bindings : Bindings) (name : Octets) : Option Binding :=
  bindings.entries.find? fun entry => entry.name == name

def get? (bindings : Bindings) (name : Octets) : Option Octets :=
  (bindings.find? name).bind Binding.value?

def isReadOnly (bindings : Bindings) (name : Octets) : Bool :=
  ((bindings.find? name).map Binding.isReadOnly).getD false

def erase (bindings : Bindings) (name : Octets) : Bindings :=
  { bindings with entries := bindings.entries.filter fun entry => entry.name != name }

def put (bindings : Bindings) (binding : Binding) : Bindings :=
  { bindings with entries := binding :: (bindings.erase binding.name).entries }

def set (bindings : Bindings) (name value : Octets) : Bindings :=
  match bindings.find? name with
  | some entry =>
      bindings.put ⟨name, some value, entry.isExported || bindings.exportsAll, entry.isReadOnly⟩
  | none => bindings.put ⟨name, some value, bindings.exportsAll, false⟩

def mark (bindings : Bindings) (name : Octets) (change : Binding → Binding) : Bindings :=
  bindings.put (change ((bindings.find? name).getD ⟨name, none, false, false⟩))

def markExported (bindings : Bindings) (name : Octets) : Bindings :=
  bindings.mark name fun entry => { entry with isExported := true }

def markReadOnly (bindings : Bindings) (name : Octets) : Bindings :=
  bindings.mark name fun entry => { entry with isReadOnly := true }

def reset (bindings : Bindings) (name : Octets) (earlier : Option Binding) : Bindings :=
  match earlier with
  | some entry => bindings.put entry
  | none => bindings.erase name

def forProgram (bindings : Bindings) : Bindings :=
  let known := bindings.entries.filter fun entry => entry.isExported && entry.value?.isSome
  ⟨known.map fun entry => { entry with isReadOnly := false }, false⟩

def ascending (bindings : Bindings) : List Binding :=
  bindings.entries.mergeSort fun left right => notAfter left.name right.name

end Bindings

end TemplateLint.Machine.Shell
