import TemplateLint.Number.Double

set_option autoImplicit false

/-!
TOML values, and the table that the lines of a document build.

While a document is read, a table remembers how it came about, because that decides what may still be added
to it.  A table may be opened by a header once; a table that only lies on the way to another header may still
get its own header; a table that dotted keys have made grows by dotted keys only; a value is complete.
-/

namespace TemplateLint

inductive Toml where
  | string (text : String)
  | integer (n : Int)
  | float (number : Double)
  | bool (value : Bool)
  | moment (text : String)
  | array (items : List Toml)
  | table (members : List (String × Toml))

namespace Toml

def member? (document : Toml) (key : String) : Option Toml :=
  match document with
  | .table members => (members.find? fun pair => pair.1 == key).map (·.2)
  | _ => none

def string? : Toml → Option String
  | .string text => some text
  | _ => none

inductive Origin where
  /-- It lies on the way to the table of a header. -/
  | implied
  /-- A header opened it. -/
  | header
  /-- It lies on the way of a dotted key. -/
  | dotted
deriving DecidableEq, Repr

inductive Node where
  | value (value : Toml)
  | table (origin : Origin) (members : List (String × Node))
  /-- An array of tables that headers extend, last one first. -/
  | tables (elements : List (List (String × Node)))

abbrev Members := List (String × Node)

abbrev KeyPath := List String

namespace Members

def find? (members : Members) (key : String) : Option Node :=
  (List.find? (fun pair => pair.1 == key) members).map (·.2)

def put (key : String) (node : Node) : Members → Members
  | [] => [(key, node)]
  | (other, old) :: rest => if other = key then (key, node) :: rest else (other, old) :: put key node rest

end Members

/-- Applies a change to the table at a path of keys on the way to a header.  Tables that are missing are
implied; of an array of tables the last one is meant. -/
def underHeader (change : Members → Option Members) : KeyPath → Members → Option Members
  | [], members => change members
  | key :: path, members =>
      match members.find? key with
      | none => (underHeader change path []).map fun inner => members.put key (.table .implied inner)
      | some (.table origin inner) =>
          (underHeader change path inner).map fun inner => members.put key (.table origin inner)
      | some (.tables (last :: others)) =>
          (underHeader change path last).map fun last => members.put key (.tables (last :: others))
      | some _ => none

def openTable (key : String) (members : Members) : Option Members :=
  match members.find? key with
  | none => some (members.put key (.table .header []))
  | some (.table .implied inner) => some (members.put key (.table .header inner))
  | some _ => none

def appendTable (key : String) (members : Members) : Option Members :=
  match members.find? key with
  | none => some (members.put key (.tables [[]]))
  | some (.tables elements) => some (members.put key (.tables ([] :: elements)))
  | some _ => none

/-- Puts a value under a dotted key.  Tables on the way must not have been opened by a header, and the
innermost one must have been made by dotted keys. -/
def putValue (value : Toml) : KeyPath → Members → Option Members
  | [], _ => none
  | [key], members =>
      match members.find? key with
      | none => some (members.put key (.value value))
      | some _ => none
  | key :: next :: path, members =>
      let isInnermost := path.isEmpty
      match members.find? key with
      | none => (putValue value (next :: path) []).map fun inner => members.put key (.table .dotted inner)
      | some (.table origin inner) =>
          if origin = .header ∨ (isInnermost ∧ origin ≠ .dotted) then none
          else (putValue value (next :: path) inner).map fun inner => members.put key (.table origin inner)
      | some (.tables (last :: others)) =>
          if isInnermost then none
          else (putValue value (next :: path) last).map fun last => members.put key (.tables (last :: others))
      | some _ => none

def Node.finish : Node → Toml
  | .value whole => whole
  | .table _ members => .table (finishMembers members)
  | .tables elements => .array (finishTables elements).reverse
where
  finishMembers : List (String × Node) → List (String × Toml)
    | [] => []
    | (key, node) :: rest => (key, node.finish) :: finishMembers rest
  finishTables : List (List (String × Node)) → List Toml
    | [] => []
    | members :: rest => .table (finishMembers members) :: finishTables rest

end Toml

end TemplateLint
