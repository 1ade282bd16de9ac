import TemplateLint.Json.Numeral

set_option autoImplicit false

/-!
JSON documents.

A document keeps what its text says: numbers by their digits, members in order, repeated members included.
A string literal may escape half of a surrogate pair.  Such a literal is well formed but has no text, so the
text of a literal is optional; a document that merely skips the literal is still read.
-/

namespace TemplateLint

inductive Json where
  | null
  | bool (value : Bool)
  | number (numeral : Json.Numeral)
  | string (text : Option String)
  | array (items : List Json)
  | object (members : List (Option String × Json))

namespace Json

def ofString (text : String) : Json := .string (some text)

def ofNat (n : Nat) : Json := .number (Numeral.ofNat n)

def ofMembers (members : List (String × Json)) : Json :=
  .object (members.map fun (key, value) => (some key, value))

def string? : Json → Option String
  | .string text => text
  | _ => none

def items? : Json → Option (List Json)
  | .array items => some items
  | _ => none

def members? : Json → Option (List (String × Json))
  | .object members => members.mapM fun (key, value) => key.map fun key => (key, value)
  | _ => none

def member? (document : Json) (key : String) : Option Json :=
  match document with
  | .object members => (members.find? fun pair => pair.1 == some key).map (·.2)
  | _ => none

def natBelow? (bound : Nat) : Json → Option Nat
  | .number numeral =>
      match numeral.value? with
      | some (.natural n) => if n < bound then some n else none
      | _ => none
  | _ => none

/-! ### Records

A record with known members is written as an object, whose members may come in any order and among others,
or as an array of the values in the order of the declaration.
-/

/-- The value of a known member of an object: it may be absent, but not repeated. -/
def fieldOf (members : List (String × Json)) (name : String) : Option (Option Json) :=
  match members.filter fun pair => pair.1 == name with
  | [] => some none
  | [(_, value)] => some (some value)
  | _ => none

/-- The values of the known members of a record, in the order of the names; a value that is not given is
`none` inside.  The whole is `none` when the document is no record with these members. -/
def fields? (names : List String) (document : Json) : Option (List (Option Json)) :=
  match document with
  | .object _ => document.members?.bind fun members => names.mapM (fieldOf members)
  | .array items =>
      if names.length < items.length then none
      else some (items.map some ++ List.replicate (names.length - items.length) none)
  | _ => none

/-! ### Plain values

A plain value is a document whose every part has a value: texts are whole, numbers are in range, and of
members with one name the last one counts.
-/

def depth : Json → Nat
  | .array items => itemsDepth items + 1
  | .object members => membersDepth members + 1
  | _ => 0
where
  itemsDepth : List Json → Nat
    | [] => 0
    | item :: rest => max item.depth (itemsDepth rest)
  membersDepth : List (Option String × Json) → Nat
    | [] => 0
    | (_, value) :: rest => max value.depth (membersDepth rest)

def putMember (key : String) (value : Json) : List (Option String × Json) → List (Option String × Json)
  | [] => [(some key, value)]
  | (other, old) :: rest =>
      if other == some key then (some key, value) :: rest
      else if other.any (key < ·) then (some key, value) :: (other, old) :: rest
      else (other, old) :: putMember key value rest

def plain? : Json → Option Json
  | .null => some .null
  | .bool value => some (.bool value)
  | .number numeral => numeral.value?.map fun _ => .number numeral
  | .string text => text.map ofString
  | .array items => (plainItems items).map .array
  | .object members => (plainMembers [] members).map .object
where
  plainItems : List Json → Option (List Json)
    | [] => some []
    | item :: rest =>
        match item.plain?, plainItems rest with
        | some value, some others => some (value :: others)
        | _, _ => none
  plainMembers (sorted : List (Option String × Json)) :
      List (Option String × Json) → Option (List (Option String × Json))
    | [] => some sorted
    | (key, value) :: rest =>
        match key, value.plain? with
        | some key, some value => plainMembers (putMember key value sorted) rest
        | _, _ => none

end Json

end TemplateLint
