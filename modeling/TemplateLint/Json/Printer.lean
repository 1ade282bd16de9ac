import TemplateLint.Json.Basic

set_option autoImplicit false

/-!
Writing JSON: on one line, or with one member a line and two blanks for every level.
-/

namespace TemplateLint.Json

def hexChar (n : Nat) : Char :=
  if n < 10 then Char.ofNat (48 + n) else Char.ofNat (87 + n)

def escapeChar (c : Char) : List Char :=
  if c = '"' then ['\\', '"']
  else if c = '\\' then ['\\', '\\']
  else if c = '\n' then ['\\', 'n']
  else if c = '\r' then ['\\', 'r']
  else if c = '\t' then ['\\', 't']
  else if c = '\x08' then ['\\', 'b']
  else if c = '\x0C' then ['\\', 'f']
  else if c.toNat < 0x20 then ['\\', 'u', '0', '0', hexChar (c.toNat / 16), hexChar (c.toNat % 16)]
  else [c]

def quote (text : String) : List Char :=
  '"' :: (text.toList.flatMap escapeChar ++ ['"'])

/-- The literal that stands for a string without a text: half of a surrogate pair. -/
def halfPair : List Char := "\"\\ud800\"".toList

def quoteOptional : Option String → List Char
  | some text => quote text
  | none => halfPair

def compact : Json → List Char
  | .null => "null".toList
  | .bool true => "true".toList
  | .bool false => "false".toList
  | .number numeral => numeral.text
  | .string text => quoteOptional text
  | .array [] => "[]".toList
  | .array (item :: rest) => '[' :: (item.compact ++ compactItems rest)
  | .object [] => ['{', '}']
  | .object ((key, value) :: rest) =>
      '{' :: (quoteOptional key ++ ':' :: (value.compact ++ compactMembers rest))
where
  compactItems : List Json → List Char
    | [] => [']']
    | item :: rest => ',' :: (item.compact ++ compactItems rest)
  compactMembers : List (Option String × Json) → List Char
    | [] => ['}']
    | (key, value) :: rest => ',' :: (quoteOptional key ++ ':' :: (value.compact ++ compactMembers rest))

def newLine (level : Nat) : List Char :=
  '\n' :: List.replicate (2 * level) ' '

def indented (level : Nat) : Json → List Char
  | .array (item :: rest) =>
      '[' :: (newLine (level + 1) ++ item.indented (level + 1) ++ indentedItems level rest)
  | .object ((key, value) :: rest) =>
      '{' :: (newLine (level + 1) ++ quoteOptional key ++ ": ".toList ++ value.indented (level + 1) ++
        indentedMembers level rest)
  | .null => "null".toList
  | .bool true => "true".toList
  | .bool false => "false".toList
  | .number numeral => numeral.text
  | .string text => quoteOptional text
  | .array [] => "[]".toList
  | .object [] => ['{', '}']
where
  indentedItems (level : Nat) : List Json → List Char
    | [] => newLine level ++ [']']
    | item :: rest => ',' :: (newLine (level + 1) ++ item.indented (level + 1) ++ indentedItems level rest)
  indentedMembers (level : Nat) : List (Option String × Json) → List Char
    | [] => newLine level ++ ['}']
    | (key, value) :: rest =>
        ',' :: (newLine (level + 1) ++ quoteOptional key ++ ": ".toList ++ value.indented (level + 1) ++
          indentedMembers level rest)

def render (document : Json) : String :=
  String.ofList document.compact

def renderIndented (document : Json) : String :=
  String.ofList (document.indented 0)

end TemplateLint.Json
