import TemplateLint.Json.Reader
import TemplateLint.Settings.Basic
import TemplateLint.Toml.Reader

set_option autoImplicit false

/-!
Settings from a JSON object and from a table of a configuration file.

A table holds settings when every value in it is a truth value, a string, a list of strings or a number.  One
value of another kind makes the whole table unusable.
-/

namespace TemplateLint

def SettingValue.ofJson? : Json → Option SettingValue
  | .bool value => some (.boolean value)
  | .string text => text.map .string
  | .array items => (items.mapM Json.string?).map .stringList
  | .number numeral => numeral.value?.map fun value => .number value.toDouble
  | _ => none

/-- The settings that a JSON object holds.  Of members with one name the last one counts. -/
def Settings.ofJson? (document : Json) : Option Settings := do
  let members ← document.members?
  let entries ← members.mapM fun (name, value) => (SettingValue.ofJson? value).map fun value => (name, value)
  pure (Settings.ofList entries)

/-- The integers that a setting may be: those of 64 bits, with or without sign. -/
def isSettingInteger (n : Int) : Bool :=
  -Int.ofNat (Nat.pow 2 63) ≤ n && n < Int.ofNat (Nat.pow 2 64)

def SettingValue.ofToml? : Toml → Option SettingValue
  | .bool value => some (.boolean value)
  | .string text => some (.string text)
  | .array items => (items.mapM Toml.string?).map .stringList
  | .integer n => if isSettingInteger n then some (.number (Double.ofInt n)) else none
  | .float value => some (.number value)
  | _ => none

def momentKey : String := "$__toml_private_datetime"

/-- The settings that a TOML value holds.  A date or time counts as a table with its text as the one entry. -/
def Settings.ofToml? : Toml → Option Settings
  | .table members =>
      let entries : Option (List (String × SettingValue)) :=
        members.mapM fun (name, value) => (SettingValue.ofToml? value).map fun value => (name, value)
      entries.map Settings.ofList
  | .moment text => some (Settings.ofList [(momentKey, .string text)])
  | _ => none

def Settings.ofDocument? (document : Toml) : Option Settings :=
  match document.member? settingsSection with
  | some table => Settings.ofToml? table
  | none => some Settings.empty

end TemplateLint
