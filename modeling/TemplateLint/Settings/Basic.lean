import TemplateLint.Failure
import TemplateLint.Number.Double
import TemplateLint.SortedMap
import TemplateLint.Text.Blank

set_option autoImplicit false

/-!
Settings: values under flat names.

Numbers are allowed as values although no setting takes one, so that a setting with a number can be reported
by its name.  The accessors at the end are for the settings that are not passed on to the linter; a value of
the wrong shape counts there as if it were absent.
-/

namespace TemplateLint

inductive SettingValue where
  | boolean (value : Bool)
  | string (text : String)
  | stringList (items : List String)
  | number (value : Double)
deriving DecidableEq, Repr

def SettingValue.shape : SettingValue → Shape
  | .boolean _ => .boolean
  | .string _ => .string
  | .stringList _ => .stringList
  | .number _ => .number

/-- Settings: at most one value for every name. -/
structure Settings where
  values : SortedMap SettingValue := SortedMap.empty
deriving DecidableEq

namespace Settings

def empty : Settings := ⟨SortedMap.empty⟩

def get? (settings : Settings) (name : String) : Option SettingValue :=
  settings.values.get? name

def set (settings : Settings) (name : String) (value : SettingValue) : Settings :=
  ⟨settings.values.put name value⟩

def isEmpty (settings : Settings) : Bool :=
  settings.values.isEmpty

def ofList (entries : List (String × SettingValue)) : Settings :=
  ⟨SortedMap.ofList entries⟩

def defaultLinter : String := "cfn-lint"

def linterPath (settings : Settings) : String :=
  match settings.get? "path" with
  | some (.string text) => if Text.allBlank text.toList then defaultLinter else text
  | _ => defaultLinter

def listOf (settings : Settings) (name : String) : List String :=
  match settings.get? name with
  | some (.stringList items) => items
  | _ => []

def flagOf (settings : Settings) (name : String) (default : Bool) : Bool :=
  match settings.get? name with
  | some (.boolean value) => value
  | _ => default

def detectPatterns (settings : Settings) : List String := settings.listOf "detectCfnRegExps"

def ignorePatterns (settings : Settings) : List String := settings.listOf "ignoreRulesRegExps"

def lintOnOpen (settings : Settings) : Bool := settings.flagOf "lintOnOpen" true

def lintOnChange (settings : Settings) : Bool := settings.flagOf "lintOnChange" false

def lintOnSave (settings : Settings) : Bool := settings.flagOf "lintOnSave" true

end Settings

/-- The name of the table that holds the settings, and of the section that configuration events name. -/
def settingsSection : String := "cfnlint"

end TemplateLint
