import TemplateLint.Unicode.Age
import TemplateLint.Unicode.BinaryProperty
import TemplateLint.Unicode.CaseFolding
import TemplateLint.Unicode.GeneralCategory
import TemplateLint.Unicode.GraphemeBreak
import TemplateLint.Unicode.Script
import TemplateLint.Unicode.ScriptExtension
import TemplateLint.Unicode.SentenceBreak
import TemplateLint.Unicode.WordBreak

set_option autoImplicit false

/-!
Sets of characters by the name of a property: `Greek`, `Lu`, `White_Space`, `age=6.0`.  Names are compared
without case, blanks, hyphens, underscores and a leading "is".
-/

namespace TemplateLint.Unicode

def significant (name : List Char) : List Char :=
  name.filterMap fun c =>
    if c = ' ' ∨ c = '_' ∨ c = '-' then none
    else if c.isUpper then some (Char.ofNat (c.toNat + 32))
    else if c.toNat < 0x80 then some c
    else none

/-- A name in the form in which names are compared.  A leading "is" is dropped, except that "isc" is not
the letter c. -/
def comparedName (name : String) : String :=
  match name.toList with
  | i :: s :: rest =>
      if (i = 'i' ∨ i = 'I') ∧ (s = 's' ∨ s = 'S') then
        let kept := significant rest
        if kept = ['c'] then "isc" else String.ofList kept
      else String.ofList (significant (i :: s :: rest))
  | short => String.ofList (significant short)

def categoryUnion (names : List String) : CodeSet :=
  names.foldl (fun set name => set.union ((findSet? generalCategories name).getD CodeSet.empty)) CodeSet.empty

def generalCategory? (name : String) : Option CodeSet :=
  if name = "any" then some CodeSet.all
  else if name = "ascii" then some (CodeSet.interval 0 0x7F)
  else if name = "assigned" then some (categoryUnion ["cn"]).complement
  else
    match categoryGroups.find? fun group => group.1.contains name with
    | some group => some (categoryUnion group.2)
    | none => findSet? generalCategories name

def script? (name : String) : Option CodeSet :=
  findSet? scripts name

def scriptExtension? (name : String) : Option CodeSet :=
  (script? name).map fun own =>
    match findSet? scriptExtensionChanges name with
    | some changes => own.symmDiff changes
    | none => own

def age? (name : String) : Option CodeSet :=
  if ages.any fun entry => entry.names.contains name then
    let newer := (ages.dropWhile fun entry => !entry.names.contains name).drop 1
    let older := ages.take (ages.length - newer.length)
    some (older.foldl (fun set entry => set.union (CodeSet.ofDistances entry.distances)) CodeSet.empty)
  else none

def named? (name : String) : Option CodeSet :=
  let name := comparedName name
  (findSet? binaryProperties name).orElse fun _ =>
    (generalCategory? name).orElse fun _ => script? name

def valued? (property value : String) : Option CodeSet :=
  let property := comparedName property
  let value := comparedName value
  if property = "generalcategory" ∨ property = "gc" then generalCategory? value
  else if property = "script" ∨ property = "sc" then script? value
  else if property = "scriptextensions" ∨ property = "scx" then scriptExtension? value
  else if property = "age" then age? value
  else if property = "graphemeclusterbreak" ∨ property = "gcb" then findSet? graphemeBreaks value
  else if property = "wordbreak" ∨ property = "wb" then findSet? wordBreaks value
  else if property = "sentencebreak" ∨ property = "sb" then findSet? sentenceBreaks value
  else none

def binary (name : String) : CodeSet :=
  (findSet? binaryProperties name).getD CodeSet.empty

def wordSet : CodeSet :=
  ((binary "alphabetic").union (categoryUnion ["mn", "mc", "me", "nd", "pc"])).union (binary "joinc")

def digitSet : CodeSet :=
  categoryUnion ["nd"]

def blankSet : CodeSet :=
  binary "whitespace"

def addedLetters : CodeSet :=
  CodeSet.ofDistances
    "88f 1 3cc 1 7f 1 9af1 2 2 1 1 1 1c 1 614e 1a 56b 3 32 2 c64 8 248 2c 50c4 19 2 19 11e 5 1801 8 509
    16 61 73 58cd 1f 1 16 8 2 d03a 6 1762 c 5502 10ca"

def addedNumbers : CodeSet :=
  CodeSet.ofDistances "11de0 a 520a 3"

/-- True of the letters of version 17, which is ahead of the tables of properties by one version. -/
def isAlphabetic (c : Char) : Bool :=
  (binary "alphabetic").contains c || addedLetters.contains c

def isAlphanumeric (c : Char) : Bool :=
  isAlphabetic c || (categoryUnion ["nd", "nl", "no"]).contains c || addedNumbers.contains c

end TemplateLint.Unicode
