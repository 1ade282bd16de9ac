import TemplateLint.Text.Utf8

set_option autoImplicit false

/-!
Paths of files.  A path is any sequence of bytes; it is shown as text with U+FFFD for what is not UTF-8.
-/

namespace TemplateLint

structure Path where
  bytes : List UInt8
deriving DecidableEq, Repr

namespace Path

def separator : UInt8 := 0x2F

def ofString (text : String) : Path := ⟨Text.Utf8.bytes text⟩

def display (path : Path) : String := Text.Utf8.stringLossy path.bytes

def isAbsolute (path : Path) : Bool := path.bytes.head? == some separator

/-- A path as it is seen from a directory.  An absolute path does not depend on the directory. -/
def join (directory path : Path) : Path :=
  if path.isAbsolute then path
  else if directory.bytes.isEmpty || directory.bytes.getLast? == some separator then
    ⟨directory.bytes ++ path.bytes⟩
  else ⟨directory.bytes ++ separator :: path.bytes⟩

end Path

end TemplateLint
