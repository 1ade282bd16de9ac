import TemplateLint.Path
import TemplateLint.Text.Blank
import TemplateLint.Text.Percent

set_option autoImplicit false

/-!
Documents, and the URIs that name them.

A URI of a file is `file://`, an authority that is skipped, and a path in percent coding.  Anything else is a
plain path.  Writing a URI makes the path absolute and turns backslashes into slashes.
-/

namespace TemplateLint

def afterStart? : List Char → List Char → Option (List Char)
  | [], text => some text
  | _ :: _, [] => none
  | c :: start, d :: text => if c = d then afterStart? start text else none

theorem afterStart?_eq_some_iff (start text rest : List Char) :
    afterStart? start text = some rest ↔ text = start ++ rest := by
  induction start generalizing text with
  | nil =>
      constructor
      · intro found
        cases found
        rfl
      · intro same
        subst same
        rfl
  | cons c start ih =>
      cases text with
      | nil => exact ⟨nofun, nofun⟩
      | cons d text =>
          by_cases same : c = d
          · subst same
            simp only [afterStart?, if_true, ih, List.cons_append, List.cons.injEq, true_and]
          · simp only [afterStart?, if_neg same, List.cons_append, List.cons.injEq, Ne.symm same, false_and,
              reduceCtorEq]

namespace Uri

def scheme : List Char := "file://".toList

/-- The path of a URI behind its authority.  Without a slash the whole text is the path. -/
def dropAuthority (text : List Char) : List Char :=
  match text.dropWhile (· != '/') with
  | [] => text
  | path => path

/-- The path without its percent coding; it stays as it is when what it encodes is not UTF-8. -/
def decoded (text : List Char) : List Char :=
  (Text.Utf8.decode? (Text.Percent.decode (Text.Utf8.encode text))).getD text

def dropDriveSlash (text : List Char) : List Char :=
  match text with
  | '/' :: letter :: ':' :: rest => if letter.isAlpha then letter :: ':' :: rest else text
  | _ => text

def path (uri : String) : Path :=
  match afterStart? scheme uri.toList with
  | none => Path.ofString uri
  | some rest => ⟨Text.Utf8.encode (dropDriveSlash (decoded (dropAuthority rest)))⟩

def encodePart (part : List Char) : String :=
  String.ofList (Text.Percent.encode (Text.Utf8.encode part))

/-- The URI of a path, which is taken from the current directory. -/
def ofPath (currentDirectory path : Path) : String :=
  let whole := if path.isAbsolute then path else currentDirectory.join path
  let text := (Text.Utf8.decodeLossy whole.bytes).map fun c => if c = '\\' then '/' else c
  let encoded := Text.join "/" ((Text.splitAt '/' text).map encodePart)
  if encoded.toList.head? = some '/' then "file://" ++ encoded else "file:///" ++ encoded

end Uri

structure Document where
  uri : String
  version : Int
  text : String
deriving DecidableEq, Repr

namespace Document

def ofFile (currentDirectory path : Path) (text : String) : Document where
  uri := Uri.ofPath currentDirectory path
  version := 0
  text := text

def path (document : Document) : Path := Uri.path document.uri

end Document

end TemplateLint
