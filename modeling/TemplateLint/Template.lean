import TemplateLint.Failure
import TemplateLint.Regex.Compile

set_option autoImplicit false

/-!
Which documents are templates.

A standard template names the version of the template format and has a key `Resources`.  Any other document
is a template when one of the patterns of the settings matches it.
-/

namespace TemplateLint.Template

open TemplateLint.Regex (Pattern)

def optionalQuote : Pattern := .optional (.one (.single '"'))

def blanks : Pattern := .many (.one Unicode.blankSet)

def versionMarker : Pattern :=
  .seq optionalQuote
    (.seq (Pattern.literal "AWSTemplateFormatVersion".toList) (.seq optionalQuote blanks))

def resourcesMarker : Pattern :=
  .seq (.optional (.one (.single '\n')))
    (.seq optionalQuote
      (.seq (Pattern.literal "Resources".toList)
        (.seq optionalQuote (.seq blanks (Pattern.literal [':'])))))

def isStandard (text : String) : Bool :=
  versionMarker.isMatch text && resourcesMarker.isMatch text

/-- The patterns that texts write; the first text that writes none is the failure. -/
def compile : List String → Except Failure (List Pattern)
  | [] => .ok []
  | text :: rest =>
      match Regex.compile? text with
      | none => .error (.invalidPattern text)
      | some pattern =>
          match compile rest with
          | .error failure => .error failure
          | .ok others => .ok (pattern :: others)

def firstMatch? (text : String) (patterns : List Pattern) : Option Nat :=
  patterns.findIdx? fun pattern => pattern.isMatch text

inductive Verdict where
  | standard
  | custom (pattern : String)
  | notTemplate
deriving DecidableEq, Repr

def Verdict.isTemplate : Verdict → Bool
  | .notTemplate => false
  | _ => true

/-- Decides whether a document is a template.  The patterns are looked at only if it is not a standard one,
and then all of them have to be patterns. -/
def judge (text : String) (patterns : List String) : Except Failure Verdict :=
  if isStandard text then .ok .standard
  else
    match compile patterns with
    | .error failure => .error failure
    | .ok compiled =>
        match firstMatch? text compiled with
        | some index => .ok (.custom (patterns.getD index ""))
        | none => .ok .notTemplate

def Verdict.note (path : String) : Verdict → String
  | .standard =>
      "Detected CloudFormation file " ++ path ++
        " because it contains \"AWSTemplateFormatVersion:\" and \"Resources:\""
  | .custom pattern =>
      "Detected CloudFormation file " ++ path ++ " because RegExp /" ++ pattern ++
        "/ in setting \"cfnlint.detectCfnRegExps\" matched"
  | .notTemplate =>
      "Skipped linting " ++ path ++
        " because (1) it doesn't look like a standard CloudFormation or SAM template; " ++
        "(2) none of the RegExps defined in the setting \"cfnlint.detectCfnRegExps\" matched"

def Verdict.explanation (path : String) : Verdict → String
  | .standard => path ++ ": template (contains AWSTemplateFormatVersion and Resources)"
  | .custom pattern => path ++ ": template (matched cfnlint.detectCfnRegExps /" ++ pattern ++ "/)"
  | .notTemplate => path ++ ": not a template"

end TemplateLint.Template
