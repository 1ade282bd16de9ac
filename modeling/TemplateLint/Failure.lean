set_option autoImplicit false

/-!
Why an operation fails, and the words for it.
-/

namespace TemplateLint

inductive Shape where
  | boolean
  | string
  | stringList
  | number
deriving DecidableEq, Repr

def Shape.name : Shape → String
  | .boolean => "boolean"
  | .string => "string"
  | .stringList => "string[]"
  | .number => "number"

inductive Failure where
  /-- A file cannot be read as text, or a process cannot be waited for. -/
  | io
  | unsupportedSeverity (level : String)
  | invalidOutput
  | invalidPattern (pattern : String)
  | unsupportedShape (key : String) (expected found : Shape)
  | parsingFailed
  | notFound (path : String)
deriving DecidableEq, Repr

def Failure.message : Failure → String
  | .io => "IO error"
  | .unsupportedSeverity level => "Unsupported severity returned by cfn-lint: \"" ++ level ++ "\""
  | .invalidOutput => "Failed to parse cfn-lint output"
  | .invalidPattern pattern => "Invalid regular expression /" ++ pattern ++ "/"
  | .unsupportedShape key expected found =>
      "Configuration error: setting \"" ++ key ++ "\" must be " ++ expected.name ++ ", found " ++ found.name
  | .parsingFailed => "Configuration error: Failed to parse configuration"
  | .notFound path => "Configuration error: Configuration file not found: " ++ path

end TemplateLint
