import TemplateLint.Machine.Regular

set_option autoImplicit false

/-!
Programs of patterns and actions, which work through the records and fields of their input.
-/

namespace TemplateLint.Machine.Utility.Awk

inductive Operator where
  | add
  | subtract
  | multiply
  | divide
  | remainder
  | power
deriving DecidableEq, Repr

inductive Relation where
  | less
  | lessEqual
  | equal
  | notEqual
  | greater
  | greaterEqual
deriving DecidableEq, Repr

inductive Expression where
  | number (value : Float)
  | text (value : Octets)
  | pattern (regular : Regular)
  | name (name : Octets)
  | element (array : Octets) (indices : List Expression)
  | field (index : Expression)
  | assignment (operator : Option Operator) (target value : Expression)
  | choice (condition accepted rejected : Expression)
  | both (left right : Expression)
  | either (left right : Expression)
  | membership (indices : List Expression) (array : Octets)
  | matching (isNegated : Bool) (subject pattern : Expression)
  | comparison (relation : Relation) (left right : Expression)
  | arithmetic (operator : Operator) (left right : Expression)
  | joined (left right : Expression)
  | negation (body : Expression)
  | opposite (body : Expression)
  | numeric (body : Expression)
  /-- Adds one to a variable or takes one away, before or behind the use of its value. -/
  | step (isBefore isUp : Bool) (target : Expression)
  | call (function : Octets) (operands : List Expression)
  | builtin (name : String) (operands : List Expression)
  | record (file command : Option Expression) (target : Option Expression)
  | several (values : List Expression)

inductive Destination where
  | output
  | file (appends : Bool) (path : Expression)
  | command (text : Expression)

inductive Statement where
  | block (body : List Statement)
  | conditional (condition : Expression) (accepted : Statement) (rejected : Option Statement)
  | whileLoop (condition : Expression) (body : Statement)
  | doLoop (body : Statement) (condition : Expression)
  | forLoop (first : Option Statement) (condition : Option Expression) (step : Option Statement)
      (body : Statement)
  | forEach (name array : Octets) (body : Statement)
  | next
  | nextFile
  | exit (status : Option Expression)
  | leave
  | again
  | giveBack (value : Option Expression)
  | delete (array : Octets) (indices : List Expression)
  | print (values : List Expression) (destination : Destination)
  | printFormat (values : List Expression) (destination : Destination)
  | evaluate (expression : Expression)

inductive Trigger where
  | start
  | final
  | always
  | condition (condition : Expression)
  | range (first last : Expression)

structure Rule where
  trigger : Trigger
  action : Statement

structure Function where
  name : Octets
  parameters : List Octets
  body : Statement

structure Script where
  rules : List Rule
  functions : List Function

def dialect : Regular.Dialect := ⟨true, true, true, true⟩

/-- The expression that a text writes; one that cannot be read matches nothing but itself. -/
def regularOf (text : Octets) : Regular :=
  match Regular.read dialect text with
  | .ok (regular, _) => regular
  | .error _ => Regular.literal text

end TemplateLint.Machine.Utility.Awk
