/-!
# Issues with a payload

A payload that does not have the expected shape is answered with all its issues: each says at
which field or position it sits, of which type it is, and in words what was expected.
-/

namespace Splice

/-- One step on the way to a place in a payload. -/
inductive PlaceStep
  | field (name : String)
  | index (i : Nat)
  deriving DecidableEq, Repr

/-- What is wrong at a place in a payload. -/
inductive Complaint
  | missing
  | notText
  | notNumber
  | unreadableNumber
  | notInteger
  | unreadableInteger
  | fractional
  | notFinite
  | oversizedInteger
  | notTruth
  | unreadableTruth
  | notOneOf (choices : List String)
  | notLiteral (choices : List String)
  | notRecord (title : String)
  | notList
  | notTuple
  | longTuple (most actual : Nat)
  deriving DecidableEq, Repr

/-- The choices in quotes, the last two joined by `or`. -/
def listChoices : List String → String
  | [] => ""
  | [choice] => "'" ++ choice ++ "'"
  | [first, second] => "'" ++ first ++ "' or '" ++ second ++ "'"
  | choice :: others => "'" ++ choice ++ "', " ++ listChoices others

namespace Complaint

/-- The type of a complaint. -/
def type : Complaint → String
  | missing => "missing"
  | notText => "string_type"
  | notNumber => "float_type"
  | unreadableNumber => "float_parsing"
  | notInteger => "int_type"
  | unreadableInteger => "int_parsing"
  | fractional => "int_from_float"
  | notFinite => "finite_number"
  | oversizedInteger => "int_parsing_size"
  | notTruth => "bool_type"
  | unreadableTruth => "bool_parsing"
  | notOneOf _ => "enum"
  | notLiteral _ => "literal_error"
  | notRecord _ => "model_type"
  | notList => "list_type"
  | notTuple => "tuple_type"
  | longTuple _ _ => "too_long"

/-- The words for a complaint. -/
def message : Complaint → String
  | missing => "Field required"
  | notText => "Input should be a valid string"
  | notNumber => "Input should be a valid number"
  | unreadableNumber => "Input should be a valid number, unable to parse string as a number"
  | notInteger => "Input should be a valid integer"
  | unreadableInteger => "Input should be a valid integer, unable to parse string as an integer"
  | fractional => "Input should be a valid integer, got a number with a fractional part"
  | notFinite => "Input should be a finite number"
  | oversizedInteger => "Unable to parse input string as an integer, exceeded maximum size"
  | notTruth => "Input should be a valid boolean"
  | unreadableTruth => "Input should be a valid boolean, unable to interpret input"
  | notOneOf choices => "Input should be " ++ listChoices choices
  | notLiteral choices => "Input should be " ++ listChoices choices
  | notRecord title => "Input should be a valid dictionary or instance of " ++ title
  | notList => "Input should be a valid list"
  | notTuple => "Input should be a valid tuple"
  | longTuple most actual =>
    s!"Tuple should have at most {most} items after validation, not {actual}"

end Complaint

/-- A complaint and its place, the way to it from the payload's root. -/
structure Issue where
  place : List PlaceStep
  complaint : Complaint
  deriving DecidableEq, Repr

/-- The issue one step further from the root. -/
def Issue.under (step : PlaceStep) (issue : Issue) : Issue :=
  { issue with place := step :: issue.place }

/-- The heading over a number of issues with a payload. -/
def issuesHeading (title : String) (issues : List Issue) : String :=
  let noun := if issues.length = 1 then "error" else "errors"
  s!"{issues.length} validation {noun} for {title}"

end Splice
