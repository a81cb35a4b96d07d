/-!
# Complaints about data

What is wrong with data that should be a setting, a location or a report: the place of each fault,
its kind and the text that says so.
-/

namespace ErrorTrail

/-- A step to a place in nested data. -/
inductive Place where
  | field (name : String)
  | index (i : Int)
  deriving DecidableEq, Repr, Inhabited

/-- The kinds of faults. -/
inductive Complaint where
  | missing
  | extraForbidden
  | invalidKey
  | negative
  | tooShort
  | stringType
  | stringUnicode
  | intType
  | intParsing
  | intParsingSize
  | intFromFloat
  | finiteNumber
  | modelType (name : String)
  | tupleType
  | frozen
  | boolType
  | boolParsing
  | literal (allowed : List String)
  | pathType
  deriving DecidableEq, Repr, Inhabited

/-- A fault and its place. -/
structure Issue where
  place : List Place
  complaint : Complaint
  deriving DecidableEq, Repr, Inhabited

/-- Puts a step in front of the places of faults. -/
def Issue.under (p : Place) (issues : List Issue) : List Issue :=
  issues.map fun i => { i with place := p :: i.place }

namespace Complaint

/-- The name of a kind of fault. -/
def kind : Complaint → String
  | .missing => "missing"
  | .extraForbidden => "extra_forbidden"
  | .invalidKey => "invalid_key"
  | .negative => "greater_than_equal"
  | .tooShort => "string_too_short"
  | .stringType => "string_type"
  | .stringUnicode => "string_unicode"
  | .intType => "int_type"
  | .intParsing => "int_parsing"
  | .intParsingSize => "int_parsing_size"
  | .intFromFloat => "int_from_float"
  | .finiteNumber => "finite_number"
  | .modelType _ => "model_type"
  | .tupleType => "tuple_type"
  | .frozen => "frozen_instance"
  | .boolType => "bool_type"
  | .boolParsing => "bool_parsing"
  | .literal _ => "literal_error"
  | .pathType => "path_type"

/-- Words in quotes with commas between them and `or` before the last. -/
def alternatives (words : List String) : String :=
  let quoted := words.map fun w => "'" ++ w ++ "'"
  match quoted.getLast? with
  | none => ""
  | some last =>
    if quoted.length = 1 then last else ", ".intercalate quoted.dropLast ++ " or " ++ last

/-- The text of a fault. -/
def message : Complaint → String
  | .missing => "Field required"
  | .extraForbidden => "Extra inputs are not permitted"
  | .invalidKey => "Keys should be strings"
  | .negative => "Input should be greater than or equal to 0"
  | .tooShort => "String should have at least 1 character"
  | .stringType => "Input should be a valid string"
  | .stringUnicode =>
    "Input should be a valid string, unable to parse raw data as a unicode string"
  | .intType => "Input should be a valid integer"
  | .intParsing => "Input should be a valid integer, unable to parse string as an integer"
  | .intParsingSize => "Unable to parse input string as an integer, exceeded maximum size"
  | .intFromFloat => "Input should be a valid integer, got a number with a fractional part"
  | .finiteNumber => "Input should be a finite number"
  | .modelType name => "Input should be a valid dictionary or instance of " ++ name
  | .tupleType => "Input should be a valid tuple"
  | .frozen => "Instance is frozen"
  | .boolType => "Input should be a valid boolean"
  | .boolParsing => "Input should be a valid boolean, unable to interpret input"
  | .literal allowed => "Input should be " ++ alternatives allowed
  | .pathType => "Input is not a valid path for <class 'pathlib.Path'>"

end Complaint

end ErrorTrail
