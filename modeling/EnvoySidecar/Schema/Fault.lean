import EnvoySidecar.Value

/-! What can be wrong with a value, and where. The wording and the short code of each cause are
functions of the cause alone. -/

namespace EnvoySidecar.Schema

inductive Cause where
  | missing
  | notText
  | undecodable
  | notInteger
  | integerText
  | integerTextLength
  | fractional
  | notFinite
  | notAbove (bound : Int)
  | notBelow (bound : Int)
  | below (bound : Int)
  | above (bound : Int)
  | notFlag
  | flagText
  | notModel (model : String)
  | notList
  | notOneOf (choices : List String)
  | notDecimal
  | decimalText
  | blank
  | longInteger
  | frozen
deriving DecidableEq, Repr

namespace Cause

def code : Cause → String
  | missing => "missing"
  | notText => "string_type"
  | undecodable => "string_unicode"
  | notInteger => "int_type"
  | integerText => "int_parsing"
  | integerTextLength => "int_parsing_size"
  | fractional => "int_from_float"
  | notFinite => "finite_number"
  | notAbove _ => "greater_than"
  | notBelow _ => "less_than"
  | below _ => "greater_than_equal"
  | above _ => "less_than_equal"
  | notFlag => "bool_type"
  | flagText => "bool_parsing"
  | notModel _ => "model_type"
  | notList => "list_type"
  | notOneOf _ => "literal_error"
  | notDecimal => "decimal_type"
  | decimalText => "decimal_parsing"
  | blank => "value_error"
  | longInteger => "value_error"
  | frozen => "frozen_instance"

def choiceText : List String → String
  | [] => ""
  | [a] => s!"'{a}'"
  | [a, b] => s!"'{a}' or '{b}'"
  | a :: rest => s!"'{a}', {choiceText rest}"

def message : Cause → String
  | missing => "Field required"
  | notText => "Input should be a valid string"
  | undecodable => "Input should be a valid string, unable to parse raw data as a unicode string"
  | notInteger => "Input should be a valid integer"
  | integerText => "Input should be a valid integer, unable to parse string as an integer"
  | integerTextLength => "Unable to parse input string as an integer, exceeded maximum size"
  | fractional => "Input should be a valid integer, got a number with a fractional part"
  | notFinite => "Input should be a finite number"
  | notAbove bound => s!"Input should be greater than {bound}"
  | notBelow bound => s!"Input should be less than {bound}"
  | below bound => s!"Input should be greater than or equal to {bound}"
  | above bound => s!"Input should be less than or equal to {bound}"
  | notFlag => "Input should be a valid boolean"
  | flagText => "Input should be a valid boolean, unable to interpret input"
  | notModel model => s!"Input should be a valid dictionary or instance of {model}"
  | notList => "Input should be a valid list"
  | notOneOf choices => s!"Input should be {choiceText choices}"
  | notDecimal => "Decimal input should be an integer, float, string or Decimal object"
  | decimalText => "Input should be a valid decimal"
  | blank => "Value error, must not be blank"
  | longInteger => s!"Value error, {Text.digitLimitMessage}"
  | frozen => "Instance is frozen"

end Cause

inductive Step where
  | field (name : String)
  | item (index : Nat)
deriving DecidableEq, Repr

structure Fault where
  place : List Step
  cause : Cause
deriving DecidableEq, Repr

def Fault.under (s : Step) (f : Fault) : Fault :=
  { f with place := s :: f.place }

structure Report where
  model : String
  faults : List Fault
deriving DecidableEq, Repr

namespace Report

def headline (r : Report) : String :=
  let n := r.faults.length
  let noun := if n = 1 then "error" else "errors"
  s!"{n} validation {noun} for {r.model}"

end Report

end EnvoySidecar.Schema
