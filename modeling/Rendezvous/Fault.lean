/-!
# Faults of a form

A form that does not fit its shape has a list of faults, each with the place it was
found at and the rule that was broken.
-/

namespace Rendezvous

inductive FaultKind where
  | missing
  | text
  | textTooLong
  | textTooShort
  | integer
  | integerText
  | integerSize
  | wholeNumber
  | finiteNumber
  | flag
  | flagText
  | number
  | numberText
  | date
  | dateText
  | dateWithTime
  | dateOutside
  | instant
  | instantText
  | instantOutside
  | choice
  | tooSmall
  | tooLarge
  | list
  | map
  | record
  | body
  | frozen
deriving DecidableEq

def FaultKind.code : FaultKind → String
  | .missing => "missing"
  | .text => "string_type"
  | .textTooLong => "string_too_long"
  | .textTooShort => "string_too_short"
  | .integer => "int_type"
  | .integerText => "int_parsing"
  | .integerSize => "int_parsing_size"
  | .wholeNumber => "int_from_float"
  | .finiteNumber => "finite_number"
  | .flag => "bool_type"
  | .flagText => "bool_parsing"
  | .number => "float_type"
  | .numberText => "float_parsing"
  | .date => "date_type"
  | .dateText => "date_from_datetime_parsing"
  | .dateWithTime => "date_from_datetime_inexact"
  | .dateOutside => "date_parsing"
  | .instant => "datetime_type"
  | .instantText => "datetime_from_date_parsing"
  | .instantOutside => "datetime_parsing"
  | .choice => "enum"
  | .tooSmall => "greater_than_equal"
  | .tooLarge => "less_than_equal"
  | .list => "list_type"
  | .map => "dict_type"
  | .record => "model_type"
  | .body => "model_attributes_type"
  | .frozen => "frozen_instance"

/-- A broken rule and the path to the value that breaks it. -/
structure Fault where
  path : List String
  kind : FaultKind
deriving DecidableEq

namespace Fault

def location (fault : Fault) : String :=
  ".".intercalate fault.path

/-- The same fault seen from one level further out. -/
def within (name : String) (fault : Fault) : Fault :=
  { fault with path := name :: fault.path }

@[simp]
theorem kind_within (name : String) (fault : Fault) : (fault.within name).kind = fault.kind := rfl

/-- Faults are reported in the order of their locations, then of their codes. -/
def precedes (a b : Fault) : Bool :=
  a.location < b.location || (a.location == b.location && !(b.kind.code < a.kind.code))

end Fault

end Rendezvous
