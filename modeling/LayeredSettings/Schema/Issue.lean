/-
LayeredSettings/Schema/Issue.lean

What can be wrong with the value of an option, and where in the document it is.
-/

namespace LayeredSettings

/-- Why a value does not fit an option. -/
inductive Misfit where
  | notText
  | overlongText
  | overlongSecret
  | notInteger
  | unreadableInteger
  | oversizedInteger
  | fractionalInteger
  | notFinite
  | belowBound
  | aboveBound
  | notBoolean
  | unreadableBoolean
  | notChoice
  | notUrl
  | unreadableUrl
  | urlScheme
  | notSection
  | unknownField
  deriving DecidableEq, Inhabited

/-- The name of a misfit in an error report. -/
def Misfit.name : Misfit → String
  | .notText => "string_type"
  | .overlongText => "value_error"
  | .overlongSecret => "value_error"
  | .notInteger => "int_type"
  | .unreadableInteger => "int_parsing"
  | .oversizedInteger => "int_parsing_size"
  | .fractionalInteger => "int_from_float"
  | .notFinite => "finite_number"
  | .belowBound => "greater_than_equal"
  | .aboveBound => "less_than_equal"
  | .notBoolean => "bool_type"
  | .unreadableBoolean => "bool_parsing"
  | .notChoice => "enum"
  | .notUrl => "url_type"
  | .unreadableUrl => "url_parsing"
  | .urlScheme => "url_scheme"
  | .notSection => "model_type"
  | .unknownField => "no_such_attribute"

/-- A misfit and the keys that lead to it. -/
structure Issue where
  location : List String
  misfit : Misfit
  deriving DecidableEq, Inhabited

/-- The issue seen from one section further up. -/
def Issue.under (key : String) (i : Issue) : Issue := { i with location := key :: i.location }

end LayeredSettings
