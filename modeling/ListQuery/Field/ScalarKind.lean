/-!
# Scalar kinds

The kind of a scalar field says what its values mean, and thereby which operators
a filter may use on it and how a column's values are compared.
-/

namespace ListQuery

/-- What the values of a scalar field mean. -/
inductive ScalarKind
  | string
  | number
  | boolean
  | date
  | id
  | enum
  deriving DecidableEq

namespace ScalarKind

/-- The name of a kind. -/
def name : ScalarKind → String
  | .string => "string"
  | .number => "number"
  | .boolean => "boolean"
  | .date => "date"
  | .id => "id"
  | .enum => "enum"

/-- All kinds. -/
def all : List ScalarKind := [.string, .number, .boolean, .date, .id, .enum]

/-- The kind of a name. -/
def ofName? (s : String) : Option ScalarKind := all.find? fun kind => kind.name = s

@[simp]
theorem ofName?_name (kind : ScalarKind) : ofName? kind.name = some kind := by
  cases kind <;> rfl

end ScalarKind

end ListQuery
