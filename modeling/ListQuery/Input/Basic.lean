import ListQuery.Field.Kind
import ListQuery.Input.Name

/-!
# Input types

A typed client gives a filter or a sort order as an input of an input type. Such a
type has fields, each of which takes a scalar, a sort direction, or an input of
another type, and every field may be left out. A field is known to the client by
its name and kept under an attribute, which is unique in the type.

The filter of a scalar field is an input of an operator type: one for each scalar,
with a field for every operator that the scalar admits.

## Main definitions

* `InputType` is the type of input types, `InputField` that of their fields.
* `InputScalar.operatorType` is the operator type of a scalar.
* `InputScalar.ofKind` is the scalar by which a field of a kind is filtered.
-/

namespace ListQuery

/-- The scalars that input types take. -/
inductive InputScalar
  | text
  | number
  | moment
  | truth
  | id
  deriving DecidableEq

/-- What a field of an input type takes. -/
inductive InputRef
  | scalar (s : InputScalar)
  | direction
  | operators (s : InputScalar)
  /-- A sort order of an entity. -/
  | sort (entity : Value)
  /-- A filter of an entity. -/
  | filter (entity : Value)
  deriving DecidableEq

/-- A field of an input type: its name, and what it takes one of or a list of. -/
structure InputField where
  name : Value
  takes : InputRef
  many : Bool
  deriving DecidableEq

/-- An input type: its name, and its fields by their attributes. -/
structure InputType where
  name : String
  fields : Ordered String InputField
  deriving DecidableEq

namespace InputScalar

/-- The word for a scalar. -/
def word : InputScalar → String
  | .text => "str"
  | .number => "float"
  | .moment => "datetime"
  | .truth => "bool"
  | .id => "ID"

/-- The kind whose fields are filtered by a scalar. -/
def kind : InputScalar → ScalarKind
  | .text => .string
  | .number => .number
  | .moment => .date
  | .truth => .boolean
  | .id => .id

/-- The scalar by which a field is filtered; fields of an unknown kind are filtered by text. -/
def ofKind : FieldKind → InputScalar
  | .scalar .number => .number
  | .scalar .date => .moment
  | .scalar .boolean => .truth
  | .scalar .id => .id
  | _ => .text

/-- A field of an operator type that takes one operand. -/
def operand (attr name : String) (s : InputScalar) : String × InputField :=
  (attr, ⟨.text name, .scalar s, false⟩)

/-- A field of an operator type that takes a list of operands. -/
def operands (attr name : String) (s : InputScalar) : String × InputField :=
  (attr, ⟨.text name, .scalar s, true⟩)

/-- The operator type of a scalar. -/
def operatorType : InputScalar → InputType
  | .text =>
    ⟨"StringWhereOperators",
      [operand "eq" "eq" .text, operand "ne" "ne" .text, operands "in_" "in" .text,
        operands "nin" "nin" .text, operand "like" "like" .text, operand "ilike" "ilike" .text,
        operand "is_null" "isNull" .truth, operand "raw" "raw" .text]⟩
  | .number =>
    ⟨"NumberWhereOperators",
      [operand "eq" "eq" .number, operand "ne" "ne" .number, operands "in_" "in" .number,
        operands "nin" "nin" .number, operand "gt" "gt" .number, operand "gte" "gte" .number,
        operand "lt" "lt" .number, operand "lte" "lte" .number,
        operands "between" "between" .number, operand "is_null" "isNull" .truth,
        operand "raw" "raw" .text]⟩
  | .moment =>
    ⟨"DateWhereOperators",
      [operand "eq" "eq" .moment, operand "ne" "ne" .moment, operands "in_" "in" .moment,
        operands "nin" "nin" .moment, operand "gt" "gt" .moment, operand "gte" "gte" .moment,
        operand "lt" "lt" .moment, operand "lte" "lte" .moment,
        operands "between" "between" .moment, operand "is_null" "isNull" .truth,
        operand "raw" "raw" .text]⟩
  | .truth =>
    ⟨"BooleanWhereOperators",
      [operand "eq" "eq" .truth, operand "ne" "ne" .truth, operand "is_null" "isNull" .truth,
        operand "raw" "raw" .text]⟩
  | .id =>
    ⟨"IdWhereOperators",
      [operand "eq" "eq" .id, operand "ne" "ne" .id, operands "in_" "in" .id,
        operands "nin" "nin" .id, operand "is_null" "isNull" .truth, operand "raw" "raw" .id]⟩

/-- The operator types mirror the operators of the kinds, in the same order. -/
theorem names_operatorType (s : InputScalar) :
    s.operatorType.fields.map (fun field => field.2.name) =
      s.kind.operators.map fun op => .text op.name := by
  cases s <;> rfl

/-- A field is filtered by exactly the operators that its kind admits. -/
theorem operators_kind_ofKind (kind : FieldKind) :
    (ofKind kind).kind.operators = kind.operators := by
  cases kind with
  | scalar kind => cases kind <;> rfl
  | relation _ => rfl
  | unknown _ => rfl

end InputScalar

/-- The word for what a field takes: the name of a scalar or of an input type. -/
def InputRef.word : InputRef → String
  | .scalar s => s.word
  | .direction => "SortDirection"
  | .operators s => s.operatorType.name
  | .sort entity => sortInputName entity.label
  | .filter entity => whereInputName entity.label

/-- The type of a field; a list is written in brackets, with a mark that its items are not null. -/
def InputField.typeText (f : InputField) : String :=
  if f.many then "[" ++ f.takes.word ++ "!]" else f.takes.word

end ListQuery
