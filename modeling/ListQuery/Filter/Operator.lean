import ListQuery.Field.ScalarKind
import ListQuery.Notice

/-!
# Filter operators

An operator object maps operator names to operands. Its first entry decides: its
operator is applied to its operand, and the others are discarded. Applying an
operator gives the test that a compiled predicate carries.

## Main definitions

* `Operator` is the type of operators, `Operator.ofName?` reads a name.
* `Operator.apply` is the test for an operator and its operand.
* `isOperatorKey` and `isOperatorObject` recognize operator objects.
* `operatorsFor` lists the operators that a kind of field admits.
-/

namespace ListQuery

/-- The operators of a filter. -/
inductive Operator
  | eq
  | ne
  | among
  | notAmong
  | gt
  | gte
  | lt
  | lte
  | like
  | ilike
  | between
  | isNull
  | raw
  deriving DecidableEq

namespace Operator

/-- The name of an operator. -/
def name : Operator → String
  | .eq => "eq"
  | .ne => "ne"
  | .among => "in"
  | .notAmong => "nin"
  | .gt => "gt"
  | .gte => "gte"
  | .lt => "lt"
  | .lte => "lte"
  | .like => "like"
  | .ilike => "ilike"
  | .between => "between"
  | .isNull => "isNull"
  | .raw => "raw"

/-- All operators. -/
def all : List Operator :=
  [.eq, .ne, .among, .notAmong, .gt, .gte, .lt, .lte, .like, .ilike, .between, .isNull, .raw]

/-- The operator of a name. -/
def ofName? (s : String) : Option Operator := all.find? fun op => op.name = s

@[simp]
theorem ofName?_name (op : Operator) : ofName? op.name = some op := by cases op <;> rfl

theorem name_of_ofName? {s : String} {op : Operator} (h : ofName? s = some op) : op.name = s := by
  simpa using List.find?_some h

/-- The test for a range. Anything but a pair is left as an operator object. -/
def range (operand : Value) : Logged Value :=
  match operand.members? with
  | some [low, high] => pure (.test .between (.tuple [low, high]))
  | _ => do
    Logged.give (.malformedRange operand)
    pure (.map [(.text "between", operand)])

/-- The test for being null. -/
def nullTest : Value := .test .isNull .null

/-- The test that an operator and its operand stand for. -/
def apply (op : Operator) (operand : Value) : Logged Value :=
  match op with
  | .eq => pure operand
  | .ne => pure (.test .negation operand)
  | .among => pure (.test .membership operand)
  | .notAmong => pure (.test .negation (.test .membership operand))
  | .gt => pure (.test .moreThan operand)
  | .gte => pure (.test .moreThanOrEqual operand)
  | .lt => pure (.test .lessThan operand)
  | .lte => pure (.test .lessThanOrEqual operand)
  | .like => pure (.test .like operand)
  | .ilike => pure (.test .ilike operand)
  | .between => range operand
  | .isNull => pure (if operand.truthy then nullTest else .test .negation nullTest)
  | .raw => pure (.test .raw operand)

end Operator

/-- The operator that a key names. -/
def operatorOfKey? : Value → Option Operator
  | .text s => Operator.ofName? s
  | _ => none

/-- No scalar kind has the name of an operator, so it is only the text of a key that counts. -/
theorem operatorOfKey?_eq (key : Value) : operatorOfKey? key = key.text?.bind Operator.ofName? := by
  cases key with
  | mark m =>
    cases m with
    | kind kind => cases kind <;> rfl
    | _ => rfl
  | _ => rfl

/-- Whether a key names an operator. -/
def isOperatorKey (key : Value) : Bool := (operatorOfKey? key).isSome

/-- Whether the entries of a map are an operator object: there are some, and every key
names an operator. -/
def isOperatorObject (entries : List (Value × Value)) : Bool :=
  !entries.isEmpty && entries.all fun entry => isOperatorKey entry.1

/-- The operator that a key stands for, or the label of a key that names none. -/
inductive OperatorName
  | known (op : Operator)
  | unknown (label : String)
  deriving DecidableEq

namespace OperatorName

/-- What a key stands for. -/
def ofKey (key : Value) : OperatorName :=
  match operatorOfKey? key with
  | some op => .known op
  | none => .unknown key.label

/-- Applies what a key stands for; an unknown operator is left as an operator object. -/
def apply : OperatorName → Value → Logged Value
  | .known op, operand => op.apply operand
  | .unknown label, operand => pure (.map [(.text label, operand)])

end OperatorName

/-- The outcome of choosing among the operators of a field. -/
structure OperatorChoice where
  operator : OperatorName
  operand : Value
  discarded : List String
  deriving DecidableEq

/-- The choice among the entries of an operator object: the first, if there is one. -/
def OperatorChoice.ofEntries? : List (Value × Value) → Option OperatorChoice
  | [] => none
  | (key, operand) :: rest =>
    some ⟨.ofKey key, operand, rest.map fun entry => entry.1.label⟩

/-- The operators of text fields, and of fields whose kind has no list of its own. -/
def textOperators : List Operator :=
  [.eq, .ne, .among, .notAmong, .like, .ilike, .isNull, .raw]

/-- The operators that a scalar kind admits. -/
def ScalarKind.operators : ScalarKind → List Operator
  | .string | .enum => textOperators
  | .number | .date =>
    [.eq, .ne, .among, .notAmong, .gt, .gte, .lt, .lte, .between, .isNull, .raw]
  | .boolean => [.eq, .ne, .isNull, .raw]
  | .id => [.eq, .ne, .among, .notAmong, .isNull, .raw]

end ListQuery
