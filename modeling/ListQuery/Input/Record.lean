import ListQuery.Input.Basic
import ListQuery.Value.Plain

/-!
# Inputs

An input of an input type is a record: it has an input for every field of the type,
which may be the mark of a field that was left out. A client that is not typed gives
plain data, and the two may be nested in each other. As a filter or a sort order an
input is plain data throughout, where records are maps without the fields that were
left out.

## Main definitions

* `Input` is the type of inputs.
* `Input.toValue` is an input as plain data, and `Input.toOrder` is one as a sort order,
  which has no null entries.
-/

namespace ListQuery

/-- What a client gives. -/
inductive Input
  | plain (value : Value)
  | list (items : List Input)
  | map (entries : List (Value × Input))
  | record (fields : List (Value × Input))

namespace Input

/-- The mark of a field that was left out. -/
def unset : Input := .plain (.mark .unset)

/-- Whether an input is the mark of a field that was left out. -/
def isUnset : Input → Bool
  | .plain (.mark .unset) => true
  | _ => false

mutual

/-- An input as plain data. -/
def toValue : Input → Value
  | .plain value => value.bare
  | .list items => .list (toValues items)
  | .map entries => .map (entryValues entries)
  | .record fields => .map (Ordered.ofEntries (fieldValues fields))

/-- A sequence of inputs as plain data. -/
def toValues : List Input → List Value
  | [] => []
  | item :: rest => toValue item :: toValues rest

/-- The entries of a map of inputs as plain data. -/
def entryValues : List (Value × Input) → List (Value × Value)
  | [] => []
  | (key, input) :: rest => (key, toValue input) :: entryValues rest

/-- The fields of a record that were not left out, as plain data. -/
def fieldValues : List (Value × Input) → List (Value × Value)
  | [] => []
  | (name, input) :: rest =>
    if input.isUnset then fieldValues rest
    else (name, toValue input) :: fieldValues rest

end

/-- An input as a sort order. -/
def toOrder (input : Input) : Value := input.toValue.withoutNulls

end Input

end ListQuery
