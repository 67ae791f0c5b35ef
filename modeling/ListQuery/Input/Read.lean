import ListQuery.Input.Record
import ListQuery.Input.Types

/-!
# Reading inputs

What a client gives for an input of a type is a map from the names of its fields, in
any order and with fields left out. The record that is read has every field of the
type, in the order of their declaration, so that this order is what decides where a
filter has several operators for a field.

## Main definitions

* `Input.arrange` is the record of a type with given fields.
* `InputTypes.read` reads what is given for a field, or in place of a whole input.
-/

namespace ListQuery

/-- The fields of the inputs that a field takes, if these are records. -/
def InputTypes.fieldsFor? (types : InputTypes) : InputRef → Option (List InputField)
  | .scalar _ => none
  | .direction => none
  | .operators s => some (s.operatorType.fields.map Prod.snd)
  | .sort entity => (Ordered.find? entity types.sorts).map fun type => type.fields.map Prod.snd
  | .filter entity => (Ordered.find? entity types.filters).map fun type => type.fields.map Prod.snd

/-- The record with the given fields: in the order of their declaration, and with a mark for
each that is missing. -/
def Input.arrange (fields : List InputField) (given : List (Value × Input)) : Input :=
  .record (fields.map fun f => (f.name, (Ordered.find? f.name given).getD .unset))

/-- A word where a direction is taken, as the direction that it names. -/
def Input.readText (ref : InputRef) (s : String) : Input :=
  match ref, SortDirection.ofWord? s with
  | .direction, some d => .plain (.mark (.direction d))
  | _, _ => .plain (.text s)

namespace InputTypes

mutual

/-- Reads what is given for a field: a map is a record where the field takes records, a list
is read item by item, and all else is taken as it is. -/
def read (types : InputTypes) (ref : InputRef) : Value → Input
  | .map entries =>
    match types.fieldsFor? ref with
    | some fields => .arrange fields (readFields types fields entries)
    | none => .plain (.map entries)
  | .list items => .list (readItems types ref items)
  | .text s => .readText ref s
  | value => .plain value

/-- Reads the items of a list. -/
def readItems (types : InputTypes) (ref : InputRef) : List Value → List Input
  | [] => []
  | item :: rest => read types ref item :: readItems types ref rest

/-- Reads what is given under the names of fields. -/
def readFields (types : InputTypes) (fields : List InputField) :
    List (Value × Value) → List (Value × Input)
  | [] => []
  | (key, value) :: rest =>
    match fields.find? fun f => f.name == key with
    | some f => (f.name, read types f.takes value) :: readFields types fields rest
    | none => readFields types fields rest

end

end InputTypes

end ListQuery
