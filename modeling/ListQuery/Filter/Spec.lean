import ListQuery.Entity.Basic
import ListQuery.Filter.Combinator

/-!
# Filter specifications

A filter specification says by which fields an entity may be filtered: a scalar
field admits the operators of its kind, a relation a filter of its target. Like sort
specifications they refer to one another by the names of their entities.

## Main definitions

* `FilterSpec` is a specification, `FilterSpec.ofEntity` that of an entity.
* `FilterSpec.operatorsFor?` and `FilterSpec.target?` look a field up.
-/

namespace ListQuery

/-- What a field admits in a filter. A reference is by name, as in a sort order. -/
inductive FilterSlot
  | operators (kind : FieldKind)
  | ref (target : Value)
  deriving DecidableEq

/-- Whether two slots are taken for the same. -/
def FilterSlot.agrees : FilterSlot → FilterSlot → Bool
  | .operators a, .operators b => a.agrees b && a.operators = b.operators
  | .ref a, .ref b => a.canonical = b.canonical
  | _, _ => false

/-- By which fields an entity may be filtered, and whether filters may be grouped. -/
structure FilterSpec where
  entity : Value
  slots : Ordered Value FilterSlot
  supportsAnd : Bool
  supportsOr : Bool
  deriving DecidableEq

/-- What a field admits in a filter, by its kind. -/
def FilterSlot.ofField (f : Field) : FilterSlot :=
  match f.target? with
  | some target => .ref target
  | none => .operators f.kind

namespace FilterSpec

/-- The specification by the filterable fields of an entity. -/
def ofEntity (spec : EntitySpec) : FilterSpec where
  entity := spec.name
  slots := Ordered.ofEntries <| (spec.fields.filter Field.filterable).map fun f =>
    (f.name, FilterSlot.ofField f)
  supportsAnd := true
  supportsOr := true

/-- The specification of an entity whose fields are listed, if all that is listed is fields and
if every name that is needed can be a key. -/
def ofItems (name : Value) (items : List FieldItem) : Except ItemError FilterSpec :=
  (fun fields => ofEntity ⟨name, fields⟩) <$> FieldItem.chosen Field.filterable items

/-- The combinators by which filters may be grouped. -/
def combinators (spec : FilterSpec) : List Combinator :=
  (if spec.supportsAnd then [.all] else []) ++ (if spec.supportsOr then [.any] else [])

/-- A specification as it is shown. -/
def literal (spec : FilterSpec) : String :=
  "FilterSpec(" ++ spec.entity.literal ++ ", fields=" ++
    (Value.list (Ordered.keys spec.slots)).literal ++ ")"

/-- Whether two specifications are taken for the same: the order of slots does not matter. -/
def agrees (a b : FilterSpec) : Bool :=
  a.entity == b.entity && Ordered.agrees FilterSlot.agrees a.slots b.slots

/-- The operators that a scalar field admits. -/
def operatorsFor? (spec : FilterSpec) (name : Value) : Option (List Operator) :=
  match Ordered.find? name spec.slots with
  | some (.operators kind) => some kind.operators
  | _ => none

/-- Whether a scalar field admits the operator that a value names. -/
def allows (spec : FilterSpec) (name operator : Value) : Bool :=
  match spec.operatorsFor? name, operatorOfKey? operator with
  | some operators, some op => operators.contains op
  | _, _ => false

/-- The entity that a relation of the specification leads to. -/
def target? (spec : FilterSpec) (name : Value) : Option Value :=
  match Ordered.find? name spec.slots with
  | some (.ref target) => some target
  | _ => none

end FilterSpec

end ListQuery
