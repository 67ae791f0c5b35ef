import ListQuery.Field.Kind

/-!
# Entities

An entity is known by its name and by its fields, each with a kind and two flags
that say whether lists of the entity may be sorted and filtered by it. Names are mostly
texts, but any value may be one, and two names are the same where they are the same key.

## Main definitions

* `Field` describes one field, `EntitySpec` an entity.
* `FieldItem` is what is listed as a field, which need not be one.
* `FieldItem.chosen` picks the fields out of a list for a specification.
* `EntitySpec.field?` looks a field up by name.
-/

namespace ListQuery

/-- What is known of a field. -/
structure Field where
  name : Value
  kind : FieldKind
  sortable : Bool
  filterable : Bool
  deriving DecidableEq, Inhabited

namespace Field

/-- Whether a field is a relation. -/
def isRelation (f : Field) : Bool := f.kind.isRelation

/-- The name of the entity that a relation leads to. -/
def target? (f : Field) : Option Value := f.kind.target?

end Field

/-- What is known of an entity. -/
structure EntitySpec where
  name : Value
  fields : List Field
  deriving DecidableEq, Inhabited

namespace EntitySpec

/-- The first field of a name. -/
def field? (spec : EntitySpec) (name : Value) : Option Field :=
  spec.fields.find? fun f => f.name == name

/-- The fields that are no relations. -/
def scalars (spec : EntitySpec) : List Field := spec.fields.filter fun f => !f.isRelation

/-- The fields that are relations. -/
def relations (spec : EntitySpec) : List Field := spec.fields.filter Field.isRelation

end EntitySpec

/-- What is listed as a field of an entity: a field, or a value that is none. -/
inductive FieldItem
  | field (f : Field)
  | stray (value : Value)
  deriving DecidableEq

/-- The fields that some items are, if none of them is a stray value. -/
def FieldItem.fields? : List FieldItem → Option (List Field)
  | [] => some []
  | .field f :: rest => (fields? rest).map (f :: ·)
  | .stray _ :: _ => none

/-- Why no specification can be made of some items. -/
inductive ItemError
  /-- There is a stray value among them. -/
  | notAField
  /-- A field has a name that can be no key. -/
  | unfitName (e : UnfitKey)
  deriving DecidableEq

/-- The fields among some items for which a specification is to have a slot. -/
def FieldItem.chosen (wanted : Field → Bool) : List FieldItem → Except ItemError (List Field)
  | [] => .ok []
  | .stray _ :: _ => .error .notAField
  | .field f :: rest => do
    if wanted f then
      let _ ← f.name.asKey.mapError .unfitName
      let others ← chosen wanted rest
      pure (f :: others)
    else chosen wanted rest

end ListQuery
