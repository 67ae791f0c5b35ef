import ListQuery.Input.Attribute
import ListQuery.Input.Basic
import ListQuery.Registry.Basic

/-!
# The input types of a registry

Every entity of a finalized registry has an input type for its filters, and one for
its sort orders if it can be sorted at all: by a scalar field, or through a relation
to an entity that can be sorted. A relation to an entity that cannot be sorted has
no field in the type for sort orders.

Fields whose names give the same attribute compete for it. In a sort order the last
of them has it, in the place of the first. In a filter the combinators come first,
and a field whose attribute is taken is left out, with a notice.

Where a field has an attribute that cannot hold it there are no input types at all. First the
fields of every type are attached, the sort order of each entity before its filter; then the
attributes of each type are checked together, those of all sort orders before those of the
filters.

## Main definitions

* `Registry.sortableEntities` lists the entities that can be sorted.
* `Registry.inputTypes` generates the input types.
* `InputTypes.sort` and `InputTypes.filter` look an entity up.
-/

namespace ListQuery

/-- The input types for the entities that have one. -/
structure InputTypes where
  sorts : Ordered Value InputType
  filters : Ordered Value InputType
  deriving DecidableEq

/-- Why there is no input type. -/
inductive InputTypeError
  | notFinalized
  /-- The name of a type would have a null character in it. -/
  | typeName
  | unfitAttribute (e : AttributeError)
  | noSort (entity : Value)
  | noFilter (entity : Value)
  /-- What is looked up can be no key. -/
  | unfit (e : UnfitKey)
  deriving DecidableEq

/-- What is wrong where there is no input type. -/
def InputTypeError.message : InputTypeError → String
  | .notFinalized => "InputTypeBuilder requires a registry with finalized relations"
  | .typeName => "type name must not contain null characters"
  | .unfitAttribute e => e.message
  | .noSort entity => "No sort order input for entity '" ++ entity.label ++ "'"
  | .noFilter entity => "No where input for entity '" ++ entity.label ++ "'"
  | .unfit e => e.message

/-! ## The fields of a type -/

/-- What the field for a slot takes, if entities of the list only can be sorted. -/
def SortSlot.inputRef? (sortable : List Value) : SortSlot → Option InputRef
  | .leaf _ => some .direction
  | .ref target => if sortable.contains target then some (.sort target) else none

/-- What the field for a slot takes. -/
def FilterSlot.inputRef : FilterSlot → InputRef
  | .operators kind => .operators (.ofKind kind)
  | .ref target => .filter target

/-- The field for a slot of a sort specification, with its attribute. -/
def SortSlot.inputField? (sortable : List Value) (entry : Value × SortSlot) :
    Option (String × InputField) :=
  (entry.2.inputRef? sortable).map fun ref =>
    (attributeName entry.1.label, ⟨entry.1, ref, false⟩)

/-- The fields of the type for the sort orders of an entity. -/
def SortSpec.inputFields (sortable : List Value) (spec : SortSpec) : Ordered String InputField :=
  Ordered.ofEntries (spec.slots.filterMap (SortSlot.inputField? sortable))

/-- The type for the sort orders of an entity; one without fields is none. -/
def SortSpec.inputType? (sortable : List Value) (name : Value) (spec : SortSpec) :
    Option InputType :=
  let fields := spec.inputFields sortable
  if fields.isEmpty then none else some ⟨sortInputName name.label, fields⟩

/-- The fields for the combinators of a filter: each takes a list of such filters. -/
def FilterSpec.combinatorFields (entity : Value) (spec : FilterSpec) :
    Ordered String InputField :=
  spec.combinators.map fun c => (c.word, ⟨.text c.word, .filter entity, true⟩)

/-- A field under an attribute of a type, unless the attribute belongs to every type. -/
def InputField.attach (type attr : String) (f : InputField) :
    Except InputTypeError (String × InputField) :=
  match ownAttributeError? type attr with
  | some e => .error (.unfitAttribute e)
  | none => .ok (attr, f)

/-- Attaches the fields of a type, one after the other. -/
def InputType.attached (type : InputType) : Except InputTypeError InputType := do
  let fields ← type.fields.mapM fun (attr, f) => f.attach type.name attr
  pure ⟨type.name, fields⟩

/-- Attaches fields for the slots of a filter specification, as far as their attributes are
free. -/
def attachFilterFields (entity : Value) (fields : Ordered String InputField) :
    List (Value × FilterSlot) → Checked InputTypeError (Ordered String InputField)
  | [] => pure fields
  | (name, slot) :: rest =>
    let attr := attributeName name.label
    if Ordered.has attr fields then do
      Checked.give (.fieldSkipped entity.label name.label)
      attachFilterFields entity fields rest
    else do
      let field : InputField := ⟨name, slot.inputRef, false⟩
      let entry ← .ofExcept (field.attach (whereInputName entity.label) attr)
      attachFilterFields entity (fields ++ [entry]) rest

/-- The type for the filters of an entity. -/
def FilterSpec.inputType (name : Value) (spec : FilterSpec) : Checked InputTypeError InputType :=
  InputType.mk (whereInputName name.label) <$>
    attachFilterFields name (spec.combinatorFields name) spec.slots

/-- Checks the attributes of a type together. -/
def InputType.checked (type : InputType) : Except InputTypeError Unit :=
  (checkParameters (Ordered.keys type.fields)).mapError .unfitAttribute

/-! ## The types of all entities -/

namespace Registry

/-- The entities with a slot that is a scalar or leads to an entity of the list. -/
def sortableThrough (r : Registry) (known : List Value) : List Value :=
  Ordered.keys <| r.entries.filter fun entry =>
    entry.2.sort.slots.any fun slot => (slot.2.inputRef? known).isSome

/-- The entities from which fewer than so many relations lead to a scalar to sort by. -/
def sortableWithin (r : Registry) : Nat → List Value
  | 0 => []
  | steps + 1 => r.sortableThrough (r.sortableWithin steps)

/-- The entities that can be sorted. No chain of relations need be longer than the number of
entities, so that many steps find all of them. -/
def sortableEntities (r : Registry) : List Value := r.sortableWithin r.entries.length

/-- The types of an entity. -/
def entityTypes (sortable : List Value) (name : Value) (entry : Entry) :
    Checked InputTypeError (Option InputType × InputType) := do
  let sort ← .ofExcept ((entry.sort.inputType? sortable name).mapM InputType.attached)
  let filter ← entry.filter.inputType name
  pure (sort, filter)

/-- The types of entities, in their order. -/
def typesOf (sortable : List Value) : List (Value × Entry) → Checked InputTypeError InputTypes
  | [] => pure ⟨[], []⟩
  | (name, entry) :: rest => do
    let (sort, filter) ← entityTypes sortable name entry
    let others ← typesOf sortable rest
    pure ⟨(sort.map fun type => (name, type)).toList ++ others.sorts,
      (name, filter) :: others.filters⟩

/-- Checks the types one by one, those for sort orders first. -/
def checkTypes (types : InputTypes) : Except InputTypeError Unit :=
  (types.sorts ++ types.filters).forM fun entry => entry.2.checked

/-- Whether no type would have a null character in its name. -/
def typeNamesValid (r : Registry) : Bool :=
  r.names.all fun name => !name.label.toList.contains '\x00'

/-- Generates the input types, which takes a finalized registry. -/
def inputTypes (r : Registry) : Checked InputTypeError InputTypes := do
  if !r.finalized then .ofExcept (.error .notFinalized)
  else if !r.typeNamesValid then .ofExcept (.error .typeName)
  else
    let types ← typesOf r.sortableEntities r.entries
    .ofExcept (checkTypes types)
    Checked.give (.inputsBuilt r.entries.length)
    pure types

end Registry

namespace InputTypes

/-- The type for the sort orders of an entity. -/
def sort (types : InputTypes) (entity : Value) : Except InputTypeError InputType := do
  let key ← entity.asKey.mapError .unfit
  match Ordered.find? key types.sorts with
  | some type => .ok type
  | none => .error (.noSort key)

/-- The type for the filters of an entity. -/
def filter (types : InputTypes) (entity : Value) : Except InputTypeError InputType := do
  let key ← entity.asKey.mapError .unfit
  match Ordered.find? key types.filters with
  | some type => .ok type
  | none => .error (.noFilter key)

/-- All types by their names, those for sort orders first. Of two types of one name the later
takes the place of the earlier. -/
def all (types : InputTypes) : List InputType :=
  (Ordered.ofEntries <| (types.sorts ++ types.filters).map fun entry =>
    (entry.2.name, entry.2)).map Prod.snd

end InputTypes

end ListQuery
