import ListQuery.Proofs.Registry.TwoPhase
import ListQuery.Proofs.Sql.Translation
import ListQuery.Sql.Describe
import Mathlib.Data.List.Nodup

/-!
# Registries that describe models

Where the entities of a registry are taken from the models of a schema, what the registry says
of an entity agrees with the schema: a scalar field is a column, of the kind that the column
suggests, and a relation is a relationship to the model of the entity that it leads to. For
this the models have to be mapped properly, with a key for each attribute, and the relations
have to be given the names under which their models are registered.

## Main definitions

* `Model.IsMapped` says that the attributes of a model have keys of their own.
* `IsDescribed` says that the entities of a registry are taken from models.

## Main results

* `Registry.Complete.of_operatorsFor` and `Registry.Complete.of_target`: what stands in a filter
  specification comes from the fields of the entity.
* `IsDescribed.column` and `IsDescribed.relationship`: what these fields are in the schema.
-/

namespace ListQuery

namespace Sql

variable {ι : Type} {schema : Schema ι} {m : Model ι} {model : ι} {col : Column} {f : Field}
  {fields : List Field}

/-! ## Mapped models -/

/-- No two columns of a model have the same key, and no relationship has the key of a column. -/
structure Model.IsMapped (m : Model ι) : Prop where
  columns : (m.columns.map Column.key).Nodup
  apart : ∀ col ∈ m.columns, ∀ r ∈ m.relationships, col.key ≠ r.key

theorem Model.IsMapped.column?_key (mapped : m.IsMapped) (there : col ∈ m.columns) :
    m.column? col.key = some col := by
  rw [Model.column?]
  cases found : m.columns.find? fun c => c.key = col.key with
  | none => simpa using List.find?_eq_none.1 found col there
  | some other =>
    have same : other.key = col.key := by simpa using List.find?_some found
    rw [List.inj_on_of_nodup_map mapped.columns (List.mem_of_find?_eq_some found) there same]

theorem Model.IsMapped.relationship?_key (mapped : m.IsMapped) (there : col ∈ m.columns) :
    m.relationship? col.key = none := by
  rw [Model.relationship?, List.find?_eq_none]
  intro r among same
  exact mapped.apart col there r among (of_decide_eq_true same).symm

/-! ## Fields of models -/

theorem field_of_describeColumns {excluded : List Value} {sortable filterable : Bool}
    (there : f ∈ describeColumns m excluded sortable filterable) :
    ∃ col ∈ m.columns, f.name = .text col.key ∧ f.kind = col.kind := by
  obtain ⟨col, kept, rfl⟩ := List.mem_map.1 there
  exact ⟨col, (List.mem_filter.1 kept).1, rfl, rfl⟩

theorem field_of_describeRelations {excluded : List Value} {sortable filterable : Bool}
    {included : List (Value × Value)} : ∀ {fields : List Field},
      describeRelations schema model excluded sortable filterable included = .ok fields →
        f ∈ fields → ∃ r target, relationshipOf? (schema model) f.name = some r ∧
          f.kind = .relation target := by
  induction included with
  | nil =>
    intro fields done there
    cases done
    cases there
  | cons entry rest ih =>
    intro fields done there
    obtain ⟨key, target⟩ := entry
    rw [describeRelations] at done
    split at done
    · exact ih done there
    · cases leads : relationshipOf? (schema model) key with
      | none =>
        rw [relationshipOf?] at leads
        rw [namedRelationship, leads] at done
        cases done
      | some r =>
        cases later : describeRelations schema model excluded sortable filterable rest with
        | error e =>
          rw [later, namedRelationship, ← relationshipOf?, leads] at done
          cases done
        | ok others =>
          rw [later, namedRelationship, ← relationshipOf?, leads] at done
          cases done
          rcases List.mem_cons.1 there with rfl | after
          · exact ⟨r, _, leads, rfl⟩
          · exact ih later after

/-- A field of a model is a column or a relationship. -/
theorem field_of_describe {exclude relations : Value} {sortable filterable : Bool}
    (done : describe schema model exclude relations sortable filterable = .ok fields)
    (there : f ∈ fields) :
    (∃ col ∈ (schema model).columns, f.name = .text col.key ∧ f.kind = col.kind) ∨
      ∃ r target, relationshipOf? (schema model) f.name = some r ∧ f.kind = .relation target := by
  rw [describe] at done
  cases asked : excludedKeys exclude with
  | error e => rw [asked] at done; cases done
  | ok excluded =>
    cases named : includedRelations relations with
    | error e => rw [asked, named] at done; cases done
    | ok included =>
      cases related : describeRelations schema model excluded sortable filterable included with
      | error e =>
        rw [asked, named] at done
        simp only [bind, Except.bind, related] at done
        cases done
      | ok others =>
        rw [asked, named] at done
        simp only [bind, Except.bind, related] at done
        cases done
        rcases List.mem_append.1 there with column | relation
        · exact Or.inl (field_of_describeColumns column)
        · exact Or.inr (field_of_describeRelations related relation)

/-- The kind of a column is no relation. -/
theorem target?_kind (col : Column) : col.kind.target? = none := by
  unfold Column.kind
  split
  · rfl
  · cases col.type <;> rfl

/-! ## Registries -/

/-- Every entity was last registered with fields of its model, and every relation is to lead to
an entity of the model that its relationship leads to. -/
structure IsDescribed (schema : Schema ι) (model : Value → ι)
    (past : List (Value × List Field)) : Prop where
  fields : ∀ name fields, Registry.lastFields? past name = some fields →
    ∃ exclude relations sortable filterable,
      describe schema (model name) exclude relations sortable filterable = .ok fields
  targets : ∀ name fields, Registry.lastFields? past name = some fields → ∀ f ∈ fields,
    ∀ target r, f.target? = some target →
      relationshipOf? (schema (model name)) f.name = some r → model target = r.target

end Sql

namespace Registry

variable {past : List (Value × List Field)} {r : Registry} {name : Value} {fields : List Field}
  {entry : Entry}

/-- The fields of a complete entity were carried by its last registration. -/
theorem Complete.mem_fields (complete : Complete past r name fields entry) {f : Field}
    (there : f ∈ entry.spec.fields) : f ∈ fields := by
  rw [complete.fields, completeFields, lastOccurrences_eq, List.mem_append] at there
  rcases there with scalar | relation
  · exact mem_of_mem_lastOfEachName (List.mem_filter.1 scalar).1
  · exact mem_of_mem_lastOfEachName (List.mem_filter.1 relation).1

/-- What stands in a filter specification is the slot of a filterable field of the entity. -/
theorem Complete.exists_field (complete : Complete past r name fields entry) {key : Value}
    {slot : FilterSlot} (found : Ordered.find? key entry.filter.slots = some slot) :
    ∃ f ∈ entry.spec.fields, (f.name == key) = true ∧ f.filterable = true ∧
      FilterSlot.ofField f = slot := by
  rw [complete.inStep.filter] at found
  exact Field.exists_of_find?_slots complete.apart found

/-- What stands in a sort specification is the slot of a sortable field of the entity. -/
theorem Complete.exists_sortField (complete : Complete past r name fields entry) {key : Value}
    {slot : SortSlot} (found : Ordered.find? key entry.sort.slots = some slot) :
    ∃ f ∈ entry.spec.fields, (f.name == key) = true ∧ f.sortable = true ∧
      SortSlot.ofField f = slot := by
  rw [complete.inStep.sort] at found
  exact Field.exists_of_find?_slots complete.apart found

/-- A scalar field of the specification is one of the entity, of a kind with these operators. -/
theorem Complete.of_operatorsFor (complete : Complete past r name fields entry) {key : Value}
    {operators : List Operator} (admitted : entry.filter.operatorsFor? key = some operators) :
    ∃ f ∈ entry.spec.fields, (f.name == key) = true ∧ f.filterable = true ∧
      f.target? = none ∧ f.kind.operators = operators := by
  rw [FilterSpec.operatorsFor?] at admitted
  split at admitted
  · next kind found =>
    obtain ⟨f, there, same, filterable, slot⟩ := complete.exists_field found
    rw [FilterSlot.ofField] at slot
    cases leads : f.target? with
    | some target => rw [leads] at slot; cases slot
    | none =>
      rw [leads] at slot
      cases slot
      exact ⟨f, there, same, filterable, leads, Option.some.inj admitted⟩
  · cases admitted

/-- A relation of the specification is one of the entity, to the same target. -/
theorem Complete.of_target (complete : Complete past r name fields entry) {key target : Value}
    (leads : entry.filter.target? key = some target) :
    ∃ f ∈ entry.spec.fields, (f.name == key) = true ∧ f.filterable = true ∧
      f.target? = some target := by
  rw [FilterSpec.target?] at leads
  split at leads
  · next found =>
    cases leads
    obtain ⟨f, there, same, filterable, slot⟩ := complete.exists_field found
    exact ⟨f, there, same, filterable, FilterSlot.target?_of_ofField slot⟩
  · cases leads

end Registry

namespace Sql

open Registry (Complete)

variable {ι : Type} {schema : Schema ι} {model : Value → ι} {past : List (Value × List Field)}
  {r : Registry} {name : Value} {fields : List Field} {entry : Registry.Entry} {f : Field}

/-- A scalar field of an entity is a column of its model, and no relationship. -/
theorem IsDescribed.column (described : IsDescribed schema model past)
    (mapped : ∀ m, (schema m).IsMapped) (complete : Complete past r name fields entry)
    (there : f ∈ entry.spec.fields) (scalar : f.target? = none) :
    relationshipOf? (schema (model name)) f.name = none ∧
      ∃ col, columnOf? (schema (model name)) f.name = some col ∧ f.kind = col.kind := by
  obtain ⟨exclude, relations, sortable, filterable, done⟩ :=
    described.fields name fields complete.last
  rcases field_of_describe done (complete.mem_fields there) with
      ⟨col, among, named, kind⟩ | ⟨r, target, -, kind⟩
  · rw [named]
    exact ⟨(mapped _).relationship?_key among, col, (mapped _).column?_key among, kind⟩
  · rw [Field.target?, kind] at scalar
    cases scalar

/-- A relation of an entity is a relationship of its model, to the model of the entity that it
leads to. -/
theorem IsDescribed.relationship (described : IsDescribed schema model past)
    (complete : Complete past r name fields entry) (there : f ∈ entry.spec.fields)
    {target : Value} (leads : f.target? = some target) :
    ∃ r, relationshipOf? (schema (model name)) f.name = some r ∧ r.target = model target := by
  obtain ⟨exclude, relations, sortable, filterable, done⟩ :=
    described.fields name fields complete.last
  have carried := complete.mem_fields there
  rcases field_of_describe done carried with ⟨col, -, -, kind⟩ | ⟨r, _, related, -⟩
  · rw [Field.target?, kind, target?_kind] at leads
    cases leads
  · exact ⟨r, related, (described.targets name fields complete.last f carried target r leads
      related).symm⟩

end Sql

end ListQuery
