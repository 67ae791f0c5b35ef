import ListQuery.Proofs.Input.Building

/-!
# The graph of input types

The input types of a registry refer to one another, and none of these references leads nowhere.
A field of a type for sort orders takes a direction or a sort order of an entity that has such a
type, and there is no such type without fields. A field of a type for filters takes a list of
filters of that same type, the operators of the kind of a field, or a filter of an entity.

An entity has a type for its filters as soon as it is registered, and one for its sort orders
exactly if it can be sorted: relations to sort by lead from it to a scalar to sort by.

## Main definitions

* `InputTypes.SortField` and `InputTypes.FilterField` say what a field may take.
* `Registry.ClosedTypes` collects what holds of all input types of a registry.

## Main results

* `Registry.closedTypes_of_run`: after any run that ends in finalizing, types can be built in
  place, and the types that are generated are closed.
-/

namespace ListQuery

/-- A field of a type for sort orders: it takes a direction, or a sort order for which there is a
type. -/
inductive InputTypes.SortField (types : InputTypes) : InputField → Prop
  | direction (name : Value) : SortField types ⟨name, .direction, false⟩
  | nested (name : Value) {target : Value} {type : InputType}
      (known : types.sort target = .ok type) : SortField types ⟨name, .sort target, false⟩

/-- A field of a type for the filters by a specification, under an attribute: it takes a list of
filters of that type, operators of a kind, or a filter for which there is a type. -/
inductive InputTypes.FilterField (types : InputTypes) (spec : FilterSpec) (type : InputType) :
    String × InputField → Prop
  | group {c : Combinator} (among : c ∈ spec.combinators) {entity : Value}
      (self : types.filter entity = .ok type) :
      FilterField types spec type (c.word, ⟨.text c.word, .filter entity, true⟩)
  | operators (attr : String) {name : Value} {kind : FieldKind}
      (slot : (name, .operators kind) ∈ spec.slots) :
      FilterField types spec type (attr, ⟨name, .operators (.ofKind kind), false⟩)
  | nested (attr : String) {name target : Value} {inner : InputType}
      (slot : (name, .ref target) ∈ spec.slots) (known : types.filter target = .ok inner) :
      FilterField types spec type (attr, ⟨name, .filter target, false⟩)

namespace Registry

/-- The input types of a registry are those of its entities, and refer to each other only. -/
structure ClosedTypes (r : Registry) (types : InputTypes) : Prop where
  sorts : ∀ name entry, r.entry name = .ok entry →
    ((∃ type, types.sort name = .ok type) ↔ r.CanBeSorted entry)
  filters : ∀ name entry, r.entry name = .ok entry → ∃ type, types.filter name = .ok type
  sortFields : ∀ entry ∈ types.sorts,
    entry.2.fields ≠ [] ∧ ∀ field ∈ entry.2.fields, types.SortField field.2
  filterFields : ∀ name entry type, r.entry name = .ok entry → types.filter name = .ok type →
    ∀ field ∈ type.fields, types.FilterField entry.filter type field

variable {config : Config} {past : List (Value × List Field)} {r : Registry} {name target : Value}
  {entry : Entry}

/-- What is found in a registry stands there under the same key. -/
theorem exists_of_find? (found : Ordered.find? target r.entries = some entry) : ∃ name,
    List.find? (fun entry => entry.1 == target) r.entries = some (name, entry) ∧
      (name, entry) ∈ r.entries ∧ (name == target) = true := by
  rw [Ordered.find?_eq, Option.map_eq_some_iff] at found
  obtain ⟨⟨name, _⟩, first, rfl⟩ := found
  have named := List.find?_some first
  exact ⟨name, first, List.mem_of_find?_eq_some first, named⟩

/-- There is a type for the sort orders of an entity exactly if it can be sorted. -/
theorem Finalized.sort_iff (final : Finalized config past r) (fit : target.changeable? = none)
    (found : Ordered.find? target r.entries = some entry) :
    (∃ type, (chosenTypes r.sortableEntities r.entries).sort target = .ok type) ↔
      r.CanBeSorted entry := by
  obtain ⟨name, first, there, -⟩ := exists_of_find? found
  have supported := supported_sortableEntities final
  -- an entity can be sorted exactly if it has a field to sort by, and then it has a type
  rw [← supported.hasInput_iff r.saturated_sortableEntities final there, Entry.hasInput,
    ← SortSpec.isSome_inputType? entry.sort name, Option.isSome_iff_exists]
  refine exists_congr fun type => ?_
  rw [InputTypes.sort_eq_ok_iff, find?_sorts final.distinct, first, Option.bind_some,
    and_iff_right fit]

/-- An entity that a slot for sort orders leads to is among those that can be sorted exactly if
there is a type for its sort orders. -/
theorem Finalized.contains_iff_sort (final : Finalized config past r)
    (there : (name, entry) ∈ r.entries) {field : Value}
    (has : (field, .ref target) ∈ entry.sort.slots) :
    r.sortableEntities.contains target = true ↔
      ∃ type, (chosenTypes r.sortableEntities r.entries).sort target = .ok type := by
  -- the slot is that of a relation, which leads to a registered entity
  rw [final.sort_slots there] at has
  obtain ⟨f, wanted, slot⟩ := List.mem_map.1 has
  have leads := SortSlot.target?_of_ofField (Prod.mk.inj slot).2
  obtain ⟨fit, next, found⟩ := final.exists_target there (List.mem_filter.1 wanted).1 leads
  rw [final.sort_iff fit found, (supported_sortableEntities final).contains_iff
    r.saturated_sortableEntities final target]
  constructor
  · rintro ⟨other, entry', there', same, sorted⟩
    obtain rfl := final.eq_of_beq there' found same
    exact sorted
  · intro sorted
    obtain ⟨other, -, there', same⟩ := exists_of_find? found
    exact ⟨other, next, there', BEq.symm same, sorted⟩

/-- There is a type for the filters of each entity. -/
theorem filter_chosen (fit : target.changeable? = none)
    (found : Ordered.find? target r.entries = some entry) (sortable : List Value) :
    ∃ name, (name, entry) ∈ r.entries ∧ (name == target) = true ∧
      (chosenTypes sortable r.entries).filter target =
        .ok ⟨whereInputName name.label, entry.filter.inputFields name⟩ := by
  obtain ⟨name, first, there, same⟩ := exists_of_find? found
  refine ⟨name, there, same, InputTypes.filter_eq_ok_iff.2 ⟨fit, ?_⟩⟩
  rw [find?_filters, first, Option.map_some]

/-- A type for sort orders has fields, which take directions or sort orders of other entities that
can be sorted. -/
theorem Finalized.sortFields (final : Finalized config past r) {type : InputType}
    (there : (name, type) ∈ (chosenTypes r.sortableEntities r.entries).sorts) :
    type.fields ≠ [] ∧
      ∀ field ∈ type.fields, (chosenTypes r.sortableEntities r.entries).SortField field.2 := by
  obtain ⟨⟨_, entry⟩, among, chosen⟩ := List.mem_filterMap.1 there
  obtain ⟨_, made, both⟩ := Option.map_eq_some_iff.1 chosen
  obtain ⟨rfl, rfl⟩ := Prod.mk.inj both
  rw [SortSpec.inputType?] at made
  split at made
  · cases made
  · next full =>
    obtain rfl := Option.some.inj made
    refine ⟨fun empty => full (List.isEmpty_iff.2 empty), ?_⟩
    rintro ⟨attr, f⟩ field
    obtain ⟨-, single, slot, has, takes⟩ := SortSpec.mem_inputFields field
    obtain ⟨f, ref, many⟩ := f
    obtain rfl : many = false := single
    cases slot with
    | leaf kind =>
      obtain rfl : InputRef.direction = ref := Option.some.inj takes
      exact .direction f
    | ref target =>
      rw [SortSlot.inputRef?] at takes
      split at takes
      · next counted =>
        obtain rfl : InputRef.sort target = ref := Option.some.inj takes
        obtain ⟨inner, known⟩ := (final.contains_iff_sort among has).1 counted
        exact .nested f known
      · cases takes

/-- A type for filters takes lists of its own filters, operators, and filters of other entities. -/
theorem Finalized.filterFields (final : Finalized config past r) (known : r.entry name = .ok entry)
    {type : InputType}
    (chosen : (chosenTypes r.sortableEntities r.entries).filter name = .ok type) :
    ∀ field ∈ type.fields,
      (chosenTypes r.sortableEntities r.entries).FilterField entry.filter type field := by
  have fit := fit_of_entry known
  obtain ⟨self, there, same, made⟩ := filter_chosen fit (find?_of_entry known).2 r.sortableEntities
  obtain rfl := Except.ok.inj (made.symm.trans chosen)
  rintro ⟨attr, f⟩ field
  rcases FilterSpec.mem_inputFields field with
    ⟨c, among, rfl, rfl⟩ | ⟨-, -, single, slot, has, takes⟩
  · -- the entity refers to itself by its name in the registry
    refine .group among (InputTypes.filter_eq_ok_iff.2 ⟨?_, ?_⟩)
    · exact Value.changeable?_eq_none_of_beq (BEq.symm same) fit
    · rw [Ordered.find?_congr same]
      exact (InputTypes.filter_eq_ok_iff.1 made).2
  · obtain ⟨f, ref, many⟩ := f
    obtain rfl : many = false := single
    obtain rfl : ref = slot.inputRef := takes
    cases slot with
    | operators kind => exact .operators attr has
    | ref target =>
      have ref := has
      -- every registered entity has a type for its filters
      rw [final.filter_slots there] at ref
      obtain ⟨g, wanted, slot⟩ := List.mem_map.1 ref
      have leads := FilterSlot.target?_of_ofField (Prod.mk.inj slot).2
      obtain ⟨fit', next, found⟩ := final.exists_target there (List.mem_filter.1 wanted).1 leads
      obtain ⟨_, -, -, inner⟩ := filter_chosen fit' found r.sortableEntities
      exact .nested attr has inner

theorem Finalized.closedTypes (final : Finalized config past r) {types : InputTypes}
    (built : r.inputTypes.outcome.value = .ok types) : r.ClosedTypes types := by
  obtain ⟨-, rfl⟩ := inputTypes_eq_ok built
  refine ⟨fun name entry known => ?_, fun name entry known => ?_, fun entry there => ?_,
    fun name entry type known chosen => ?_⟩
  · exact final.sort_iff (fit_of_entry known) (find?_of_entry known).2
  · obtain ⟨_, -, -, chosen⟩ :=
      filter_chosen (fit_of_entry known) (find?_of_entry known).2 r.sortableEntities
    exact ⟨_, chosen⟩
  · exact final.sortFields there
  · exact final.filterFields known chosen

/-- After any run that ends in finalizing, if names are found again, building the input types in
place looks up nothing that is missing and does what generating them does. The types that are
generated are closed: an entity has a type for its sort orders exactly if relations lead from it
to a scalar to sort by, no such type is empty, and whatever fields take has a type. -/
theorem closedTypes_of_run {ops : List Operation}
    (done : ((empty config).run ops).finalize.outcome.value = .ok r) :
    ((∀ name ∈ r.names, (name == name) = true) →
      (∀ key, r.buildInPlace ≠ .error (.missingKey key)) ∧
        r.buildInPlace = r.inputTypes.outcome.value.mapError .refused) ∧
      ∀ types, r.inputTypes.outcome.value = .ok types → r.ClosedTypes types := by
  have final := finalized_of_run done
  refine ⟨fun found => ?_, fun types built => final.closedTypes built⟩
  have same := final.buildInPlace_eq found
  refine ⟨fun key missing => ?_, same⟩
  rw [same] at missing
  cases value : r.inputTypes.outcome.value with
  | ok types => rw [value] at missing; cases missing
  | error e => rw [value] at missing; cases missing

/-- A run in which two entities refer to each other and have no scalar to sort by, and a third has
one and refers to them. -/
def circleRun : List Operation :=
  let relation (name target : String) : FieldItem :=
    .field ⟨.text name, .relation (.text target), true, true⟩
  [.enter (.listed (.text "Parent") [relation "child" "Child"]),
   .enter (.listed (.text "Child") [relation "parent" "Parent"]),
   .enter (.listed (.text "Note")
     [.field ⟨.text "in", .scalar .string, true, true⟩, relation "about" "Parent"])]

theorem closedTypes_of_run_circle : ∃ r types,
    ((empty .standard).run circleRun).finalize.outcome.value = .ok r ∧
      r.inputTypes.outcome.value = .ok types ∧ r.buildInPlace = .ok types ∧
      r.ClosedTypes types ∧
      types.sorts.map (fun entry => (entry.1, Ordered.keys entry.2.fields)) =
        [(.text "Note", ["in_"])] ∧
      types.filters.map (fun entry => (entry.1, Ordered.keys entry.2.fields)) =
        [(.text "Parent", ["AND", "OR", "child"]), (.text "Child", ["AND", "OR", "parent"]),
          (.text "Note", ["AND", "OR", "in_", "about"])] := by
  obtain ⟨inPlace, closed⟩ := closedTypes_of_run
    (show ((empty .standard).run circleRun).finalize.outcome.value = .ok _ from rfl)
  obtain ⟨-, same⟩ := inPlace (by decide)
  refine ⟨_, _, rfl, rfl, ?_, closed _ rfl, rfl, rfl⟩
  rw [same]
  rfl

end Registry

end ListQuery
