import ListQuery.Proofs.Input.Generated
import ListQuery.Proofs.Registry.Attaching

/-!
# Building input types in place

Input types that refer to one another in circles can be built in place. First the entities that
can be sorted are found, by going over all entities until nothing is added. Then every type is
entered into a table, without fields yet. Only then are the fields of each type attached, and
what a field takes is looked up in the tables, where it is expected to be. In the end the
attributes of each type are checked together.

Where a registry is finalized, nothing that is looked up is missing. So building in place
comes to the types that are generated, or fails with the same error.

## Main definitions

* `Registry.buildInPlace` builds the types.

## Main results

* `Registry.populateAll_eq`: attaching fields in place, with the finished types in front of those
  without fields.
* `Registry.Finalized.buildInPlace_eq`: building in place is generating.
-/

namespace ListQuery

open Registry (isListed)

/-! ## Building -/

namespace InputTypes

/-- What stands under a key in a table of types where it is expected. -/
def require (key : Value) (table : Ordered Value InputType) :
    Except (Fault InputTypeError) InputType :=
  match Ordered.find? key table with
  | some type => .ok type
  | none => .error (.missingKey key)

/-- A type without fields. -/
def plainType (typeName : String) : Except (Fault InputTypeError) InputType :=
  if typeName.toList.contains '\x00' then .error (.refused .typeName) else .ok ⟨typeName, []⟩

/-- Enters the types of an entity, without fields. -/
def enter (sortable : List Value) (types : InputTypes) (name : Value) :
    Except (Fault InputTypeError) InputTypes := do
  let sorts ←
    if isListed name sortable then do
      let type ← plainType (sortInputName name.label)
      pure (Ordered.insert name type types.sorts)
    else pure types.sorts
  let type ← plainType (whereInputName name.label)
  pure ⟨sorts, Ordered.insert name type types.filters⟩

/-- Attaches a field to a type that has some fields. -/
def attachField (typeName : String) (fields : Ordered String InputField) (f : InputField) :
    Except (Fault InputTypeError) (Ordered String InputField) := do
  let entry ← (f.attach typeName (attributeName f.name.label)).mapError .refused
  pure (Ordered.insert entry.1 entry.2 fields)

/-- Attaches fields for the slots of a sort specification, except for relations to entities that
cannot be sorted. -/
def attachSortSlots (sortable : List Value) (sorts : Ordered Value InputType) (typeName : String)
    (fields : Ordered String InputField) :
    List (Value × SortSlot) → Except (Fault InputTypeError) (Ordered String InputField)
  | [] => pure fields
  | (name, .leaf _) :: rest => do
    let fields ← attachField typeName fields ⟨name, .direction, false⟩
    attachSortSlots sortable sorts typeName fields rest
  | (name, .ref target) :: rest => do
    if sortable.contains target then
      let _ ← require target sorts
      let fields ← attachField typeName fields ⟨name, .sort target, false⟩
      attachSortSlots sortable sorts typeName fields rest
    else attachSortSlots sortable sorts typeName fields rest

/-- Looks up the type that the field for a slot of a filter specification takes, if it is the
type of an entity. -/
def requireTarget (filters : Ordered Value InputType) :
    FilterSlot → Except (Fault InputTypeError) Unit
  | .operators _ => pure ()
  | .ref target => do
    let _ ← require target filters
    pure ()

/-- Attaches fields for the slots of a filter specification, as far as their attributes are
free. -/
def attachFilterSlots (filters : Ordered Value InputType) (typeName : String)
    (fields : Ordered String InputField) :
    List (Value × FilterSlot) → Except (Fault InputTypeError) (Ordered String InputField)
  | [] => pure fields
  | (name, slot) :: rest => do
    if Ordered.has (attributeName name.label) fields then
      attachFilterSlots filters typeName fields rest
    else
      requireTarget filters slot
      let fields ← attachField typeName fields ⟨name, slot.inputRef, false⟩
      attachFilterSlots filters typeName fields rest

/-- Attaches the fields of the type for the sort orders of an entity. -/
def populateSort (sortable : List Value) (types : InputTypes) (name : Value) (spec : SortSpec) :
    Except (Fault InputTypeError) InputTypes := do
  let type ← require name types.sorts
  let fields ← attachSortSlots sortable types.sorts type.name [] spec.slots
  pure { types with sorts := Ordered.insert name { type with fields } types.sorts }

/-- Attaches the fields of the type for the filters of an entity. -/
def populateFilter (types : InputTypes) (name : Value) (spec : FilterSpec) :
    Except (Fault InputTypeError) InputTypes := do
  let type ← require name types.filters
  let fields ← attachFilterSlots types.filters type.name (spec.combinatorFields name) spec.slots
  pure { types with filters := Ordered.insert name { type with fields } types.filters }

/-- Attaches the fields of the types of an entity. -/
def populate (sortable : List Value) (types : InputTypes) (entry : Value × Registry.Entry) :
    Except (Fault InputTypeError) InputTypes := do
  let types ←
    if isListed entry.1 sortable then populateSort sortable types entry.1 entry.2.sort
    else pure types
  populateFilter types entry.1 entry.2.filter

end InputTypes

/-- Builds the input types of a finalized registry. -/
def Registry.buildInPlace (r : Registry) : Except (Fault InputTypeError) InputTypes :=
  if !r.finalized then .error (.refused .notFinalized)
  else do
    let sortable := r.saturate []
    let plain ← r.names.foldlM (InputTypes.enter sortable) ⟨[], []⟩
    let types ← r.entries.foldlM (InputTypes.populate sortable) plain
    (checkTypes types).mapError .refused
    pure types

/-! ## Attaching fields -/

namespace Ordered

variable {κ α β : Type} [BEq κ] [LawfulBEq κ]

/-- The first result among the keys that have been written is that among all writes. -/
theorem findSome?_keys_merge (f : κ → Option β) (entries : List (κ × α)) :
    ∀ map : Ordered κ α, (keys (merge map entries)).findSome? f =
      (keys map ++ keys entries).findSome? f := by
  induction entries with
  | nil => exact fun map => by rw [keys, keys, keys, List.map_nil, List.append_nil]; rfl
  | cons entry rest ih =>
    intro map
    have written : (keys (insert entry.1 entry.2 map)).findSome? f =
        ((keys map).findSome? f).or (f entry.1) := by
      rw [keys_insert]
      split
      · next known =>
        -- a key that was there before gives nothing new
        rw [has_iff_any, List.any_eq_true] at known
        obtain ⟨other, there, same⟩ := known
        obtain rfl := eq_of_beq same
        cases first : (keys map).findSome? f with
        | some x => rfl
        | none => exact (List.findSome?_eq_none_iff.1 first _ there).symm
      · rw [List.findSome?_append, List.findSome?_singleton]
    have later := ih (insert entry.1 entry.2 map)
    rw [List.findSome?_append, written] at later
    have cons : keys (entry :: rest) = entry.1 :: keys rest := rfl
    rw [List.findSome?_append, cons, List.findSome?_cons]
    refine later.trans ?_
    cases (keys map).findSome? f <;> cases f entry.1 <;> rfl

theorem Distinct.apart_middle {κ : Type} [BEq κ] {key : κ} {value : α} {done rest : Ordered κ α}
    (distinct : Distinct (done ++ (key, value) :: rest)) :
    ∀ other ∈ keys done, (other == key) = false := by
  intro other there
  rw [Distinct, keys, List.map_append, List.map_cons] at distinct
  exact (List.pairwise_append.1 distinct).2.2 other there key List.mem_cons_self

end Ordered

namespace InputTypes

variable {sortable : List Value} {sorts filters : Ordered Value InputType} {typeName : String}

theorem require_of_has {key : Value} {table : Ordered Value InputType}
    (there : Ordered.has key table = true) : ∃ type, require key table = .ok type := by
  obtain ⟨type, found⟩ := Option.isSome_iff_exists.1 there
  exact ⟨type, by rw [require, found]⟩

theorem attachField_eq (fields : Ordered String InputField) (f : InputField) :
    attachField typeName fields f =
      match ownAttributeError? typeName (attributeName f.name.label) with
      | some e => .error (.refused (.unfitAttribute e))
      | none => .ok (Ordered.insert (attributeName f.name.label) f fields) := by
  rw [attachField, InputField.attach_eq]
  cases ownAttributeError? typeName (attributeName f.name.label) <;> rfl

/-- Attaching the fields of a sort order one by one fails for the first attribute that cannot hold
one. -/
theorem attachSortSlots_eq (targets : ∀ target, sortable.contains target = true →
      Ordered.has target sorts = true) (slots : List (Value × SortSlot)) :
    ∀ fields, attachSortSlots sortable sorts typeName fields slots =
      match (Ordered.keys (slots.filterMap (SortSlot.inputField? sortable))).findSome?
        (ownAttributeError? typeName) with
      | some e => .error (.refused (.unfitAttribute e))
      | none => .ok (Ordered.merge fields (slots.filterMap (SortSlot.inputField? sortable))) := by
  -- a field is attached, and then those for the other slots
  have attach (name : Value) (ref : InputRef) (rest : List (Value × SortSlot))
      (ih : ∀ fields, attachSortSlots sortable sorts typeName fields rest =
        match (Ordered.keys (rest.filterMap (SortSlot.inputField? sortable))).findSome?
          (ownAttributeError? typeName) with
        | some e => .error (.refused (.unfitAttribute e))
        | none => .ok (Ordered.merge fields (rest.filterMap (SortSlot.inputField? sortable))))
      (fields : Ordered String InputField) :
      (attachField typeName fields ⟨name, ref, false⟩ >>= fun fields =>
        attachSortSlots sortable sorts typeName fields rest) =
      match (Ordered.keys ((attributeName name.label, ⟨name, ref, false⟩) ::
          rest.filterMap (SortSlot.inputField? sortable))).findSome?
        (ownAttributeError? typeName) with
      | some e => .error (.refused (.unfitAttribute e))
      | none => .ok (Ordered.merge fields ((attributeName name.label, ⟨name, ref, false⟩) ::
          rest.filterMap (SortSlot.inputField? sortable))) := by
    rw [attachField_eq, Ordered.keys, List.map_cons, List.findSome?_cons]
    cases ownAttributeError? typeName (attributeName name.label) with
    | some e => rfl
    | none => exact ih _
  induction slots with
  | nil => exact fun fields => rfl
  | cons first rest ih =>
    obtain ⟨name, slot⟩ := first
    intro fields
    cases slot with
    | leaf kind => exact attach name .direction rest ih fields
    | ref target =>
      rw [attachSortSlots]
      by_cases counted : sortable.contains target = true
      · obtain ⟨type, found⟩ := require_of_has (targets target counted)
        have kept : SortSlot.inputField? sortable (name, .ref target) =
            some (attributeName name.label, ⟨name, .sort target, false⟩) := by
          rw [SortSlot.inputField?, SortSlot.inputRef?, if_pos counted, Option.map_some]
        rw [if_pos counted, found, List.filterMap_cons_some kept]
        exact attach name (.sort target) rest ih fields
      · have left : SortSlot.inputField? sortable (name, .ref target) = none := by
          rw [SortSlot.inputField?, SortSlot.inputRef?, if_neg counted, Option.map_none]
        rw [if_neg counted, List.filterMap_cons_none left]
        exact ih fields

/-- Attaching the fields of a filter one by one is attaching them together. -/
theorem attachFilterSlots_eq {entity : Value} (slots : List (Value × FilterSlot))
    (targets : ∀ key target, (key, FilterSlot.ref target) ∈ slots →
      Ordered.has target filters = true) :
    ∀ fields, attachFilterSlots filters (whereInputName entity.label) fields slots =
      (attachFilterFields entity fields slots).outcome.value.mapError .refused := by
  induction slots with
  | nil => exact fun fields => rfl
  | cons first rest ih =>
    obtain ⟨name, slot⟩ := first
    intro fields
    have later := ih fun key target there => targets key target (List.mem_cons_of_mem _ there)
    rw [attachFilterSlots, attachFilterFields]
    dsimp only
    by_cases clash : Ordered.has (attributeName name.label) fields = true
    · rw [if_pos clash, if_pos clash, Checked.value_outcome_bind]
      exact later fields
    · -- what the slot refers to is there, so it is the attribute alone that may be refused
      have found : requireTarget filters slot = .ok () := by
        cases slot with
        | operators kind => rfl
        | ref target =>
          obtain ⟨type, found⟩ := require_of_has (targets name target List.mem_cons_self)
          rw [requireTarget, found]
          rfl
      have new : Ordered.has (attributeName name.label) fields = false := by simpa using clash
      rw [if_neg clash, if_neg clash, found, Checked.value_outcome_bind, attachField_eq,
        InputField.attach_eq]
      cases ownAttributeError? (whereInputName entity.label) (attributeName name.label) with
      | some e => rfl
      | none =>
        rw [Ordered.insert_of_not_has new]
        exact later _

/-! ## Attaching the fields of all types -/

/-- The types of some entities without fields. -/
def plainTypes (sortable names : List Value) : InputTypes where
  sorts := (names.filter fun name => isListed name sortable).map fun name =>
    (name, ⟨sortInputName name.label, []⟩)
  filters := names.map fun name => (name, ⟨whereInputName name.label, []⟩)

theorem sorts_plainTypes_cons (sortable : List Value) (name : Value) (names : List Value) :
    (plainTypes sortable (name :: names)).sorts =
      if isListed name sortable then
        (name, ⟨sortInputName name.label, []⟩) :: (plainTypes sortable names).sorts
      else (plainTypes sortable names).sorts := by
  rw [plainTypes, plainTypes, List.filter_cons]
  split <;> rfl

/-- Types in front of others. -/
def append (first second : InputTypes) : InputTypes :=
  ⟨first.sorts ++ second.sorts, first.filters ++ second.filters⟩

/-- Where the type without fields stands under a name, and what is taken can be looked up,
attaching the fields of a sort order puts the type with them in its place. -/
theorem populateSort_eq {name : Value} {spec : SortSpec}
    (found : Ordered.find? name sorts = some ⟨sortInputName name.label, []⟩)
    (targets : ∀ target, sortable.contains target = true → Ordered.has target sorts = true) :
    populateSort sortable ⟨sorts, filters⟩ name spec =
      (InputType.attached ⟨sortInputName name.label, spec.inputFields sortable⟩).mapError .refused
        >>= fun type => pure ⟨Ordered.insert name type sorts, filters⟩ := by
  have first : (Ordered.keys (spec.inputFields sortable)).findSome?
      (ownAttributeError? (sortInputName name.label)) =
      (Ordered.keys (spec.slots.filterMap (SortSlot.inputField? sortable))).findSome?
        (ownAttributeError? (sortInputName name.label)) :=
    Ordered.findSome?_keys_merge _ _ []
  rw [populateSort, require, found, InputType.attached_eq, first]
  dsimp only [bind, Except.bind]
  rw [attachSortSlots_eq targets]
  cases (Ordered.keys (spec.slots.filterMap (SortSlot.inputField? sortable))).findSome?
    (ownAttributeError? (sortInputName name.label)) <;> rfl

theorem populateFilter_eq {name : Value} {spec : FilterSpec}
    (found : Ordered.find? name filters = some ⟨whereInputName name.label, []⟩)
    (targets : ∀ key target, (key, FilterSlot.ref target) ∈ spec.slots →
      Ordered.has target filters = true) :
    populateFilter ⟨sorts, filters⟩ name spec =
      (spec.inputType name).outcome.value.mapError .refused >>= fun type =>
        pure ⟨sorts, Ordered.insert name type filters⟩ := by
  rw [populateFilter, require, found, FilterSpec.inputType, Checked.value_outcome_map]
  dsimp only [bind, Except.bind]
  rw [attachFilterSlots_eq spec.slots targets]
  cases (attachFilterFields name (spec.combinatorFields name) spec.slots).outcome.value <;> rfl

/-- The tables are ready for attaching the fields of the types of some entities: their types are
there, and so are all types that fields can take. -/
structure Ready (sortable : List Value) (types : InputTypes)
    (rest : List (Value × Registry.Entry)) : Prop where
  sorts : Ordered.Distinct types.sorts
  filters : Ordered.Distinct types.filters
  found : ∀ entry ∈ rest, (entry.1 == entry.1) = true
  listed : ∀ entry ∈ rest,
    isListed entry.1 sortable = (entry.2.sort.inputType? sortable entry.1).isSome
  sortTargets : ∀ target, sortable.contains target = true →
    Ordered.has target types.sorts = true
  filterTargets : ∀ entry ∈ rest, ∀ key target,
    (key, FilterSlot.ref target) ∈ entry.2.filter.slots → Ordered.has target types.filters = true

/-- Attaching fields keeps the names of the types, and tables with the same names are as ready. -/
theorem Ready.next {types types' : InputTypes} {entry : Value × Registry.Entry}
    {rest : List (Value × Registry.Entry)} (ready : Ready sortable types (entry :: rest))
    (sorts : Ordered.keys types'.sorts = Ordered.keys types.sorts)
    (filters : Ordered.keys types'.filters = Ordered.keys types.filters) :
    Ready sortable types' rest where
  sorts := by
    rw [Ordered.Distinct, sorts]
    exact ready.sorts
  filters := by
    rw [Ordered.Distinct, filters]
    exact ready.filters
  found := (List.forall_mem_cons.1 ready.found).2
  listed := (List.forall_mem_cons.1 ready.listed).2
  sortTargets target counted := by
    rw [Ordered.has_iff_any, sorts, ← Ordered.has_iff_any]
    exact ready.sortTargets target counted
  filterTargets other there key target ref := by
    rw [Ordered.has_iff_any, filters, ← Ordered.has_iff_any]
    exact ready.filterTargets other (List.mem_cons_of_mem _ there) key target ref

theorem value_entityTypes (sortable : List Value) (name : Value) (entry : Registry.Entry) :
    (Registry.entityTypes sortable name entry).outcome.value =
      (entry.sort.inputType? sortable name).mapM InputType.attached >>= fun sort =>
        (entry.filter.inputType name).outcome.value >>= fun filter => pure (sort, filter) := by
  simp only [Registry.entityTypes, Checked.value_outcome_bind, Checked.outcome_ofExcept,
    Checked.outcome_pure]
  rfl

/-- Attaching the fields of the types of the first entity that is left puts the finished types in
the place of those without fields. -/
theorem populate_eq {done : InputTypes} {name : Value} {entry : Registry.Entry}
    {rest : List (Value × Registry.Entry)} {names : List Value}
    (ready : Ready sortable (done.append (plainTypes sortable (name :: names)))
      ((name, entry) :: rest)) :
    populate sortable (done.append (plainTypes sortable (name :: names))) (name, entry) =
      (Registry.entityTypes sortable name entry).outcome.value.mapError .refused >>=
        fun types => pure ((done.append ⟨(types.1.map fun type => (name, type)).toList,
          [(name, types.2)]⟩).append (plainTypes sortable names)) := by
  have key : (name == name) = true := ready.found _ List.mem_cons_self
  have listed : isListed name sortable = (entry.sort.inputType? sortable name).isSome :=
    ready.listed _ List.mem_cons_self
  -- the type for the filters is attached in the same way whatever the other table is
  have filter (sorts : Ordered Value InputType) :
      populateFilter ⟨sorts, done.filters ++ (plainTypes sortable (name :: names)).filters⟩ name
          entry.filter =
        (entry.filter.inputType name).outcome.value.mapError .refused >>= fun type =>
          pure ⟨sorts, done.filters ++ (name, type) :: (plainTypes sortable names).filters⟩ := by
    have apart := Ordered.Distinct.apart_middle ready.filters
    have targets := ready.filterTargets _ List.mem_cons_self
    refine (populateFilter_eq (Ordered.find?_middle apart key _) targets).trans ?_
    refine congrArg _ (funext fun type => congrArg pure ?_)
    exact congrArg (InputTypes.mk sorts) (Ordered.insert_middle apart key type)
  have wanted : entry.sort.inputType? sortable name = none ∨ entry.sort.inputType? sortable name =
      some ⟨sortInputName name.label, entry.sort.inputFields sortable⟩ := by
    rw [SortSpec.inputType?]
    split
    · exact Or.inl rfl
    · exact Or.inr rfl
  rw [populate, value_entityTypes]
  dsimp only
  rw [listed]
  rcases wanted with none | some
  · -- no type for sort orders was entered, and none is attached
    have start : done.append (plainTypes sortable (name :: names)) =
        ⟨done.sorts ++ (plainTypes sortable names).sorts,
          done.filters ++ (plainTypes sortable (name :: names)).filters⟩ := by
      rw [append, sorts_plainTypes_cons, listed, none]
      rfl
    rw [none, start]
    refine (filter _).trans ?_
    cases (entry.filter.inputType name).outcome.value with
    | error e => rfl
    | ok type =>
      simp [append, Option.mapM_none, bind, Except.bind, Except.mapError, pure, Except.pure]
  · -- the type without fields stands right behind the finished ones
    have start : (plainTypes sortable (name :: names)).sorts =
        (name, ⟨sortInputName name.label, []⟩) :: (plainTypes sortable names).sorts := by
      rw [sorts_plainTypes_cons, listed, some]
      rfl
    have sorts := ready.sorts
    have targets := ready.sortTargets
    rw [append, start] at sorts targets
    have apart := Ordered.Distinct.apart_middle sorts
    rw [some, Option.isSome_some, if_pos rfl, append, start,
      populateSort_eq (Ordered.find?_middle apart key _) targets]
    cases attached : InputType.attached
        ⟨sortInputName name.label, entry.sort.inputFields sortable⟩ with
    | error e =>
      rw [Option.mapM_some, attached]
      rfl
    | ok type =>
      rw [Option.mapM_some, attached]
      dsimp only [Except.mapError, bind, Except.bind, pure, Except.pure, Functor.map, Except.map]
      rw [Ordered.insert_middle apart key type]
      have filters := filter (done.sorts ++ (name, type) :: (plainTypes sortable names).sorts)
      refine filters.trans ?_
      cases (entry.filter.inputType name).outcome.value with
      | error e => rfl
      | ok type' => simp [append, bind, Except.bind, Except.mapError, pure, Except.pure]

theorem append_assoc (first second third : InputTypes) :
    (first.append second).append third = first.append (second.append third) := by
  simp only [append, List.append_assoc]

/-- Attaching fields in place, with the finished types in front of those without fields, is
generating the types that are left. -/
theorem populateAll_eq (rest : List (Value × Registry.Entry)) :
    ∀ done : InputTypes,
      Ready sortable (done.append (plainTypes sortable (Ordered.keys rest))) rest →
      rest.foldlM (populate sortable) (done.append (plainTypes sortable (Ordered.keys rest))) =
        (Registry.typesOf sortable rest).outcome.value.mapError .refused >>= fun types =>
          pure (done.append types) := by
  induction rest with
  | nil => exact fun _ _ => rfl
  | cons entry rest ih =>
    intro done ready
    obtain ⟨name, entry⟩ := entry
    -- the types of the first entity are finished in place, and count among those done from then on
    have keys : Ordered.keys ((name, entry) :: rest) = name :: Ordered.keys rest := rfl
    rw [keys] at ready ⊢
    have value : (Registry.typesOf sortable ((name, entry) :: rest)).outcome.value =
        (Registry.entityTypes sortable name entry).outcome.value >>= fun types =>
          (Registry.typesOf sortable rest).outcome.value >>= fun others =>
            pure (append ⟨(types.1.map fun type => (name, type)).toList, [(name, types.2)]⟩
              others) := by
      simp only [Registry.typesOf, Checked.value_outcome_bind]
      rfl
    rw [List.foldlM_cons, populate_eq ready, value]
    cases made : (Registry.entityTypes sortable name entry).outcome.value with
    | error e => rfl
    | ok types =>
      have next : Ready sortable ((done.append ⟨(types.1.map fun type => (name, type)).toList,
          [(name, types.2)]⟩).append (plainTypes sortable (Ordered.keys rest))) rest := by
        have listed : isListed name sortable = types.1.isSome := by
          rw [Registry.entityTypes_eq_ok made]
          exact ready.listed _ List.mem_cons_self
        refine ready.next ?_ ?_
        · simp only [append, sorts_plainTypes_cons, listed, Ordered.keys]
          cases types.1 <;> simp
        · simp [append, plainTypes, Ordered.keys]
      refine (ih _ next).trans ?_
      cases (Registry.typesOf sortable rest).outcome.value with
      | error e => rfl
      | ok others => exact congrArg Except.ok (append_assoc _ _ _)

/-! ## Entering types -/

theorem plainType_eq (label suffix : String) (clean : suffix.toList.contains '\x00' = false) :
    plainType (label ++ suffix) =
      if label.toList.contains '\x00' then .error (.refused .typeName)
      else .ok ⟨label ++ suffix, []⟩ := by
  have chars : (label ++ suffix).toList.contains '\x00' = label.toList.contains '\x00' := by
    rw [String.toList_append, List.contains_append, clean, Bool.or_false]
  rw [plainType, chars]

/-- Entering types fails where a name would have a null character in it. -/
theorem enterAll_eq (sortable names : List Value) : ∀ types : InputTypes,
    names.foldlM (enter sortable) types =
      if names.all fun name => !name.label.toList.contains '\x00' then
        .ok ⟨Ordered.merge types.sorts (plainTypes sortable names).sorts,
          Ordered.merge types.filters (plainTypes sortable names).filters⟩
      else .error (.refused .typeName) := by
  induction names with
  | nil => exact fun types => rfl
  | cons name rest ih =>
    intro types
    -- both names of types have the same label, so it does not matter which is refused first
    rw [List.foldlM_cons, enter, sortInputName, whereInputName,
      plainType_eq name.label "SortOrder" rfl, plainType_eq name.label "WhereInput" rfl,
      List.all_cons, sorts_plainTypes_cons]
    cases name.label.toList.contains '\x00' with
    | true => cases isListed name sortable <;> rfl
    | false => cases isListed name sortable <;> exact ih _

end InputTypes

/-! ## Building is generating -/

namespace Registry

variable {config : Config} {past : List (Value × List Field)} {r : Registry}

/-- Sets that count the same names choose the same types. -/
theorem typesOf_congr {known more : List Value}
    (same : ∀ target, known.contains target = more.contains target)
    (entries : List (Value × Entry)) : typesOf known entries = typesOf more entries := by
  have field : SortSlot.inputField? known = SortSlot.inputField? more := by
    funext slot
    rw [SortSlot.inputField?, SortSlot.inputField?]
    cases slot.2 with
    | leaf kind => rfl
    | ref target => rw [SortSlot.inputRef?, SortSlot.inputRef?, same]
  have fields (spec : SortSpec) : spec.inputFields known = spec.inputFields more := by
    rw [SortSpec.inputFields, SortSpec.inputFields, field]
  induction entries with
  | nil => rfl
  | cons entry rest ih =>
    simp only [typesOf, entityTypes, SortSpec.inputType?, fields, ih]

/-- Whatever its notices, generating chooses the types and checks them. -/
theorem value_inputTypes (finalized : r.finalized = true) : r.inputTypes.outcome.value =
    if r.typeNamesValid then
      (typesOf r.sortableEntities r.entries).outcome.value >>= fun types =>
        checkTypes types >>= fun _ => pure types
    else .error .typeName := by
  rw [inputTypes, finalized]
  cases r.typeNamesValid with
  | false => rfl
  | true =>
    simp only [Bool.not_true, Bool.false_eq_true, if_false, if_true, Checked.value_outcome_bind]
    rfl

/-- Where each name is found, the known names are those of the entities with a field. -/
theorem Supported.isListed_eq {known : List Value} (supported : r.Supported known)
    (saturated : r.Saturated known) (final : Finalized config past r) {name : Value}
    {entry : Entry} (there : (name, entry) ∈ r.entries) (key : (name == name) = true) :
    isListed name known = (entry.sort.inputType? known name).isSome := by
  rw [SortSpec.isSome_inputType?, Bool.eq_iff_iff, isListed_iff]
  refine ⟨fun counted => ?_, saturated _ there⟩
  obtain ⟨entry', there', sorted⟩ := supported name counted
  have found := Ordered.find?_of_mem final.distinct there key
  obtain rfl := final.eq_of_beq there' found key
  exact (supported.hasInput_iff saturated final there').2 sorted

/-- When all types of a finalized registry are entered, fields can be attached. -/
theorem Finalized.ready (final : Finalized config past r)
    (found : ∀ name ∈ r.names, (name == name) = true) {known : List Value}
    (supported : r.Supported known) (saturated : r.Saturated known) :
    InputTypes.Ready known (InputTypes.plainTypes known r.names) r.entries := by
  have distinct : r.names.Pairwise fun a b => (a == b) = false := final.distinct
  have sortNames : Ordered.keys (InputTypes.plainTypes known r.names).sorts =
      r.names.filter fun name => isListed name known := by
    simp [InputTypes.plainTypes, Ordered.keys, Function.comp_def]
  have filterNames : Ordered.keys (InputTypes.plainTypes known r.names).filters = r.names := by
    simp [InputTypes.plainTypes, Ordered.keys, Function.comp_def]
  constructor
  · rw [Ordered.Distinct, sortNames]
    exact distinct.filter _
  · rw [Ordered.Distinct, filterNames]
    exact distinct
  · exact fun entry there => found entry.1 (List.mem_map_of_mem there)
  · exact fun entry there => supported.isListed_eq saturated final there
      (found entry.1 (List.mem_map_of_mem there))
  · -- a name that counts as known stands in the table under the same key
    intro target counted
    obtain ⟨name, listed, same⟩ := List.contains_iff_exists_mem_beq.1 counted
    obtain ⟨entry, there, -⟩ := supported name listed
    rw [Ordered.has_iff_any, sortNames, List.any_eq_true]
    refine ⟨name, List.mem_filter.2 ⟨List.mem_map_of_mem there, isListed_iff.2 listed⟩, ?_⟩
    exact BEq.symm same
  · -- what a relation leads to is registered, and all that is registered is in the table
    rintro ⟨name, entry⟩ there key target ref
    rw [final.filter_slots there] at ref
    obtain ⟨f, chosen, slot⟩ := List.mem_map.1 ref
    have leads := FilterSlot.target?_of_ofField (Prod.mk.inj slot).2
    obtain ⟨-, next, registered⟩ := final.exists_target there (List.mem_filter.1 chosen).1 leads
    have known : Ordered.has target r.entries = true := by
      rw [Ordered.has, registered, Option.isSome_some]
    rwa [Ordered.has_iff_any, filterNames, names, ← Ordered.has_iff_any]

/-- After finalizing, nothing that is looked up while types are built is missing. What building in
place comes to is what generating comes to. -/
theorem Finalized.buildInPlace_eq (final : Finalized config past r)
    (found : ∀ name ∈ r.names, (name == name) = true) :
    r.buildInPlace = r.inputTypes.outcome.value.mapError .refused := by
  have supported : r.Supported (r.saturate []) := Supported.saturate final (List.forall_mem_nil _)
  have saturated := r.saturated_saturate []
  have ready := final.ready found supported saturated
  -- the names that are known when the passes end are those that are known after all rounds
  have same (target : Value) :
      (r.saturate []).contains target = r.sortableEntities.contains target := by
    rw [Bool.eq_iff_iff, supported.contains_iff saturated final,
      (supported_sortableEntities final).contains_iff r.saturated_sortableEntities final]
  have sorts := Ordered.ofEntries_of_distinct ready.sorts
  have filters := Ordered.ofEntries_of_distinct ready.filters
  have entered : r.names.foldlM (InputTypes.enter (r.saturate [])) ⟨[], []⟩ =
      if r.typeNamesValid then .ok (InputTypes.plainTypes (r.saturate []) r.names)
      else .error (.refused .typeName) := by
    rw [InputTypes.enterAll_eq, ← typeNamesValid]
    exact congrArg (fun types => if r.typeNamesValid then Except.ok types else _)
      (congr (congrArg InputTypes.mk sorts) filters)
  have populated : r.entries.foldlM (InputTypes.populate (r.saturate []))
      (InputTypes.plainTypes (r.saturate []) r.names) =
      (typesOf (r.saturate []) r.entries).outcome.value.mapError .refused >>= pure :=
    InputTypes.populateAll_eq r.entries ⟨[], []⟩ ready
  rw [buildInPlace, final.finalized_eq, value_inputTypes final.finalized_eq, Bool.not_true,
    if_neg Bool.false_ne_true]
  dsimp only
  rw [entered]
  cases r.typeNamesValid with
  | false => rfl
  | true =>
    rw [if_pos rfl, if_pos rfl]
    dsimp only [bind, Except.bind]
    rw [populated, typesOf_congr same]
    cases (typesOf r.sortableEntities r.entries).outcome.value with
    | error e => rfl
    | ok types =>
      change (checkTypes types).mapError Fault.refused >>= (fun _ => Except.ok types) =
        (checkTypes types >>= fun _ => Except.ok types).mapError Fault.refused
      cases checkTypes types <;> rfl

end Registry

end ListQuery
