import ListQuery.Proofs.Input.Closed

/-!
# What becomes of slots in input types

A type for filters is to have a field for every slot of the specification, and one for sort orders
a field for every slot that is a scalar or leads to an entity with such a type. Names of slots may
give the same attribute, though, and a type has one field for each.

In a filter the first slot keeps the attribute, and a notice names each slot that is left out: a
slot has a field, or it is named. In a sort order the last slot takes the attribute over, and those
before it are left out. Nothing is said of them, since generating reports no more than the slots of
filters and that it is done.

## Main definitions

* `skippedNames` are the names of the slots whose attributes are not free.
* `InputTypes.SortRef` says which slots of a sort specification are to have a field.
* `InputTypes.LastSortField` is the field of the last slot that gives an attribute.

## Main results

* `Registry.notices_inputTypes`: what is reported while the input types are generated.
* `mem_freeFields_or_skipped`: a slot of a filter has a field, or it is skipped.
* `SortSpec.mem_inputFields_iff`: a field of a sort order is that of the last slot for its
  attribute.
* `Registry.slots_accounted` puts them together.
* `Registry.sortSlot_lost`: a slot of a sort order can be left out without a notice.
-/

namespace ListQuery

/-! ## Slots of filters -/

/-- The names of the slots whose attributes are not free: they are taken before or by an earlier
slot. -/
def skippedNames (taken : List String) : List (Value × FilterSlot) → List Value
  | [] => []
  | (name, _) :: rest =>
    let attr := attributeName name.label
    if taken.contains attr then name :: skippedNames taken rest
    else skippedNames (taken ++ [attr]) rest

/-- The names of the slots of a filter without a field. -/
def FilterSpec.skipped (spec : FilterSpec) : List Value :=
  skippedNames (spec.combinators.map Combinator.word) spec.slots

/-- A slot has a field under its attribute, or it is skipped. -/
theorem mem_freeFields_or_skipped {name : Value} {slot : FilterSlot}
    {slots : List (Value × FilterSlot)} (there : (name, slot) ∈ slots) (taken : List String) :
    (attributeName name.label, ⟨name, slot.inputRef, false⟩) ∈ freeFields taken slots ∨
      name ∈ skippedNames taken slots := by
  induction slots generalizing taken with
  | nil => cases there
  | cons first rest ih =>
    obtain ⟨other, slot'⟩ := first
    rw [freeFields, skippedNames]
    rcases List.mem_cons.1 there with here | later
    · obtain ⟨rfl, rfl⟩ := Prod.mk.inj here
      split
      · exact Or.inr List.mem_cons_self
      · exact Or.inl List.mem_cons_self
    · split
      · exact (ih later taken).imp_right (List.mem_cons_of_mem _)
      · exact (ih later _).imp_left (List.mem_cons_of_mem _)

theorem FilterSpec.mem_inputFields_or_skipped {spec : FilterSpec} {name : Value}
    {slot : FilterSlot} (there : (name, slot) ∈ spec.slots) (entity : Value) :
    (attributeName name.label, ⟨name, slot.inputRef, false⟩) ∈ spec.inputFields entity ∨
      name ∈ spec.skipped := by
  have either := mem_freeFields_or_skipped there (spec.combinators.map Combinator.word)
  rw [← keys_combinatorFields entity] at either
  refine either.imp (List.mem_append_right _) fun skipped => ?_
  rwa [keys_combinatorFields] at skipped

/-! ## What is reported -/

/-- Attaching fields for slots reports those that are skipped, in their order. -/
theorem notices_attachFilterFields {entity : Value} (slots : List (Value × FilterSlot)) :
    ∀ {fields all : Ordered String InputField},
      (attachFilterFields entity fields slots).outcome.value = .ok all →
        (attachFilterFields entity fields slots).outcome.notices =
          (skippedNames (Ordered.keys fields) slots).map fun name =>
            .fieldSkipped entity.label name.label := by
  induction slots with
  | nil => exact fun _ => rfl
  | cons first rest ih =>
    intro fields all done
    obtain ⟨name, slot⟩ := first
    have taken : Ordered.has (attributeName name.label) fields =
        (Ordered.keys fields).contains (attributeName name.label) := by
      rw [Ordered.has_iff_any, Bool.eq_iff_iff]
      simp
    rw [attachFilterFields, taken] at done ⊢
    rw [skippedNames]
    dsimp only at done ⊢
    split at done
    · next clash =>
      obtain ⟨_, given, later⟩ := Checked.value_bind_eq_ok_iff.1 done
      rw [if_pos clash, if_pos clash, Checked.notices_bind_of_ok given, ih later]
      rfl
    · next free =>
      obtain ⟨entry, attached, later⟩ := Checked.value_bind_eq_ok_iff.1 done
      obtain rfl := InputField.attach_eq_ok attached
      have keys : Ordered.keys (fields ++ [(attributeName name.label,
          (⟨name, slot.inputRef, false⟩ : InputField))]) =
          Ordered.keys fields ++ [attributeName name.label] := by
        simp [Ordered.keys]
      rw [if_neg free, if_neg free, Checked.notices_bind_of_ok attached, ih later, keys]
      rfl

theorem FilterSpec.notices_inputType {name : Value} {spec : FilterSpec} {type : InputType}
    (done : (spec.inputType name).outcome.value = .ok type) :
    (spec.inputType name).outcome.notices =
      spec.skipped.map fun slot => .fieldSkipped name.label slot.label := by
  obtain ⟨fields, attached, -⟩ := Checked.value_map_eq_ok_iff.1 done
  rw [inputType, Checked.notices_outcome_map, notices_attachFilterFields _ attached,
    keys_combinatorFields, skipped]

namespace Registry

/-- What is reported of the types of some entities: the slots that their filters skip. -/
def skipNotices (entries : List (Value × Entry)) : List Notice :=
  entries.flatMap fun entry =>
    entry.2.filter.skipped.map fun slot => .fieldSkipped entry.1.label slot.label

theorem notices_entityTypes {sortable : List Value} {name : Value} {entry : Entry}
    {types : Option InputType × InputType}
    (done : (entityTypes sortable name entry).outcome.value = .ok types) :
    (entityTypes sortable name entry).outcome.notices =
      entry.filter.skipped.map fun slot => .fieldSkipped name.label slot.label := by
  rw [entityTypes] at done ⊢
  obtain ⟨sort, attached, later⟩ := Checked.value_bind_eq_ok_iff.1 done
  obtain ⟨filter, chosen, -⟩ := Checked.value_bind_eq_ok_iff.1 later
  rw [Checked.notices_bind_of_ok attached, Checked.notices_bind_of_ok chosen,
    FilterSpec.notices_inputType chosen]
  exact List.append_nil _

theorem notices_typesOf {sortable : List Value} (entries : List (Value × Entry)) :
    ∀ {types : InputTypes}, (typesOf sortable entries).outcome.value = .ok types →
      (typesOf sortable entries).outcome.notices = skipNotices entries := by
  induction entries with
  | nil => exact fun _ => rfl
  | cons entry rest ih =>
    intro types done
    rw [typesOf] at done ⊢
    obtain ⟨first, chosen, later⟩ := Checked.value_bind_eq_ok_iff.1 done
    obtain ⟨others, more, -⟩ := Checked.value_bind_eq_ok_iff.1 later
    rw [Checked.notices_bind_of_ok chosen, Checked.notices_bind_of_ok more,
      notices_entityTypes chosen, ih more]
    exact congrArg _ (List.append_nil _)

/-- Generating the input types reports the slots that the filters skip, and that it is done. -/
theorem notices_inputTypes {r : Registry} {types : InputTypes}
    (built : r.inputTypes.outcome.value = .ok types) : r.inputTypes.outcome.notices =
      skipNotices r.entries ++ [.inputsBuilt r.entries.length] := by
  rw [inputTypes] at built ⊢
  split at built
  · cases built
  · next finalized =>
    rw [if_neg finalized]
    split at built
    · cases built
    · next valid =>
      obtain ⟨chosen, made, later⟩ := Checked.value_bind_eq_ok_iff.1 built
      obtain ⟨_, checked, -⟩ := Checked.value_bind_eq_ok_iff.1 later
      rw [if_neg valid, Checked.notices_bind_of_ok made, Checked.notices_bind_of_ok checked,
        notices_typesOf _ made]
      rfl

end Registry

/-! ## Slots of sort orders -/

/-- What is written under a key and not written over is in the map. -/
theorem Ordered.mem_ofEntries_iff {κ α : Type} [DecidableEq κ] {key : κ} {value : α}
    {entries : List (κ × α)} : (key, value) ∈ ofEntries entries ↔
      ∃ before after, entries = before ++ (key, value) :: after ∧
        ∀ entry ∈ after, entry.1 ≠ key := by
  have found : (key, value) ∈ ofEntries entries ↔ find? key entries.reverse = some value := by
    rw [← find?_ofEntries]
    refine ⟨fun there => find?_of_mem (distinct_ofEntries entries) there (beq_self_eq_true key),
      fun found => ?_⟩
    rw [find?_eq, Option.map_eq_some_iff] at found
    obtain ⟨⟨other, _⟩, first, rfl⟩ := found
    have same : other = key := by simpa using List.find?_some first
    exact same ▸ List.mem_of_find?_eq_some first
  rw [found, find?_eq, Option.map_eq_some_iff]
  constructor
  · rintro ⟨⟨other, _⟩, first, rfl⟩
    obtain ⟨same, later, earlier, split, apart⟩ := List.find?_eq_some_iff_append.1 first
    obtain rfl : other = key := by simpa using same
    refine ⟨earlier.reverse, later.reverse, ?_, fun entry there => ?_⟩
    · rw [← List.reverse_reverse entries, split]
      simp
    · simpa using apart entry (List.mem_reverse.1 there)
  · rintro ⟨before, after, rfl, apart⟩
    refine ⟨(key, value), List.find?_eq_some_iff_append.2
      ⟨beq_self_eq_true key, after.reverse, before.reverse, by simp, fun entry there => ?_⟩, rfl⟩
    simpa using apart entry (List.mem_reverse.1 there)

namespace InputTypes

/-- What the field for a slot of a sort specification takes, if there is to be one: a direction
for a scalar, and a sort order for a relation to an entity that has a type for sort orders. -/
inductive SortRef (types : InputTypes) : SortSlot → InputRef → Prop
  | direction (kind : FieldKind) : SortRef types (.leaf kind) .direction
  | nested {target : Value} {type : InputType} (known : types.sort target = .ok type) :
      SortRef types (.ref target) (.sort target)

/-- A field for a slot, where none of the slots behind it that are to have a field gives the same
attribute. -/
inductive LastSortField (types : InputTypes) (slots : List (Value × SortSlot)) :
    String × InputField → Prop
  | last {before after : List (Value × SortSlot)} {name : Value} {slot : SortSlot}
      {ref : InputRef} (split : slots = before ++ (name, slot) :: after)
      (takes : types.SortRef slot ref)
      (none : ∀ other ∈ after, ∀ ref, types.SortRef other.2 ref →
        attributeName other.1.label ≠ attributeName name.label) :
      LastSortField types slots (attributeName name.label, ⟨name, ref, false⟩)

end InputTypes

/-- A field of a type for sort orders is that of the last slot for its attribute. -/
theorem SortSpec.mem_inputFields_iff {types : InputTypes} {sortable : List Value}
    {spec : SortSpec}
    (refs : ∀ slot ∈ spec.slots, ∀ ref,
      slot.2.inputRef? sortable = some ref ↔ types.SortRef slot.2 ref)
    {field : String × InputField} :
    field ∈ spec.inputFields sortable ↔ types.LastSortField spec.slots field := by
  obtain ⟨attr, f⟩ := field
  rw [inputFields, Ordered.mem_ofEntries_iff]
  constructor
  · rintro ⟨before, after, split, last⟩
    obtain ⟨earlier, rest, slots, rfl, behind⟩ := List.filterMap_eq_append_iff.1 split
    obtain ⟨dropped, ⟨name, slot⟩, later, rfl, -, field, rfl⟩ :=
      List.filterMap_eq_cons_iff.1 behind
    obtain ⟨ref, takes, both⟩ := Option.map_eq_some_iff.1 field
    obtain ⟨rfl, rfl⟩ := Prod.mk.inj both
    rw [← List.append_assoc] at slots
    have among (other : Value × SortSlot) (there : other ∈ later) : other ∈ spec.slots := by
      rw [slots]
      exact List.mem_append_right _ (List.mem_cons_of_mem _ there)
    refine .last slots ((refs _ ?_ ref).1 takes) fun other there ref' wanted => ?_
    · rw [slots]
      exact List.mem_append_right _ List.mem_cons_self
    · have has := (refs other (among other there) ref').2 wanted
      exact last (attributeName other.1.label, ⟨other.1, ref', false⟩)
        (List.mem_filterMap.2 ⟨other, there, by rw [SortSlot.inputField?, has]; rfl⟩)
  · intro field
    cases field with
    | @last before after name slot ref split takes none =>
      have among (other : Value × SortSlot) (there : other ∈ after) : other ∈ spec.slots := by
        rw [split]
        exact List.mem_append_right _ (List.mem_cons_of_mem _ there)
      have wanted : SortSlot.inputField? sortable (name, slot) =
          some (attributeName name.label, ⟨name, ref, false⟩) := by
        rw [SortSlot.inputField?, (refs (name, slot) ?_ ref).2 takes]
        · rfl
        · rw [split]
          exact List.mem_append_right _ List.mem_cons_self
      refine ⟨before.filterMap (SortSlot.inputField? sortable),
        after.filterMap (SortSlot.inputField? sortable), ?_, fun entry there => ?_⟩
      · rw [split, List.filterMap_append, List.filterMap_cons_some wanted]
      · obtain ⟨other, later, field⟩ := List.mem_filterMap.1 there
        obtain ⟨ref', takes', rfl⟩ := Option.map_eq_some_iff.1 field
        exact none other later ref' ((refs other (among other later) ref').1 takes')

namespace Registry

variable {config : Config} {past : List (Value × List Field)} {r : Registry} {name : Value}
  {entry : Entry}

/-- It is the slots of scalars and of relations to entities with a type for sort orders that have
a field. -/
theorem Finalized.inputRef?_eq_some_iff (final : Finalized config past r)
    (there : (name, entry) ∈ r.entries) {slot : Value × SortSlot} (has : slot ∈ entry.sort.slots)
    (ref : InputRef) : slot.2.inputRef? r.sortableEntities = some ref ↔
      (chosenTypes r.sortableEntities r.entries).SortRef slot.2 ref := by
  obtain ⟨fname, slot⟩ := slot
  cases slot with
  | leaf kind =>
    constructor
    · rintro ⟨⟩
      exact .direction kind
    · rintro ⟨⟩
      rfl
  | ref target =>
    have counted := final.contains_iff_sort there has
    rw [SortSlot.inputRef?]
    constructor
    · intro takes
      split at takes
      · next listed =>
        obtain rfl := Option.some.inj takes
        obtain ⟨type, known⟩ := counted.1 listed
        exact .nested known
      · cases takes
    · intro wanted
      cases wanted with
      | nested known => rw [if_pos (counted.2 ⟨_, known⟩)]

/-- Where the input types of a finalized registry are generated, every slot of the filters of an
entity has a field in their type, or a notice names it. And if a slot of its sort orders is a
scalar or leads to an entity with a type for them, there is such a type, and its fields are those
of the slots that come last of all that give their attribute. -/
theorem slots_accounted {ops : List Operation} {r : Registry}
    (done : ((empty config).run ops).finalize.outcome.value = .ok r) {types : InputTypes}
    (built : r.inputTypes.outcome.value = .ok types) {name : Value} {entry : Entry}
    (there : (name, entry) ∈ r.entries) :
    (∃ type, (name, type) ∈ types.filters ∧ ∀ slot ∈ entry.filter.slots,
      (attributeName slot.1.label, ⟨slot.1, slot.2.inputRef, false⟩) ∈ type.fields ∨
        .fieldSkipped name.label slot.1.label ∈ r.inputTypes.outcome.notices) ∧
    ((∃ slot ∈ entry.sort.slots, ∃ ref, types.SortRef slot.2 ref) →
      ∃ type, (name, type) ∈ types.sorts ∧
        ∀ field, field ∈ type.fields ↔ types.LastSortField entry.sort.slots field) := by
  have final := finalized_of_run done
  rw [notices_inputTypes built]
  obtain ⟨-, rfl⟩ := inputTypes_eq_ok built
  have refs (slot : Value × SortSlot) (has : slot ∈ entry.sort.slots) (ref : InputRef) :
      slot.2.inputRef? r.sortableEntities = some ref ↔
        (chosenTypes r.sortableEntities r.entries).SortRef slot.2 ref :=
    final.inputRef?_eq_some_iff there has ref
  refine ⟨⟨_, List.mem_map_of_mem there, fun slot has => ?filter⟩, ?sort⟩
  case filter =>
    refine (FilterSpec.mem_inputFields_or_skipped has name).imp_right fun skipped => ?_
    exact List.mem_append_left _ (List.mem_flatMap.2 ⟨_, there, List.mem_map_of_mem skipped⟩)
  case sort =>
    rintro ⟨slot, has, ref, takes⟩
    have wanted : (entry.sort.inputType? r.sortableEntities name).isSome = true := by
      rw [SortSpec.isSome_inputType?, List.any_eq_true]
      exact ⟨slot, has, by rw [(refs slot has ref).2 takes, Option.isSome_some]⟩
    obtain ⟨type, made⟩ := Option.isSome_iff_exists.1 wanted
    refine ⟨type, List.mem_filterMap.2 ⟨_, there, by rw [made, Option.map_some]⟩, fun field => ?_⟩
    rw [SortSpec.inputType?] at made
    split at made
    · cases made
    · obtain rfl := Option.some.inj made
      exact SortSpec.mem_inputFields_iff refs

/-- Tickets have two fields by which they are sorted, and filtered or not. The name of the first is
a reserved word, so that it gives the attribute that has the name of the second. -/
def ticketRun (filterable : Bool) : List Operation :=
  let text (name : String) : FieldItem := .field ⟨.text name, .scalar .string, true, filterable⟩
  [.enter (.listed (.text "Ticket") [text "class", text "class_"])]

/-- The first of two slots with one attribute has the field of the filter, and the second, which a
notice names, that of the sort order. -/
theorem slots_accounted_tickets : ∃ r types entry,
    ((empty .standard).run (ticketRun true)).finalize.outcome.value = .ok r ∧
      r.inputTypes.outcome = ⟨.ok types, [.fieldSkipped "Ticket" "class_", .inputsBuilt 1]⟩ ∧
      r.entries = [(.text "Ticket", entry)] ∧
      (∃ type, (.text "Ticket", type) ∈ types.filters ∧ ∀ slot ∈ entry.filter.slots,
        (attributeName slot.1.label, ⟨slot.1, slot.2.inputRef, false⟩) ∈ type.fields ∨
          .fieldSkipped "Ticket" slot.1.label ∈ r.inputTypes.outcome.notices) ∧
      ∃ type, (.text "Ticket", type) ∈ types.sorts ∧
        ∀ field, field ∈ type.fields ↔ types.LastSortField entry.sort.slots field := by
  obtain ⟨filter, sort⟩ := slots_accounted
    (show ((empty .standard).run (ticketRun true)).finalize.outcome.value = .ok _ from rfl)
    (show (inputTypes _).outcome.value = .ok _ from rfl) List.mem_cons_self
  exact ⟨_, _, _, rfl, rfl, rfl, filter, sort ⟨_, List.mem_cons_self, _, .direction _⟩⟩

/-- If tickets are only sorted by the two fields, the first slot has no field, and nothing is said
of it. -/
theorem sortSlot_lost : ∃ r types spec type notices,
    ((empty .standard).run (ticketRun false)).finalize.outcome.value = .ok r ∧
      r.inputTypes.outcome = ⟨.ok types, notices⟩ ∧
      r.sortSpec (.text "Ticket") = .ok spec ∧ types.sort (.text "Ticket") = .ok type ∧
      ¬ ∀ slot ∈ spec.slots, ∀ ref, types.SortRef slot.2 ref →
        (∃ field ∈ type.fields, field.2.name = slot.1) ∨
          ∃ entity, .fieldSkipped entity slot.1.label ∈ notices := by
  refine ⟨_, _, _, _, [.inputsBuilt 1], rfl, rfl, rfl, rfl, fun all => ?_⟩
  rcases all (.text "class", .leaf (.scalar .string)) List.mem_cons_self _ (.direction _) with
    ⟨field, there, named⟩ | ⟨entity, named⟩
  · rw [List.mem_singleton.1 there] at named
    exact absurd named (by decide)
  · cases List.mem_singleton.1 named

end Registry

end ListQuery
