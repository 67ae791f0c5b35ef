import ListQuery.Proofs.Input.TypedFilter
import ListQuery.Proofs.Sort.Grammar

/-!
# Typed sort orders

An input of a type for sort orders is a sort order that its specification accepts as it is. Its
fields are those of slots, a direction for a scalar and an input of the type of the target for a
relation, and what was left out or is nothing is dropped, at any depth. Relations to entities
that cannot be sorted have no field, so that nothing is nested in them either.

Specifications look entries up by their keys, so this takes fields whose names are found again:
all texts are.

## Main definitions

* `Registry.MeetsOrder` says what fields of types for sort orders hold.

## Main results

* `InputTypes.Takes.meetsOrder`, by induction over inputs: entries fit and are in normal form.
* `Registry.orderInput_normalizes`: typed sort orders after any run that ends in finalizing.
-/

namespace ListQuery

/-- What is left of the entries of a map without those that are nothing. -/
theorem Value.mem_nonNullEntries {entries : List (Value × Value)} {entry : Value × Value} :
    entry ∈ Value.nonNullEntries entries ↔ ∃ key value, (key, value) ∈ entries ∧
      value ≠ .null ∧ entry = (key, value.withoutNulls) := by
  induction entries with
  | nil => simp [Value.nonNullEntries]
  | cons first rest ih =>
    obtain ⟨key, value⟩ := first
    rw [Value.nonNullEntries]
    by_cases null : value = .null
    · rw [if_pos null, ih]
      constructor
      · rintro ⟨key', value', there, filled, same⟩
        exact ⟨key', value', List.mem_cons_of_mem _ there, filled, same⟩
      · rintro ⟨key', value', there, filled, same⟩
        rcases List.mem_cons.1 there with here | later
        · exact absurd ((Prod.mk.inj here).2.trans null) filled
        · exact ⟨key', value', later, filled, same⟩
    · rw [if_neg null, List.mem_cons, ih]
      constructor
      · rintro (rfl | ⟨key', value', there, filled, same⟩)
        · exact ⟨key, value, List.mem_cons_self, null, rfl⟩
        · exact ⟨key', value', List.mem_cons_of_mem _ there, filled, same⟩
      · rintro ⟨key', value', there, filled, same⟩
        rcases List.mem_cons.1 there with here | later
        · obtain ⟨rfl, rfl⟩ := Prod.mk.inj here
          exact Or.inl same
        · exact Or.inr ⟨key', value', later, filled, same⟩

/-- The word of a direction names it, and is written in capitals. -/
theorem SortDirection.isDirectionText_word (d : SortDirection) :
    IsDirectionText d.word ∧ capitals d.word = d.word := by
  cases d with
  | ascending => exact ⟨Or.inl rfl, rfl⟩
  | descending => exact ⟨Or.inr rfl, rfl⟩

namespace Registry

/-- What a field of a type for sort orders takes is a direction or a sort order that fits its
specification and is in normal form, once what is nothing is dropped. -/
def MeetsOrder (r : Registry) : InputRef → Value → Prop
  | .direction, value => ∃ d : SortDirection, value = .text d.word
  | .sort entity, value => ∃ entry entries, Ordered.find? entity r.entries = some entry ∧
      value.withoutNulls = .map entries ∧ ∀ field ∈ entries,
        SortSpec.Fits r.sortRef? entry.sort field.1 field.2 ∧ field.2 ≠ .null ∧
          field.2.normalOrder = field.2
  | _, _ => True

variable {config : Config} {past : List (Value × List Field)} {r : Registry} {name target : Value}
  {entry : Entry}

/-- A type for sort orders is that of an entity. -/
theorem Finalized.exists_of_find?_sorts (final : Finalized config past r) {sortable : List Value}
    {type : InputType}
    (found : Ordered.find? target (chosenTypes sortable r.entries).sorts = some type) :
    ∃ name entry, (name, entry) ∈ r.entries ∧ Ordered.find? target r.entries = some entry ∧
      type = ⟨sortInputName name.label, entry.sort.inputFields sortable⟩ := by
  rw [find?_sorts final.distinct, Option.bind_eq_some_iff] at found
  obtain ⟨⟨name, entry⟩, first, made⟩ := found
  rw [SortSpec.inputType?] at made
  split at made
  · cases made
  · refine ⟨name, entry, List.mem_of_find?_eq_some first, ?_, (Option.some.inj made).symm⟩
    rw [Ordered.find?_eq, first, Option.map_some]

theorem Finalized.distinct_sort (final : Finalized config past r)
    (there : (name, entry) ∈ r.entries) : Ordered.Distinct entry.sort.slots := by
  rw [(final.inStep there).sort]
  exact Ordered.distinct_ofEntries _

/-- A type for sort orders has fields under different attributes and of different names. -/
theorem Finalized.apart_of_sortType (final : Finalized config past r) {sortable : List Value}
    {type : InputType}
    (found : Ordered.find? target (chosenTypes sortable r.entries).sorts = some type) :
    Ordered.Distinct type.fields ∧ NamesApart type.fields := by
  obtain ⟨_, entry, there, -, rfl⟩ := final.exists_of_find?_sorts found
  exact ⟨entry.sort.distinct_inputFields sortable,
    SortSpec.namesApart_inputFields (final.distinct_sort there) sortable⟩

/-- The sortable fields of entities have names that are found again. -/
def SortNamesFound (r : Registry) : Prop :=
  ∀ entry ∈ r.entries, ∀ f ∈ entry.2.spec.fields, f.sortable = true → (f.name == f.name) = true

theorem Finalized.slot?_of_mem (final : Finalized config past r) (named : r.SortNamesFound)
    (there : (name, entry) ∈ r.entries) {key : Value} {slot : SortSlot}
    (has : (key, slot) ∈ entry.sort.slots) : entry.sort.slot? key = some slot := by
  have slots := has
  rw [final.sort_slots there] at slots
  obtain ⟨f, chosen, both⟩ := List.mem_map.1 slots
  obtain ⟨rfl, -⟩ := Prod.mk.inj both
  obtain ⟨among, sortable⟩ := List.mem_filter.1 chosen
  exact Ordered.find?_of_mem (final.distinct_sort there) has (named _ there f among sortable)

end Registry

namespace InputTypes

open Registry (Entry Finalized chosenTypes)

variable {config : Config} {past : List (Value × List Field)} {r : Registry}

/-- What is held for a field of a sort order and is not nothing fits under its name, and is in
normal form. -/
theorem fits_of_holds (final : Finalized config past r) (named : r.SortNamesFound) {name : Value}
    {entry : Entry} (there : (name, entry) ∈ r.entries) {attr : String} {f : InputField}
    {sortable : List Value} (among : (attr, f) ∈ entry.sort.inputFields sortable) {input : Input}
    (holds : f.Holds (fun ref input => r.MeetsOrder ref input.toValue) input)
    (filled : input.toValue ≠ .null) :
    SortSpec.Fits r.sortRef? entry.sort f.name input.toValue.withoutNulls ∧
      input.toValue.withoutNulls ≠ .null ∧
      input.toValue.withoutNulls.normalOrder = input.toValue.withoutNulls := by
  obtain ⟨-, single, slot, has, takes⟩ := SortSpec.mem_inputFields among
  have known := final.slot?_of_mem named there has
  cases holds with
  | unset => exact absurd (by simp [Input.unset, Input.toValue, Value.bare, Mark.bare]) filled
  | null => exact absurd (by simp [Input.toValue, Value.bare]) filled
  | @one name ref input meets =>
    cases slot with
    | leaf kind =>
      obtain rfl : InputRef.direction = ref := Option.some.inj takes
      obtain ⟨d, value⟩ := meets
      obtain ⟨names, same⟩ := d.isDirectionText_word
      rw [value]
      exact ⟨.direction known names, by simp [Value.withoutNulls], congrArg Value.text same⟩
    | ref target =>
      -- there is a field only if the target can be sorted, and then it takes its sort orders
      rw [SortSlot.inputRef?] at takes
      split at takes
      · obtain rfl : InputRef.sort target = ref := Option.some.inj takes
        obtain ⟨next, entries, found, value, each⟩ := meets
        have lookup : r.sortRef? target = some next.sort := by
          rw [Registry.sortRef?, found, Option.map_some]
        rw [value]
        refine ⟨.nested known lookup fun field set => (each field set).1, by simp, ?_⟩
        exact congrArg Value.map
          (SortSpec.normalEntries_of_normal fun field set => (each field set).2)
      · cases takes
  | many => cases single

/-- What a field of a sort order takes fits and is in normal form, at any depth. -/
theorem Takes.meetsOrder (final : Finalized config past r) (named : r.SortNamesFound)
    {ref : InputRef} {input : Input}
    (typed : (chosenTypes r.sortableEntities r.entries).Takes ref input) :
    r.MeetsOrder ref input.toValue := by
  refine Takes.induction ?direction ?operators ?sort ?filter typed
  case direction => exact fun d => ⟨d, by simp [Input.toValue, Value.bare, Mark.bare]⟩
  case operators => exact fun s held => trivial
  case filter => exact fun entity type held found each => trivial
  case sort =>
    intro entity type held found each
    obtain ⟨distinct, apart⟩ := final.apart_of_sortType found
    obtain ⟨name, entry, there, found', rfl⟩ := final.exists_of_find?_sorts found
    have value := InputType.toValue_record distinct apart held
    refine ⟨entry, _, found', by rw [value, Value.withoutNulls], fun field left => ?_⟩
    -- what is left after dropping was held for a field, and is not nothing
    obtain ⟨_, _, set, filled, rfl⟩ := Value.mem_nonNullEntries.1 left
    obtain ⟨attr, f, among, -, both⟩ := (InputType.mem_entries distinct).1 set
    obtain ⟨rfl, rfl⟩ := Prod.mk.inj both
    exact fits_of_holds final named there among (each (attr, f) among) filled

end InputTypes

namespace Registry

/-- After any run that ends in finalizing, every input of the type for the sort orders of an entity
is accepted by its sort specification, which returns it unchanged. -/
theorem orderInput_normalizes {config : Config} {ops : List Operation} {r : Registry}
    {types : InputTypes} {name : Value} {spec : SortSpec} {input : Input}
    (done : ((empty config).run ops).finalize.outcome.value = .ok r) (named : r.SortNamesFound)
    (built : r.inputTypes.outcome.value = .ok types) (known : r.sortSpec name = .ok spec)
    (typed : types.Takes (.sort name) input) :
    spec.normalize r.sortRef? input.toOrder = .ok input.toOrder := by
  have final := finalized_of_run done
  obtain ⟨-, rfl⟩ := inputTypes_eq_ok built
  obtain ⟨entry, entries, found, order, each⟩ := typed.meetsOrder final named
  have same : spec = entry.sort := by
    rw [sortSpec] at known
    cases looked : r.entry name with
    | error e => rw [looked] at known; cases known
    | ok entry' =>
      rw [looked] at known
      obtain rfl := Option.some.inj (found.symm.trans (find?_of_entry looked).2)
      exact (Except.ok.inj known).symm
  have conforms : spec.Conforms r.sortRef? input.toOrder := by
    rw [same]
    exact Or.inr ⟨entries, order, fun field set => (each field set).1⟩
  have normal : input.toOrder.normalOrder = input.toOrder := by
    rw [Input.toOrder, order]
    exact congrArg Value.map
      (SortSpec.normalEntries_of_normal fun field set => (each field set).2)
  rw [SortSpec.normalize_eq, SortSpec.faults_eq_nil_iff.2 conforms, SortSpec.outcomeOf, normal]

/-- What an input for the sort orders of customers holds: a direction, an order of the customers who
referred them that is by nothing, and an order of their orders by the customer, which is not
given, and by a field. -/
def customerOrder (customer order : InputType) (attr : String) : Input :=
  if attr = "name" then .plain (.mark (.direction .descending))
  else if attr = "referrer" then customer.record fun _ => .unset
  else order.record fun attr =>
    if attr = "id" then .plain (.mark (.direction .ascending)) else .plain .null

theorem orderInput_normalizes_cyclic : ∃ r types customer order spec,
    ((empty .standard).run cyclicRun).finalize.outcome.value = .ok r ∧ r.SortNamesFound ∧
      r.inputTypes.outcome.value = .ok types ∧ r.sortSpec (.text "Customer") = .ok spec ∧
      types.sort (.text "Customer") = .ok customer ∧ types.sort (.text "Order") = .ok order ∧
      types.Takes (.sort (.text "Customer")) (customer.record (customerOrder customer order)) ∧
      (customer.record (customerOrder customer order)).toOrder =
        .map [(.text "name", .text "DESC"), (.text "orders", .map [(.text "id", .text "ASC")]),
          (.text "referrer", .map [])] ∧
      spec.normalize r.sortRef? (customer.record (customerOrder customer order)).toOrder =
        .ok (customer.record (customerOrder customer order)).toOrder := by
  refine ⟨_, _, _, _, _, rfl, ?named, rfl, rfl, rfl, rfl, ?typed, rfl, orderInput_normalizes
    (show ((empty .standard).run cyclicRun).finalize.outcome.value = .ok _ from rfl) ?named rfl
    (show Registry.sortSpec _ (.text "Customer") = .ok _ from rfl) ?typed⟩
  case named =>
    rw [SortNamesFound]
    decide
  case typed =>
    refine .sort rfl (List.forall_mem_cons.2 ⟨.one _ (.direction _), List.forall_mem_cons.2
      ⟨.one _ (.sort rfl ?_), List.forall_mem_singleton.2 (.one _ (.sort rfl ?_))⟩⟩)
    · exact List.forall_mem_cons.2 ⟨.one _ (.direction _), List.forall_mem_singleton.2 (.null _)⟩
    · exact List.forall_mem_cons.2 ⟨.unset _, List.forall_mem_cons.2 ⟨.unset _,
        List.forall_mem_singleton.2 (.unset _)⟩⟩

end Registry

end ListQuery
