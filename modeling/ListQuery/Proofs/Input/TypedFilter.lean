import ListQuery.Proofs.Input.Typed

/-!
# Typed filters

A filter conforms to a specification if it is a map whose keys are combinators and fields of the
specification. A combinator stands over nothing or over a list of conforming maps, a scalar field
over nothing or over a map of operators that the field admits, a relation over nothing or over a
map that conforms to the specification of its target. Specifications may refer to one another in
circles, but a filter is a finite tree.

Every input of a type for filters is a conforming filter, as plain data. Fields that clash with
others have no attribute, so that their keys do not occur; all attributes that are set do, each
under a key of its own.

## Main definitions

* `FilterSpec.Admits` says what entries a conforming filter may have.

## Main results

* `InputTypes.Takes.meets`, by induction over inputs: they conform, at any depth.
* `Registry.filterInput_conforms`: typed filters after any run that ends in finalizing.
-/

namespace ListQuery

/-- The entries of a filter that a specification admits. -/
inductive FilterSpec.Admits (lookup : Value → Option FilterSpec) :
    FilterSpec → Value × Value → Prop
  | nullGroup {spec : FilterSpec} {c : Combinator} (among : c ∈ spec.combinators) :
      Admits lookup spec (.text c.word, .null)
  | group {spec : FilterSpec} {c : Combinator} {branches : List (List (Value × Value))}
      (among : c ∈ spec.combinators)
      (each : ∀ branch ∈ branches, ∀ entry ∈ branch, Admits lookup spec entry) :
      Admits lookup spec (.text c.word, .list (branches.map Value.map))
  | nullField {spec : FilterSpec} {key : Value} (known : key ∈ Ordered.keys spec.slots) :
      Admits lookup spec (key, .null)
  | scalar {spec : FilterSpec} {key : Value} {kind : FieldKind} {entries : List (Value × Value)}
      (slot : (key, .operators kind) ∈ spec.slots)
      (operators : ∀ entry ∈ entries, ∃ op ∈ kind.operators, entry.1 = .text op.name) :
      Admits lookup spec (key, .map entries)
  | relation {spec inner : FilterSpec} {key target : Value} {entries : List (Value × Value)}
      (slot : (key, .ref target) ∈ spec.slots) (resolved : lookup target = some inner)
      (each : ∀ entry ∈ entries, Admits lookup inner entry) :
      Admits lookup spec (key, .map entries)

/-- A slot for a scalar field admits the operators of its kind, under any name that is found. -/
theorem FilterSpec.operatorsFor?_of_mem {spec : FilterSpec} (distinct : Ordered.Distinct spec.slots)
    {key : Value} {kind : FieldKind} (slot : (key, FilterSlot.operators kind) ∈ spec.slots)
    (found : (key == key) = true) : spec.operatorsFor? key = some kind.operators := by
  rw [operatorsFor?, Ordered.find?_of_mem distinct slot found]

namespace Registry

/-- What a field of a type for filters takes is a conforming filter or a map of operators. -/
def Meets (r : Registry) : InputRef → Value → Prop
  | .operators s, value => ∃ entries, value = .map entries ∧
      ∀ entry ∈ entries, ∃ op ∈ s.kind.operators, entry.1 = .text op.name
  | .filter entity, value => ∃ entry entries, Ordered.find? entity r.entries = some entry ∧
      value = .map entries ∧ ∀ field ∈ entries, entry.filter.Admits r.filterRef? field
  | _, _ => True

variable {config : Config} {past : List (Value × List Field)} {r : Registry} {name target : Value}
  {entry : Entry}

/-- A type for filters is that of an entity. -/
theorem exists_of_find?_filters {sortable : List Value} {type : InputType}
    (found : Ordered.find? target (chosenTypes sortable r.entries).filters = some type) :
    ∃ name entry, (name, entry) ∈ r.entries ∧ (name == target) = true ∧
      Ordered.find? target r.entries = some entry ∧
      type = ⟨whereInputName name.label, entry.filter.inputFields name⟩ := by
  rw [find?_filters, Option.map_eq_some_iff] at found
  obtain ⟨⟨name, entry⟩, first, rfl⟩ := found
  have named := List.find?_some first
  refine ⟨name, entry, List.mem_of_find?_eq_some first, named, ?_, rfl⟩
  rw [Ordered.find?_eq, first, Option.map_some]

theorem Finalized.distinct_filter (final : Finalized config past r)
    (there : (name, entry) ∈ r.entries) : Ordered.Distinct entry.filter.slots := by
  rw [(final.inStep there).filter]
  exact Ordered.distinct_ofEntries _

/-- A type for filters has fields under different attributes and of different names. -/
theorem Finalized.apart_of_filterType (final : Finalized config past r) {sortable : List Value}
    {type : InputType}
    (found : Ordered.find? target (chosenTypes sortable r.entries).filters = some type) :
    Ordered.Distinct type.fields ∧ NamesApart type.fields := by
  obtain ⟨name, entry, there, -, -, rfl⟩ := exists_of_find?_filters found
  exact ⟨entry.filter.distinct_inputFields name,
    FilterSpec.namesApart_inputFields (final.distinct_filter there) name⟩

end Registry

namespace InputTypes

open Registry (Entry Finalized Meets chosenTypes)

variable {config : Config} {past : List (Value × List Field)} {r : Registry}

/-- The items of a list that are maps of one sort make a list of such maps. -/
theorem exists_branches {p : Value × Value → Prop} {items : List Input}
    (each : ∀ item ∈ items, ∃ entries, item.toValue = .map entries ∧ ∀ entry ∈ entries, p entry) :
    ∃ branches : List (List (Value × Value)), Input.toValues items = branches.map Value.map ∧
      ∀ branch ∈ branches, ∀ entry ∈ branch, p entry := by
  induction items with
  | nil => exact ⟨[], by simp [Input.toValues], List.forall_mem_nil _⟩
  | cons item rest ih =>
    obtain ⟨⟨branch, value, holds⟩, later⟩ := List.forall_mem_cons.1 each
    obtain ⟨branches, values, all⟩ := ih later
    refine ⟨branch :: branches, ?_, List.forall_mem_cons.2 ⟨holds, all⟩⟩
    rw [Input.toValues, value, values, List.map_cons]

/-- What is held for a field and not left out is admitted under its name, if what the field takes
conforms. -/
theorem admits_of_holds (final : Finalized config past r) {name : Value} {entry : Entry}
    (there : (name, entry) ∈ r.entries) (key : (name == name) = true) {attr : String}
    {f : InputField} (among : (attr, f) ∈ entry.filter.inputFields name) {input : Input}
    (holds : f.Holds (fun ref input => r.Meets ref input.toValue) input)
    (given : input.isUnset = false) :
    entry.filter.Admits r.filterRef? (f.name, input.toValue) := by
  have field := FilterSpec.mem_inputFields among
  cases holds with
  | unset => cases given
  | null =>
    rcases field with ⟨c, combinator, -, rfl⟩ | ⟨-, -, -, slot, has, -⟩
    · exact .nullGroup combinator
    · exact .nullField (List.mem_map_of_mem has)
  | one name meets =>
    rcases field with ⟨c, -, -, both⟩ | ⟨-, -, -, slot, has, ref⟩
    · cases both
    · obtain rfl := ref
      cases slot with
      | operators kind =>
        obtain ⟨entries, value, operators⟩ := meets
        rw [InputScalar.operators_kind_ofKind] at operators
        rw [value]
        exact .scalar has operators
      | ref target =>
        obtain ⟨next, entries, found, value, each⟩ := meets
        rw [value]
        exact .relation has (by rw [Registry.filterRef?, found, Option.map_some]) each
  | @many _ ref items each =>
    rcases field with ⟨c, combinator, -, both⟩ | ⟨-, -, single, -⟩
    · cases both
      -- the items conform to the entity that is found under its own name
      have found := Ordered.find?_of_mem final.distinct there key
      obtain ⟨branches, values, all⟩ := exists_branches fun item member => by
        obtain ⟨entry', entries, found', value, each⟩ := each item member
        obtain rfl := Option.some.inj (found.symm.trans found')
        exact ⟨entries, value, each⟩
      rw [Input.toValue, values]
      exact .group combinator all
    · cases single

/-- What a field takes conforms, at any depth. -/
theorem Takes.meets (final : Finalized config past r) {ref : InputRef} {input : Input}
    (typed : (chosenTypes r.sortableEntities r.entries).Takes ref input) :
    r.Meets ref input.toValue := by
  refine Takes.induction ?direction ?operators ?sort ?filter typed
  case direction => exact fun d => trivial
  case operators => exact InputScalar.exists_toValue_record
  case sort => exact fun entity type held found each => trivial
  case filter =>
    intro entity type held found each
    obtain ⟨distinct, apart⟩ := final.apart_of_filterType found
    obtain ⟨name, entry, there, same, found', rfl⟩ := Registry.exists_of_find?_filters found
    have key : (name == name) = true := BEq.trans same (BEq.symm same)
    refine ⟨entry, _, found', InputType.toValue_record distinct apart held, fun field set => ?_⟩
    -- each entry is that of a field, and what is held for the field conforms by the induction
    obtain ⟨attr, f, among, given, rfl⟩ := (InputType.mem_entries distinct).1 set
    exact admits_of_holds final there key among (each (attr, f) among) given

end InputTypes

namespace Registry

theorem exists_entry_of_filterSpec {r : Registry} {name : Value} {spec : FilterSpec}
    (known : r.filterSpec name = .ok spec) : ∃ entry, r.entry name = .ok entry ∧
      spec = entry.filter := by
  rw [filterSpec] at known
  cases found : r.entry name with
  | error e => rw [found] at known; cases known
  | ok entry =>
    rw [found] at known
    exact ⟨entry, rfl, (Except.ok.inj known).symm⟩

/-- After any run that ends in finalizing, every input of the type for the filters of an entity is
a map, as plain data, in which each attribute that was not left out has an entry of its own, and
this map conforms to the filter specification of the entity. A scalar field admits the operators
that are looked up for it. -/
theorem filterInput_conforms {config : Config} {ops : List Operation} {r : Registry}
    {types : InputTypes} {name : Value} {spec : FilterSpec}
    (done : ((empty config).run ops).finalize.outcome.value = .ok r)
    (built : r.inputTypes.outcome.value = .ok types) (known : r.filterSpec name = .ok spec) :
    (∀ key kind, (key, FilterSlot.operators kind) ∈ spec.slots → (key == key) = true →
      spec.operatorsFor? key = some kind.operators) ∧
    ∃ type, types.filter name = .ok type ∧ (Ordered.keys type.fields).Nodup ∧
      ∀ held, (∀ field ∈ type.fields, field.2.Holds types.Takes (held field.1)) →
        (type.record held).toValue = .map (type.entries held) ∧
          Ordered.Distinct (type.entries held) ∧
          ∀ entry ∈ type.entries held, spec.Admits r.filterRef? entry := by
  have final := finalized_of_run done
  obtain ⟨-, rfl⟩ := inputTypes_eq_ok built
  obtain ⟨entry, looked, rfl⟩ := exists_entry_of_filterSpec known
  have found := (find?_of_entry looked).2
  obtain ⟨self, there, same, chosen⟩ := filter_chosen (fit_of_entry looked) found r.sortableEntities
  have table := (InputTypes.filter_eq_ok_iff.1 chosen).2
  obtain ⟨distinct, apart⟩ := final.apart_of_filterType table
  refine ⟨fun key kind slot => ?_, _, chosen, ?_, fun held each => ?_⟩
  · exact FilterSpec.operatorsFor?_of_mem (final.distinct_filter there) slot
  · exact distinct.imp fun different => beq_eq_false_iff_ne.1 different
  · have value := InputType.toValue_record distinct apart held
    have typed := InputTypes.Takes.filter table each
    obtain ⟨entry', entries, found', written, admitted⟩ := typed.meets final
    obtain rfl := Option.some.inj (found.symm.trans found')
    obtain rfl := Value.map.inj (value.symm.trans written)
    exact ⟨value, InputType.distinct_entries distinct apart held, admitted⟩

/-- What an input for the filters of notes holds: a group of one filter, by operators on a field
whose name is no attribute, an empty group, and a filter of the parent without any field. -/
def noteFilter (note parent : InputType) (attr : String) : Input :=
  let among : Input := InputType.record (InputScalar.operatorType .text) fun attr =>
    if attr = "in_" then .plain (.list [.text "a"]) else .unset
  if attr = "AND" then .list [note.record fun attr => if attr = "in_" then among else .unset]
  else if attr = "OR" then .plain .null
  else if attr = "about" then parent.record fun _ => .unset
  else .unset

theorem filterInput_conforms_circle : ∃ r types note parent spec,
    ((empty .standard).run circleRun).finalize.outcome.value = .ok r ∧
      r.inputTypes.outcome.value = .ok types ∧ r.filterSpec (.text "Note") = .ok spec ∧
      types.filter (.text "Note") = .ok note ∧ types.filter (.text "Parent") = .ok parent ∧
      note.entries (noteFilter note parent) =
        [(.text "AND", .list [.map [(.text "in", .map [(.text "in", .list [.text "a"])])]]),
          (.text "OR", .null), (.text "about", .map [])] ∧
      ∀ entry ∈ note.entries (noteFilter note parent), spec.Admits r.filterRef? entry := by
  obtain ⟨-, note, chosen, -, conforms⟩ := filterInput_conforms
    (show ((empty .standard).run circleRun).finalize.outcome.value = .ok _ from rfl) rfl
    (show Registry.filterSpec _ (.text "Note") = .ok _ from rfl)
  obtain rfl := Except.ok.inj chosen
  refine ⟨_, _, _, _, _, rfl, rfl, rfl, chosen, rfl, rfl, ?_⟩
  refine (conforms _ (List.forall_mem_cons.2 ⟨.many _ (List.forall_mem_singleton.2 ?_),
    List.forall_mem_cons.2 ⟨.null _, List.forall_mem_cons.2 ⟨.unset _,
      List.forall_mem_singleton.2 (.one _ ?_)⟩⟩⟩)).2.2
  · exact .filter rfl (List.forall_mem_cons.2 ⟨.unset _, List.forall_mem_cons.2 ⟨.unset _,
      List.forall_mem_cons.2 ⟨.one _ (.operators _ _), List.forall_mem_singleton.2 (.unset _)⟩⟩⟩)
  · exact .filter rfl (List.forall_mem_cons.2 ⟨.unset _, List.forall_mem_cons.2 ⟨.unset _,
      List.forall_mem_singleton.2 (.unset _)⟩⟩)

end Registry

end ListQuery
