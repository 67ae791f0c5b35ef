import ListQuery.Proofs.Input.Sortable
import Mathlib.Data.List.Pairwise
import Mathlib.Tactic.ByContra

/-!
# The generated input types

Generating the input types of a registry does two things: it chooses the fields of every type,
and it checks that attributes can hold them. The checks change nothing, so where they succeed
the types are those that were chosen. In the type for the filters of an entity these are the
combinators and then the slots whose attributes are free, in the type for its sort orders one
field for each attribute.

Attributes are made of names, and different names may give one attribute. But a type has at most
one field for each attribute, and its fields are known to the client by different names: fields
of one name would have one attribute.

## Main definitions

* `FilterSpec.inputFields` are the fields by which an entity is filtered, without any checks.
* `Registry.chosenTypes` are the input types without any checks.

## Main results

* `Registry.inputTypes_eq_ok`: what is generated is what is chosen.
* `InputTypes.sort_eq_ok_iff`, `InputTypes.filter_eq_ok_iff`: looking types up.
* `SortSpec.mem_inputFields`, `FilterSpec.mem_inputFields`: what fields a type can have.
* `SortSpec.namesApart_inputFields`, `FilterSpec.namesApart_inputFields`: their names are
  different.
-/

namespace ListQuery

/-! ## Keys of ordered maps -/

namespace Ordered

variable {κ α β : Type} [BEq κ]

/-- Keys of a map with distinct keys that count as the same are the same. -/
theorem Distinct.eq_of_beq [PartialEquivBEq κ] {map : Ordered κ α} (distinct : Distinct map)
    {key other : κ} (there : key ∈ keys map) (there' : other ∈ keys map)
    (same : (key == other) = true) : key = other := by
  by_contra different
  have _ : Std.Symm fun a b : κ => (a == b) = false := ⟨fun a b apart => by rwa [BEq.comm]⟩
  have apart := List.Pairwise.forall distinct there there' different
  rw [same] at apart
  cases apart

/-- Looking up what is kept of a map with distinct keys. -/
theorem find?_filterMap [PartialEquivBEq κ] {map : Ordered κ α} (distinct : Distinct map)
    (key : κ) (f : κ → α → Option β) :
    find? key (map.filterMap fun entry => (f entry.1 entry.2).map (entry.1, ·)) =
      (List.find? (fun entry => entry.1 == key) map).bind fun entry => f entry.1 entry.2 := by
  induction map with
  | nil => rfl
  | cons entry rest ih =>
    obtain ⟨apart, distinct⟩ := List.pairwise_cons.1 distinct
    specialize ih distinct
    cases named : entry.1 == key with
    | false =>
      rw [List.find?_cons_of_neg (by simp [named]), ← ih]
      cases kept : f entry.1 entry.2 with
      | none => rw [List.filterMap_cons_none (by rw [kept, Option.map_none])]
      | some x => simp [kept, find?, named]
    | true =>
      rw [List.find?_cons_of_pos (p := fun e : κ × α => e.1 == key) named, Option.bind_some]
      cases kept : f entry.1 entry.2 with
      | some x => simp [kept, find?, named]
      | none =>
        -- there is no other entry that could be found in the place of the one left out
        rw [List.filterMap_cons_none (by rw [kept, Option.map_none]), ih]
        refine Option.bind_eq_none_iff.2 fun other found => ?_
        have there := List.mem_map_of_mem (f := Prod.fst) (List.mem_of_find?_eq_some found)
        have named' := List.find?_some found
        have same : (entry.1 == other.1) = true := BEq.trans named (BEq.symm named')
        rw [apart other.1 there] at same
        cases same

theorem isEmpty_ofEntries (entries : List (κ × α)) :
    (ofEntries entries).isEmpty = entries.isEmpty := by
  rcases List.eq_nil_or_concat entries with rfl | ⟨earlier, last, rfl⟩
  · rfl
  · -- a write leaves at least what it has written
    rw [List.concat_eq_append, ofEntries_concat]
    cases ofEntries earlier with
    | nil => simp [insert]
    | cons entry rest => cases same : entry.1 == last.1 <;> simp [insert, same]

end Ordered

/-! ## Checks change nothing -/

/-- The fields for the slots whose attributes are free, that is, neither taken before nor by an
earlier slot. -/
def freeFields (taken : List String) : List (Value × FilterSlot) → Ordered String InputField
  | [] => []
  | (name, slot) :: rest =>
    let attr := attributeName name.label
    if taken.contains attr then freeFields taken rest
    else (attr, ⟨name, slot.inputRef, false⟩) :: freeFields (taken ++ [attr]) rest

/-- The fields of the type for the filters of an entity: the combinators, and the slots with
other attributes. -/
def FilterSpec.inputFields (entity : Value) (spec : FilterSpec) : Ordered String InputField :=
  let combinators := spec.combinatorFields entity
  combinators ++ freeFields (Ordered.keys combinators) spec.slots

theorem InputField.attach_eq (type attr : String) (f : InputField) : f.attach type attr =
    match ownAttributeError? type attr with
    | some e => .error (.unfitAttribute e)
    | none => .ok (attr, f) := rfl

theorem InputField.attach_eq_ok {type attr : String} {f : InputField} {entry : String × InputField}
    (done : f.attach type attr = .ok entry) : entry = (attr, f) := by
  rw [attach_eq] at done
  split at done
  · cases done
  · exact (Except.ok.inj done).symm

/-- Attaching the fields of a type fails for the first attribute that cannot hold one. -/
theorem InputType.attached_eq (type : InputType) : type.attached =
    match (Ordered.keys type.fields).findSome? (ownAttributeError? type.name) with
    | some e => .error (.unfitAttribute e)
    | none => .ok type := by
  have each (fields : Ordered String InputField) :
      fields.mapM (fun entry => entry.2.attach type.name entry.1) =
        match (Ordered.keys fields).findSome? (ownAttributeError? type.name) with
        | some e => Except.error (.unfitAttribute e)
        | none => .ok fields := by
    induction fields with
    | nil => rfl
    | cons entry rest ih =>
      have keys : Ordered.keys (entry :: rest) = entry.1 :: Ordered.keys rest := rfl
      rw [List.mapM_cons, ih, InputField.attach_eq, keys, List.findSome?_cons]
      cases ownAttributeError? type.name entry.1 with
      | some e => rfl
      | none => cases (Ordered.keys rest).findSome? (ownAttributeError? type.name) <;> rfl
  have run : type.attached =
      InputType.mk type.name <$> type.fields.mapM fun entry => entry.2.attach type.name entry.1 :=
    rfl
  rw [run, each]
  cases (Ordered.keys type.fields).findSome? (ownAttributeError? type.name) <;> rfl

theorem InputType.attached_eq_ok {type type' : InputType} (done : type.attached = .ok type') :
    type' = type := by
  rw [attached_eq] at done
  split at done
  · cases done
  · exact (Except.ok.inj done).symm

/-- Attaching fields for slots attaches those whose attributes are free. -/
theorem attachFilterFields_eq_ok {entity : Value} (slots : List (Value × FilterSlot)) :
    ∀ {fields all : Ordered String InputField},
      (attachFilterFields entity fields slots).outcome.value = .ok all →
        all = fields ++ freeFields (Ordered.keys fields) slots := by
  induction slots with
  | nil => exact fun done => (Except.ok.inj done).symm.trans (List.append_nil _).symm
  | cons first rest ih =>
    intro fields all done
    obtain ⟨name, slot⟩ := first
    have taken : Ordered.has (attributeName name.label) fields =
        (Ordered.keys fields).contains (attributeName name.label) := by
      rw [Ordered.has_iff_any, Bool.eq_iff_iff]
      simp
    -- a slot is passed over, with a notice, exactly where its attribute is taken
    rw [attachFilterFields, taken] at done
    dsimp only at done
    rw [freeFields]
    split at done
    · next clash =>
      obtain ⟨_, -, later⟩ := Checked.value_bind_eq_ok_iff.1 done
      rw [if_pos clash]
      exact ih later
    · next free =>
      obtain ⟨entry, attached, later⟩ := Checked.value_bind_eq_ok_iff.1 done
      obtain rfl := InputField.attach_eq_ok attached
      rw [if_neg free, ih later, List.append_assoc, Ordered.keys, Ordered.keys, List.map_append]
      rfl

theorem FilterSpec.inputType_eq_ok {name : Value} {spec : FilterSpec} {type : InputType}
    (done : (spec.inputType name).outcome.value = .ok type) :
    type = ⟨whereInputName name.label, spec.inputFields name⟩ := by
  obtain ⟨fields, attached, rfl⟩ := Checked.value_map_eq_ok_iff.1 done
  rw [attachFilterFields_eq_ok _ attached]
  rfl

namespace Registry

/-- The type for the sort orders of an entity, and that for its filters, for each of some
entities. -/
def chosenTypes (sortable : List Value) (entries : List (Value × Entry)) : InputTypes where
  sorts := entries.filterMap fun entry =>
    (entry.2.sort.inputType? sortable entry.1).map (entry.1, ·)
  filters := entries.map fun entry =>
    (entry.1, ⟨whereInputName entry.1.label, entry.2.filter.inputFields entry.1⟩)

theorem entityTypes_eq_ok {sortable : List Value} {name : Value} {entry : Entry}
    {types : Option InputType × InputType}
    (done : (entityTypes sortable name entry).outcome.value = .ok types) :
    types = (entry.sort.inputType? sortable name,
      ⟨whereInputName name.label, entry.filter.inputFields name⟩) := by
  rw [entityTypes] at done
  obtain ⟨sort, attached, later⟩ := Checked.value_bind_eq_ok_iff.1 done
  obtain ⟨filter, chosen, last⟩ := Checked.value_bind_eq_ok_iff.1 later
  rw [← Except.ok.inj last, FilterSpec.inputType_eq_ok chosen]
  refine congrArg (Prod.mk · _) ?_
  cases wanted : entry.sort.inputType? sortable name with
  | none =>
    rw [wanted] at attached
    exact (Except.ok.inj attached).symm
  | some type =>
    rw [wanted] at attached
    cases done : type.attached with
    | error e => rw [Checked.outcome_ofExcept, Option.mapM_some, done] at attached; cases attached
    | ok type' =>
      rw [Checked.outcome_ofExcept, Option.mapM_some, done] at attached
      rw [← Except.ok.inj attached, InputType.attached_eq_ok done]

theorem typesOf_eq_ok {sortable : List Value} (entries : List (Value × Entry)) :
    ∀ {types : InputTypes}, (typesOf sortable entries).outcome.value = .ok types →
      types = chosenTypes sortable entries := by
  induction entries with
  | nil => exact fun done => (Except.ok.inj done).symm
  | cons entry rest ih =>
    intro types done
    rw [typesOf] at done
    obtain ⟨first, chosen, later⟩ := Checked.value_bind_eq_ok_iff.1 done
    obtain ⟨others, more, last⟩ := Checked.value_bind_eq_ok_iff.1 later
    rw [entityTypes_eq_ok chosen, ih more] at last
    rw [← Except.ok.inj last, chosenTypes, chosenTypes, List.filterMap_cons]
    cases entry.2.sort.inputType? sortable entry.1 <;> rfl

/-- Where the input types of a registry are generated, it is finalized, and they are those that
are chosen. -/
theorem inputTypes_eq_ok {r : Registry} {types : InputTypes}
    (done : r.inputTypes.outcome.value = .ok types) :
    r.finalized = true ∧ types = chosenTypes r.sortableEntities r.entries := by
  rw [inputTypes] at done
  split at done
  · cases done
  · next finalized =>
    split at done
    · cases done
    · -- after the types are chosen they are checked and reported, and returned as they are
      obtain ⟨chosen, built, later⟩ := Checked.value_bind_eq_ok_iff.1 done
      obtain ⟨_, -, later⟩ := Checked.value_bind_eq_ok_iff.1 later
      obtain ⟨_, -, last⟩ := Checked.value_bind_eq_ok_iff.1 later
      rw [← Except.ok.inj last]
      exact ⟨by simpa using finalized, typesOf_eq_ok r.entries built⟩

end Registry

/-! ## Looking types up -/

namespace InputTypes

variable {types : InputTypes} {entity : Value} {type : InputType}

theorem sort_eq_ok_iff : types.sort entity = .ok type ↔
    entity.changeable? = none ∧ Ordered.find? entity types.sorts = some type := by
  rw [sort, Value.asKey]
  cases fit : entity.changeable? with
  | some part => simp [Except.mapError, bind, Except.bind]
  | none =>
    simp only [Except.mapError, bind, Except.bind, true_and]
    cases Ordered.find? entity types.sorts <;> simp

theorem filter_eq_ok_iff : types.filter entity = .ok type ↔
    entity.changeable? = none ∧ Ordered.find? entity types.filters = some type := by
  rw [filter, Value.asKey]
  cases fit : entity.changeable? with
  | some part => simp [Except.mapError, bind, Except.bind]
  | none =>
    simp only [Except.mapError, bind, Except.bind, true_and]
    cases Ordered.find? entity types.filters <;> simp

end InputTypes

namespace Registry

variable {sortable : List Value} {entries : Ordered Value Entry} {target : Value}

theorem find?_filters : Ordered.find? target (chosenTypes sortable entries).filters =
    (List.find? (fun entry => entry.1 == target) entries).map fun entry =>
      ⟨whereInputName entry.1.label, entry.2.filter.inputFields entry.1⟩ :=
  Ordered.find?_map target (fun name (entry : Entry) =>
    InputType.mk (whereInputName name.label) (entry.filter.inputFields name)) entries

theorem find?_sorts (distinct : Ordered.Distinct entries) :
    Ordered.find? target (chosenTypes sortable entries).sorts =
      (List.find? (fun entry => entry.1 == target) entries).bind fun entry =>
        entry.2.sort.inputType? sortable entry.1 :=
  Ordered.find?_filterMap distinct target fun name entry => entry.sort.inputType? sortable name

end Registry

/-! ## The fields of a type -/

namespace SortSpec

variable {sortable : List Value} {spec : SortSpec} {attr : String} {f : InputField}

theorem distinct_inputFields (sortable : List Value) (spec : SortSpec) :
    Ordered.Distinct (spec.inputFields sortable) := Ordered.distinct_ofEntries _

/-- A field of the type for sort orders is that of a slot, and stands under the attribute for its
name. -/
theorem mem_inputFields (there : (attr, f) ∈ spec.inputFields sortable) :
    attr = attributeName f.name.label ∧ f.many = false ∧
      ∃ slot, (f.name, slot) ∈ spec.slots ∧ slot.inputRef? sortable = some f.takes := by
  obtain ⟨-, other, written, same⟩ := Ordered.mem_ofEntries there
  obtain ⟨⟨name, slot⟩, among, field⟩ := List.mem_filterMap.1 written
  obtain ⟨ref, takes, both⟩ := Option.map_eq_some_iff.1 field
  obtain ⟨rfl, rfl⟩ := Prod.mk.inj both
  have same : attr = attributeName name.label := same.elim id eq_of_beq
  exact ⟨same, rfl, slot, among, takes⟩

/-- There is a type for the sort orders of an entity exactly where it would have a field. -/
theorem isSome_inputType? (spec : SortSpec) (name : Value) :
    (spec.inputType? sortable name).isSome =
      spec.slots.any fun slot => (slot.2.inputRef? sortable).isSome := by
  have empty : (spec.inputFields sortable).isEmpty =
      !spec.slots.any fun slot => (slot.2.inputRef? sortable).isSome := by
    rw [inputFields, Ordered.isEmpty_ofEntries, Bool.eq_iff_iff]
    simp [SortSlot.inputField?]
  rw [inputType?, empty]
  cases spec.slots.any fun slot => (slot.2.inputRef? sortable).isSome <;> rfl

end SortSpec

variable {taken : List String} {slots : List (Value × FilterSlot)} {attr : String}
  {f : InputField}

theorem mem_freeFields (there : (attr, f) ∈ freeFields taken slots) :
    attr ∉ taken ∧ attr = attributeName f.name.label ∧ f.many = false ∧
      ∃ slot, (f.name, slot) ∈ slots ∧ f.takes = slot.inputRef := by
  induction slots generalizing taken with
  | nil => cases there
  | cons first rest ih =>
    obtain ⟨name, slot⟩ := first
    rw [freeFields] at there
    split at there
    · obtain ⟨free, same, single, slot', among, takes⟩ := ih there
      exact ⟨free, same, single, slot', List.mem_cons_of_mem _ among, takes⟩
    · next free =>
      rcases List.mem_cons.1 there with here | later
      · obtain ⟨rfl, rfl⟩ := Prod.mk.inj here
        exact ⟨by simpa using free, rfl, rfl, slot, List.mem_cons_self, rfl⟩
      · obtain ⟨free', same, single, slot', among, takes⟩ := ih later
        rw [List.mem_append, not_or] at free'
        exact ⟨free'.1, same, single, slot', List.mem_cons_of_mem _ among, takes⟩

theorem distinct_freeFields (taken : List String) (slots : List (Value × FilterSlot)) :
    Ordered.Distinct (freeFields taken slots) := by
  induction slots generalizing taken with
  | nil => exact List.Pairwise.nil
  | cons first rest ih =>
    rw [freeFields]
    split
    · exact ih taken
    · refine List.pairwise_cons.2 ⟨fun other there => ?_, ih _⟩
      obtain ⟨⟨_, f⟩, among, rfl⟩ := List.mem_map.1 there
      obtain ⟨free, -⟩ := mem_freeFields among
      rw [List.mem_append, not_or, List.mem_singleton] at free
      exact beq_eq_false_iff_ne.2 (Ne.symm free.2)

namespace FilterSpec

variable {entity : Value} {spec : FilterSpec}

theorem keys_combinatorFields (entity : Value) (spec : FilterSpec) :
    Ordered.keys (spec.combinatorFields entity) = spec.combinators.map Combinator.word := by
  rw [Ordered.keys, combinatorFields, List.map_map]
  rfl

theorem distinct_combinators (spec : FilterSpec) :
    (spec.combinators.map Combinator.word).Pairwise fun a b => (a == b) = false := by
  rw [combinators]
  cases spec.supportsAnd <;> cases spec.supportsOr <;> decide

/-- A field of the type for filters is that of a combinator, or that of a slot under the attribute
for its name. -/
theorem mem_inputFields (there : (attr, f) ∈ spec.inputFields entity) :
    (∃ c ∈ spec.combinators, attr = c.word ∧ f = ⟨.text c.word, .filter entity, true⟩) ∨
      ((∀ c ∈ spec.combinators, attr ≠ c.word) ∧ attr = attributeName f.name.label ∧
        f.many = false ∧ ∃ slot, (f.name, slot) ∈ spec.slots ∧ f.takes = slot.inputRef) := by
  rcases List.mem_append.1 there with group | single
  · obtain ⟨c, among, both⟩ := List.mem_map.1 group
    obtain ⟨rfl, rfl⟩ := Prod.mk.inj both
    exact Or.inl ⟨c, among, rfl, rfl⟩
  · rw [keys_combinatorFields] at single
    obtain ⟨free, slot⟩ := mem_freeFields single
    refine Or.inr ⟨fun c among same => free ?_, slot⟩
    rw [same]
    exact List.mem_map_of_mem among

theorem distinct_inputFields (entity : Value) (spec : FilterSpec) :
    Ordered.Distinct (spec.inputFields entity) := by
  rw [Ordered.Distinct, Ordered.keys, inputFields, List.map_append]
  refine List.pairwise_append.2 ⟨?_, distinct_freeFields _ _, ?_⟩
  · rw [← Ordered.keys, keys_combinatorFields]
    exact distinct_combinators spec
  · -- a slot whose attribute is that of a combinator has no field
    intro attr group other single
    obtain ⟨⟨taken, f⟩, among, rfl⟩ := List.mem_map.1 single
    obtain ⟨free, -⟩ := mem_freeFields among
    refine beq_eq_false_iff_ne.2 fun same => free ?_
    rwa [← show attr = taken from same]

end FilterSpec

/-! ## The names of fields -/

/-- No two fields have names that are the same key. -/
def NamesApart (fields : Ordered String InputField) : Prop :=
  fields.Pairwise fun a b => (a.2.name == b.2.name) = false

/-- Fields for the slots of a specification have different names if they have different
attributes. -/
theorem namesApart_of_slots {α : Type} {slots : Ordered Value α}
    {fields : Ordered String InputField} (apart : Ordered.Distinct slots)
    (distinct : Ordered.Distinct fields)
    (named : ∀ attr f, (attr, f) ∈ fields →
      attr = attributeName f.name.label ∧ f.name ∈ Ordered.keys slots) : NamesApart fields := by
  refine (List.pairwise_map.1 distinct).imp_of_mem fun {a b} there there' different => ?_
  -- names that are the same key are the same name, for which there is one attribute only
  obtain ⟨attr, slot⟩ := named a.1 a.2 there
  obtain ⟨attr', slot'⟩ := named b.1 b.2 there'
  rw [← Bool.not_eq_true]
  intro same
  rw [attr, attr', apart.eq_of_beq slot slot' same] at different
  simp at different

/-- A name that is the same key as the word of a combinator is that word. -/
theorem Combinator.eq_word_of_beq {c : Combinator} {key : Value}
    (same : (Value.text c.word == key) = true) : key = .text c.word := by
  have text : some c.word = key.text? := Value.text?_eq_of_beq same
  have word : isCombinatorKey key = true := by
    rw [isCombinatorKey_iff, ← text]
    cases c with
    | all => exact Or.inl rfl
    | any => exact Or.inr rfl
  rw [isCombinatorKey, Bool.or_eq_true, decide_eq_true_eq, decide_eq_true_eq] at word
  rcases word with rfl | rfl <;> rw [Option.some.inj text]

theorem Combinator.attributeName_word (c : Combinator) : attributeName c.word = c.word := by
  cases c <;> rfl

theorem SortSpec.namesApart_inputFields {spec : SortSpec} (apart : Ordered.Distinct spec.slots)
    (sortable : List Value) : NamesApart (spec.inputFields sortable) := by
  refine namesApart_of_slots apart (spec.distinct_inputFields sortable) fun attr f there => ?_
  obtain ⟨same, -, slot, among, -⟩ := mem_inputFields there
  exact ⟨same, List.mem_map_of_mem among⟩

theorem FilterSpec.namesApart_inputFields {spec : FilterSpec}
    (apart : Ordered.Distinct spec.slots) (entity : Value) :
    NamesApart (spec.inputFields entity) := by
  refine List.pairwise_append.2 ⟨?_, ?_, ?_⟩
  · rw [combinatorFields, List.pairwise_map]
    refine (List.pairwise_map.1 spec.distinct_combinators).imp fun different => ?_
    rw [Value.text_beq_text]
    simpa using different
  · refine namesApart_of_slots apart (distinct_freeFields _ _) fun attr f there => ?_
    obtain ⟨-, same, -, slot, among, -⟩ := mem_freeFields there
    exact ⟨same, List.mem_map_of_mem among⟩
  · -- a slot with the name of a combinator would have its attribute, which is taken
    rintro _ group ⟨attr, f⟩ single
    obtain ⟨c, among, rfl⟩ := List.mem_map.1 group
    rw [keys_combinatorFields] at single
    obtain ⟨free, same, -⟩ := mem_freeFields single
    rw [← Bool.not_eq_true]
    intro clash
    refine free ?_
    rw [same, Combinator.eq_word_of_beq clash, Value.label, Combinator.attributeName_word]
    exact List.mem_map_of_mem among

end ListQuery
