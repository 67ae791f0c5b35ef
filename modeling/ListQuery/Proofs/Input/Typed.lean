import ListQuery.Input.Read
import ListQuery.Proofs.Input.Closed

/-!
# Inputs of input types

An input of an input type holds something under each attribute of the type: the mark of a field
that was left out, nothing, or what the field takes, which may be an input of another type. As
plain data it is a map from the names of the fields, whose attributes are translated one by one.

Attributes are distinct, so that each has the name of its own field, and names are different, so
that no entry of the map is written over another.

## Main definitions

* `InputType.record` is an input of a type, by what it holds under each attribute.
* `InputTypes.Takes` says what inputs a field takes, `InputField.Holds` what an attribute may hold.
* `InputType.entries` are the entries of an input as plain data.

## Main results

* `InputType.toValue_record`: an input as plain data.
* `InputScalar.exists_toValue_record`: so are the operands of an operator type.
-/

namespace ListQuery

namespace InputType

/-- The name by which a client knows the field under an attribute. -/
def nameUnder (type : InputType) (attr : String) : Value :=
  ((Ordered.find? attr type.fields).map InputField.name).getD (.text attr)

/-- The input of a type that holds something under each attribute. -/
def record (type : InputType) (held : String → Input) : Input :=
  .record ((Ordered.keys type.fields).map fun attr => (type.nameUnder attr, held attr))

/-- The entries of an input as plain data: those attributes that were not left out, under the
names of their fields. -/
def entries (type : InputType) (held : String → Input) : List (Value × Value) :=
  ((Ordered.keys type.fields).filter fun attr => !(held attr).isUnset).map fun attr =>
    (type.nameUnder attr, (held attr).toValue)

end InputType

/-- What may be held for a field: that it was left out, nothing, or one or many of what the field
takes. -/
inductive InputField.Holds (takes : InputRef → Input → Prop) : InputField → Input → Prop
  | unset (f : InputField) : Holds takes f .unset
  | null (f : InputField) : Holds takes f (.plain .null)
  | one (name : Value) {ref : InputRef} {input : Input} (one : takes ref input) :
      Holds takes ⟨name, ref, false⟩ input
  | many (name : Value) {ref : InputRef} {items : List Input}
      (each : ∀ item ∈ items, takes ref item) : Holds takes ⟨name, ref, true⟩ (.list items)

/-- The inputs that a field takes one or many of: a direction, operators with their operands, or
an input of the type for the sort orders or for the filters of an entity. -/
inductive InputTypes.Takes (types : InputTypes) : InputRef → Input → Prop
  | direction (d : SortDirection) : Takes types .direction (.plain (.mark (.direction d)))
  | operators (s : InputScalar) (held : String → Input) :
      Takes types (.operators s) (s.operatorType.record held)
  | sort {entity : Value} {type : InputType} {held : String → Input}
      (found : Ordered.find? entity types.sorts = some type)
      (each : ∀ field ∈ type.fields, InputField.Holds (Takes types) field.2 (held field.1)) :
      Takes types (.sort entity) (type.record held)
  | filter {entity : Value} {type : InputType} {held : String → Input}
      (found : Ordered.find? entity types.filters = some type)
      (each : ∀ field ∈ type.fields, InputField.Holds (Takes types) field.2 (held field.1)) :
      Takes types (.filter entity) (type.record held)

/-- To prove something of all typed inputs, prove it of an input whose fields hold inputs that have
it. -/
@[elab_as_elim]
theorem InputTypes.Takes.induction {types : InputTypes} {motive : InputRef → Input → Prop}
    (direction : ∀ d, motive .direction (.plain (.mark (.direction d))))
    (operators : ∀ s held,
      motive (.operators s) (InputType.record (InputScalar.operatorType s) held))
    (sort : ∀ entity type held, Ordered.find? entity types.sorts = some type →
      (∀ field ∈ type.fields, field.2.Holds motive (held field.1)) →
      motive (.sort entity) (type.record held))
    (filter : ∀ entity type held, Ordered.find? entity types.filters = some type →
      (∀ field ∈ type.fields, field.2.Holds motive (held field.1)) →
      motive (.filter entity) (type.record held))
    {ref : InputRef} {input : Input} (typed : types.Takes ref input) : motive ref input :=
  @InputTypes.Takes.rec types (fun ref input _ => motive ref input)
    (fun f input _ => f.Holds motive input) direction operators
    (fun found _ ih => sort _ _ _ found ih) (fun found _ ih => filter _ _ _ found ih)
    .unset .null (fun name _ _ _ ih => .one name ih) (fun name _ _ _ ih => .many name ih) ref input
    typed

/-! ## Inputs as plain data -/

theorem Input.fieldValues_map {α : Type} (name : α → Value) (held : α → Input) (l : List α) :
    Input.fieldValues (l.map fun x => (name x, held x)) =
      (l.filter fun x => !(held x).isUnset).map fun x => (name x, (held x).toValue) := by
  induction l with
  | nil => simp [Input.fieldValues]
  | cons x rest ih =>
    rw [List.map_cons, Input.fieldValues, ih]
    cases left : (held x).isUnset <;> simp [left]

namespace InputType

variable {type : InputType} {attr : String} {f : InputField} {held : String → Input}

theorem nameUnder_of_mem (distinct : Ordered.Distinct type.fields)
    (there : (attr, f) ∈ type.fields) : type.nameUnder attr = f.name := by
  rw [nameUnder, Ordered.find?_of_mem distinct there (beq_self_eq_true attr)]
  rfl

/-- Different attributes are translated to different names. -/
theorem pairwise_nameUnder (distinct : Ordered.Distinct type.fields)
    (apart : NamesApart type.fields) : (Ordered.keys type.fields).Pairwise fun a b =>
      (type.nameUnder a == type.nameUnder b) = false := by
  refine List.pairwise_map.2 (apart.imp_of_mem fun {a b} there there' different => ?_)
  rwa [nameUnder_of_mem distinct there, nameUnder_of_mem distinct there']

theorem distinct_entries (distinct : Ordered.Distinct type.fields)
    (apart : NamesApart type.fields) (held : String → Input) :
    Ordered.Distinct (type.entries held) := by
  rw [Ordered.Distinct, Ordered.keys, entries, List.map_map]
  exact List.pairwise_map.2 ((pairwise_nameUnder distinct apart).filter _)

/-- An input is a map of the attributes that were not left out, each with an entry of its own. -/
theorem toValue_record (distinct : Ordered.Distinct type.fields)
    (apart : NamesApart type.fields) (held : String → Input) :
    (type.record held).toValue = .map (type.entries held) := by
  rw [record, Input.toValue, Input.fieldValues_map]
  exact congrArg Value.map (Ordered.ofEntries_of_distinct (distinct_entries distinct apart held))

theorem mem_entries (distinct : Ordered.Distinct type.fields) {entry : Value × Value} :
    entry ∈ type.entries held ↔ ∃ attr f, (attr, f) ∈ type.fields ∧
      (held attr).isUnset = false ∧ entry = (f.name, (held attr).toValue) := by
  rw [entries, List.mem_map]
  constructor
  · rintro ⟨attr, chosen, rfl⟩
    obtain ⟨known, given⟩ := List.mem_filter.1 chosen
    obtain ⟨⟨_, f⟩, there, rfl⟩ := List.mem_map.1 known
    refine ⟨_, f, there, by simpa using given, ?_⟩
    rw [nameUnder_of_mem distinct there]
  · rintro ⟨attr, f, there, given, rfl⟩
    refine ⟨attr, List.mem_filter.2 ⟨List.mem_map_of_mem there, by simpa using given⟩, ?_⟩
    rw [nameUnder_of_mem distinct there]

end InputType

theorem InputScalar.distinct_operatorType (s : InputScalar) :
    Ordered.Distinct s.operatorType.fields := by
  rw [Ordered.Distinct]
  cases s <;> decide

/-- The inputs of an operator type are maps from the names of its operators. -/
theorem InputScalar.exists_toValue_record (s : InputScalar) (held : String → Input) :
    ∃ entries, (s.operatorType.record held).toValue = .map entries ∧
      ∀ entry ∈ entries, ∃ op ∈ s.kind.operators, entry.1 = .text op.name := by
  rw [InputType.record, Input.toValue, Input.fieldValues_map]
  refine ⟨_, rfl, fun entry there => ?_⟩
  -- whatever is written over an entry, its key has been written for some attribute
  obtain ⟨written, -⟩ := Ordered.mem_ofEntries there
  obtain ⟨written, among, same⟩ := List.mem_map.1 written
  obtain ⟨attr, chosen, rfl⟩ := List.mem_map.1 among
  obtain ⟨⟨_, f⟩, field, rfl⟩ := List.mem_map.1 (List.mem_filter.1 chosen).1
  have named : f.name ∈ s.operatorType.fields.map fun field => field.2.name :=
    List.mem_map_of_mem field
  rw [names_operatorType] at named
  obtain ⟨op, admitted, name⟩ := List.mem_map.1 named
  refine ⟨op, admitted, ?_⟩
  rw [← same, InputType.nameUnder_of_mem s.distinct_operatorType field, name]

end ListQuery
