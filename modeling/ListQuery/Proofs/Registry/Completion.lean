import ListQuery.Registry.Basic

/-!
# Complete entries

The entry of an entity is completed by attaching its relations one at a time to a
specification that was made of the scalar fields alone. It comes to the same as making the
specifications of all the fields in one go: an entry is in step if its specifications have
the slots that its fields give, and attaching a field keeps it in step.

Of the fields of a registration only the last of each name is kept, so that the fields of an
entity have different names, and it does not matter in which order they are searched.

## Main definitions

* `Field.slots` lists the slots for some of the fields of an entity.
* `Registry.Entry.InStep` says that the specifications of an entry fit its fields.
* `Registry.lastOccurrences` picks the last field of each name, by position.
* `Registry.completeFields` are the fields of an entity in the end.

## Main results

* `Registry.Entry.InStep.attach`, `Registry.Entry.InStep.complete`: entries stay in step.
* `Registry.lastOccurrences_eq`: what is kept of the fields of a registration.
* `Field.find?_slots`: under a name there is the slot of the field of that name.
* `Registry.resolved_of_pending`: relations lead somewhere where nothing is dangling.
-/

namespace ListQuery

namespace Field

/-! ## Slots -/

/-- Two fields have different names. -/
def Apart (f g : Field) : Prop := (f.name == g.name) = false

theorem Apart.symm {f g : Field} (apart : f.Apart g) : g.Apart f := by
  rwa [Apart, BEq.comm]

variable {α : Type} {wanted : Field → Bool} {slot : Field → α} {fields : List Field}

/-- The slots for the wanted ones among the fields of an entity. -/
def slots (wanted : Field → Bool) (slot : Field → α) (fields : List Field) : Ordered Value α :=
  Ordered.ofEntries <| (fields.filter wanted).map fun f => (f.name, slot f)

theorem slots_concat (fields : List Field) (f : Field) :
    slots wanted slot (fields ++ [f]) =
      if wanted f then Ordered.insert f.name (slot f) (slots wanted slot fields)
      else slots wanted slot fields := by
  rw [slots, List.filter_append]
  split
  · next chosen =>
    rw [List.filter_cons_of_pos chosen, List.filter_nil, List.map_append]
    exact Ordered.ofEntries_concat _ _ _
  · next left =>
    rw [List.filter_cons_of_neg left, List.filter_nil, List.append_nil]
    rfl

/-- Fields with different names have a slot each, in their order. -/
theorem slots_of_apart (apart : fields.Pairwise Apart) :
    slots wanted slot fields = (fields.filter wanted).map fun f => (f.name, slot f) := by
  apply Ordered.ofEntries_of_distinct
  rw [Ordered.Distinct, Ordered.keys, List.map_map, List.pairwise_map]
  exact apart.filter wanted

theorem mem_of_mem_slots (apart : fields.Pairwise Apart) {key : Value} {x : α}
    (there : (key, x) ∈ slots wanted slot fields) : ∃ f ∈ fields, slot f = x := by
  rw [slots_of_apart apart, List.mem_map] at there
  obtain ⟨f, chosen, same⟩ := there
  exact ⟨f, (List.mem_filter.1 chosen).1, (Prod.mk.inj same).2⟩

/-- Where names differ, a field is found among the wanted ones if it is found at all and is
wanted. -/
theorem find?_filter_of_apart (apart : fields.Pairwise Apart) (name : Value) :
    (fields.filter wanted).find? (fun f => f.name == name) =
      (fields.find? fun f => f.name == name).filter wanted := by
  induction apart with
  | nil => rfl
  | @cons f rest first later ih =>
    cases named : f.name == name with
    | false =>
      rw [List.find?_cons_of_neg (by simp [named]), ← ih]
      by_cases chosen : wanted f = true
      · rw [List.filter_cons_of_pos chosen, List.find?_cons_of_neg (by simp [named])]
      · rw [List.filter_cons_of_neg chosen]
    | true =>
      have here : (f :: rest).find? (fun g => g.name == name) = some f :=
        List.find?_cons_of_pos named
      rw [here]
      by_cases chosen : wanted f = true
      · rw [List.filter_cons_of_pos chosen, Option.filter_some, if_pos chosen]
        exact List.find?_cons_of_pos named
      · rw [List.filter_cons_of_neg chosen, Option.filter_some, if_neg chosen, List.find?_eq_none]
        -- no later field has the name, as it would have the name of the first one
        intro g there again
        have same : (f.name == g.name) = true := BEq.trans named (BEq.symm again)
        have apart : (f.name == g.name) = false := first g (List.mem_filter.1 there).1
        rw [same] at apart
        cases apart

theorem find?_slots (apart : fields.Pairwise Apart) (name : Value) :
    Ordered.find? name (slots wanted slot fields) =
      ((fields.find? fun f => f.name == name).filter wanted).map slot := by
  rw [slots_of_apart apart, Ordered.find?_eq, List.find?_map, Option.map_map,
    ← find?_filter_of_apart apart]
  rfl

/-- What stands under a key is the slot of a wanted field with this name. -/
theorem exists_of_find?_slots (apart : fields.Pairwise Apart) {key : Value} {x : α}
    (found : Ordered.find? key (slots wanted slot fields) = some x) :
    ∃ f ∈ fields, (f.name == key) = true ∧ wanted f = true ∧ slot f = x := by
  rw [find?_slots apart, Option.map_eq_some_iff] at found
  obtain ⟨f, kept, same⟩ := found
  obtain ⟨first, chosen⟩ := Option.filter_eq_some_iff.1 kept
  have named := List.find?_some first
  exact ⟨f, List.mem_of_find?_eq_some first, named, chosen, same⟩

end Field

/-- The entity to which the filterable relation of a name leads. -/
def EntitySpec.leadsTo? (spec : EntitySpec) (name : Value) : Option Value :=
  ((spec.field? name).filter Field.filterable).bind Field.target?

theorem EntitySpec.exists_of_leadsTo {spec : EntitySpec} {name target : Value}
    (leads : spec.leadsTo? name = some target) : ∃ f ∈ spec.fields, f.target? = some target := by
  obtain ⟨f, found, there⟩ := Option.bind_eq_some_iff.1 leads
  have named := (Option.filter_eq_some_iff.1 found).1
  exact ⟨f, List.mem_of_find?_eq_some named, there⟩

/-- The relations of the filter specification of an entity lead where its fields do. -/
theorem FilterSpec.target?_eq {filter : FilterSpec} {spec : EntitySpec}
    (apart : spec.fields.Pairwise Field.Apart)
    (slots : filter.slots = (FilterSpec.ofEntity spec).slots) (name : Value) :
    filter.target? name = spec.leadsTo? name := by
  have found : Ordered.find? name filter.slots =
      ((spec.field? name).filter Field.filterable).map FilterSlot.ofField := by
    rw [slots]
    exact Field.find?_slots apart name
  rw [FilterSpec.target?, EntitySpec.leadsTo?, found]
  cases (spec.field? name).filter Field.filterable with
  | none => rfl
  | some f =>
    rw [Option.map_some, Option.bind_some, FilterSlot.ofField]
    cases f.target? <;> rfl

theorem SortSlot.target?_of_ofField {f : Field} {target : Value}
    (ref : SortSlot.ofField f = .ref target) : f.target? = some target := by
  rw [SortSlot.ofField] at ref
  cases leads : f.target? with
  | none => rw [leads] at ref; cases ref
  | some other => rw [leads] at ref; cases ref; rfl

theorem FilterSlot.target?_of_ofField {f : Field} {target : Value}
    (ref : FilterSlot.ofField f = .ref target) : f.target? = some target := by
  rw [FilterSlot.ofField] at ref
  cases leads : f.target? with
  | none => rw [leads] at ref; cases ref
  | some other => rw [leads] at ref; cases ref; rfl

namespace Registry

/-! ## Attaching relations -/

namespace Entry

/-- The specifications of an entry have the slots that its fields give. -/
structure InStep (entry : Entry) : Prop where
  sort : entry.sort.slots = (SortSpec.ofEntity entry.spec).slots
  filter : entry.filter.slots = (FilterSpec.ofEntity entry.spec).slots

theorem inStep_collecting (name : Value) (fields : List Field) :
    (collecting name fields).InStep := ⟨rfl, rfl⟩

/-- Attaching a field adds the slots that one gets by projecting it with all the others. -/
theorem InStep.attach {entry : Entry} (inStep : entry.InStep) (f : Field) :
    (entry.attach f).InStep := by
  have sort : (SortSpec.ofEntity (entry.attach f).spec).slots =
      if f.sortable then Ordered.insert f.name (.ofField f) (SortSpec.ofEntity entry.spec).slots
      else (SortSpec.ofEntity entry.spec).slots := Field.slots_concat entry.spec.fields f
  have filter : (FilterSpec.ofEntity (entry.attach f).spec).slots =
      if f.filterable then
        Ordered.insert f.name (.ofField f) (FilterSpec.ofEntity entry.spec).slots
      else (FilterSpec.ofEntity entry.spec).slots := Field.slots_concat entry.spec.fields f
  constructor
  · rw [sort, ← inStep.sort, Entry.attach]
    by_cases chosen : f.sortable = true
    · rw [if_pos chosen, if_pos chosen]
    · rw [if_neg chosen, if_neg chosen]
  · rw [filter, ← inStep.filter, Entry.attach]
    by_cases chosen : f.filterable = true
    · rw [if_pos chosen, if_pos chosen]
    · rw [if_neg chosen, if_neg chosen]

theorem InStep.attachAll (fields : List Field) :
    ∀ {entry : Entry}, entry.InStep → (fields.foldl Entry.attach entry).InStep := by
  induction fields with
  | nil => exact id
  | cons f rest ih => exact fun inStep => ih (inStep.attach f)

theorem fields_attachAll (fields : List Field) :
    ∀ entry : Entry, (fields.foldl attach entry).spec.fields = entry.spec.fields ++ fields := by
  induction fields with
  | nil => exact fun entry => (List.append_nil _).symm
  | cons f rest ih =>
    intro entry
    rw [List.foldl_cons, ih, attach, List.append_assoc, List.singleton_append]

/-- Attaching relations changes nothing of the specifications but their slots. -/
theorem heads_attachAll (fields : List Field) :
    ∀ entry : Entry, (fields.foldl attach entry).sort.entity = entry.sort.entity ∧
      (fields.foldl attach entry).filter =
        { entry.filter with slots := (fields.foldl attach entry).filter.slots } := by
  induction fields with
  | nil => exact fun _ => ⟨rfl, rfl⟩
  | cons f rest ih =>
    intro entry
    obtain ⟨sort, filter⟩ := ih (entry.attach f)
    rw [List.foldl_cons, sort, filter, attach]
    dsimp only
    constructor
    · split <;> rfl
    · split <;> rfl

/-- Completing an entry keeps it in step: nothing but names changes beside the attached
relations. -/
theorem InStep.complete {entry : Entry} (inStep : entry.InStep) (owner : Value) :
    (entry.complete owner).InStep :=
  have attached := inStep.attachAll entry.pending
  ⟨attached.sort, attached.filter⟩

theorem fields_complete (entry : Entry) (owner : Value) :
    (entry.complete owner).spec.fields = entry.spec.fields ++ entry.pending :=
  fields_attachAll entry.pending entry

end Entry

/-! ## Which fields are kept -/

/-- The fields that no later field of the same name follows, in their order. -/
def lastOccurrences (fields : List Field) : List Field :=
  (fields.zipIdx.filter fun (f, i) =>
    (fields.drop (i + 1)).all fun later => !(later.name == f.name)).map Prod.fst

/-- The fields that an entity has in the end: what is kept of the scalar fields of a
registration, and then of its relations. -/
def completeFields (fields : List Field) : List Field :=
  (lastOccurrences fields).filter (fun f => !f.isRelation) ++
    (lastOccurrences fields).filter Field.isRelation

/-- What registering keeps are the last fields of each name, each in its place. -/
theorem lastOccurrences_eq (fields : List Field) :
    lastOccurrences fields = lastOfEachName fields := by
  induction fields with
  | nil => rfl
  | cons f rest ih =>
    -- the later positions are those in the rest, moved by one
    have moved : ((rest.zipIdx 1).filter fun (g, i) =>
        ((f :: rest).drop (i + 1)).all fun later => !(later.name == g.name)).map Prod.fst =
        lastOccurrences rest := by
      rw [List.zipIdx_succ, List.filter_map, List.map_map]
      rfl
    have unfolded : lastOccurrences (f :: rest) =
        if (rest.all fun later => !(later.name == f.name)) then f :: lastOccurrences rest
        else lastOccurrences rest := by
      rw [lastOccurrences, List.zipIdx_cons, ← moved]
      cases alone : rest.all fun later => !(later.name == f.name) with
      | true => rw [List.filter_cons_of_pos (by exact alone)]; rfl
      | false => rw [List.filter_cons_of_neg (by simp [alone])]; rfl
    rw [unfolded, lastOfEachName, ih, ← List.not_any_eq_all_not]
    cases rest.any fun later => later.name == f.name <;> rfl

theorem mem_of_mem_lastOfEachName {fields : List Field} {f : Field}
    (kept : f ∈ lastOfEachName fields) : f ∈ fields := by
  induction fields with
  | nil => exact kept
  | cons g rest ih =>
    rw [lastOfEachName] at kept
    split at kept
    · exact List.mem_cons_of_mem g (ih kept)
    · rcases List.mem_cons.1 kept with rfl | later
      · exact List.mem_cons_self
      · exact List.mem_cons_of_mem g (ih later)

theorem lastOfEachName_apart (fields : List Field) :
    (lastOfEachName fields).Pairwise Field.Apart := by
  induction fields with
  | nil => exact List.Pairwise.nil
  | cons f rest ih =>
    rw [lastOfEachName]
    split
    · exact ih
    · next alone =>
      rw [Bool.not_eq_true, List.any_eq_false] at alone
      refine List.pairwise_cons.2 ⟨fun g kept => ?_, ih⟩
      have apart : (g.name == f.name) = false := by
        simpa using alone g (mem_of_mem_lastOfEachName kept)
      exact Field.Apart.symm apart

/-- The fields of an entity have different names in the end. -/
theorem completeFields_apart (fields : List Field) :
    (completeFields fields).Pairwise Field.Apart := by
  have reordered : (completeFields fields).Perm (lastOfEachName fields) := by
    rw [completeFields, lastOccurrences_eq]
    have split := List.filter_append_perm Field.isRelation (lastOfEachName fields)
    exact List.perm_append_comm.trans split
  exact (reordered.pairwise_iff Field.Apart.symm).2 (lastOfEachName_apart fields)

theorem fields_complete_collecting (name owner : Value) (fields : List Field) :
    ((Entry.collecting name fields).complete owner).spec.fields = completeFields fields := by
  rw [Entry.fields_complete, completeFields, lastOccurrences_eq]
  rfl

/-- A field of a complete entity that leads somewhere was pending before. -/
theorem pending_of_target (name : Value) {target : Value} {fields : List Field} {f : Field}
    (there : f ∈ completeFields fields) (leads : f.target? = some target) :
    f ∈ (Entry.collecting name fields).pending := by
  have relation : f.isRelation = true := by
    rw [Field.target?] at leads
    rw [Field.isRelation, FieldKind.isRelation, leads, Option.isSome_some]
  rw [completeFields, lastOccurrences_eq, List.mem_append, List.mem_filter, relation] at there
  rcases there with ⟨-, impossible⟩ | kept
  · cases impossible
  · exact kept

/-! ## Resolution -/

/-- Where nothing is dangling, what a pending relation leads to is registered. -/
theorem resolved_of_pending {r : Registry} (resolved : r.dangling? = none) {owner : Value}
    {entry : Entry} (there : (owner, entry) ∈ r.entries) {f : Field} (pending : f ∈ entry.pending)
    {target : Value} (leads : f.target? = some target) :
    target.changeable? = none ∧ r.has target = true := by
  rw [dangling?, List.findSome?_eq_none_iff] at resolved
  have clean := resolved (owner, entry) there
  rw [danglingField?, List.findSome?_eq_none_iff] at clean
  have faultless := clean f pending
  rw [leads, Option.bind_some, targetFault?] at faultless
  cases asked : target.asKey with
  | error e => rw [asked] at faultless; cases faultless
  | ok key =>
    obtain ⟨fit, rfl⟩ := Value.asKey_eq_ok_iff.1 asked
    cases known : r.has target with
    | true => exact ⟨fit, rfl⟩
    | false => simp [asked, known] at faultless

end Registry

end ListQuery
