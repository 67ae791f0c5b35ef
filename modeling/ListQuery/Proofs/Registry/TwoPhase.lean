import ListQuery.Proofs.Registry.Completion
import ListQuery.Proofs.Registry.History

/-!
# Registering in two phases

However entities are registered, and however often, and whatever fails in between: once a
registry is finalized, each entity is what its last registration makes of it in one go. Its
fields are those that the registration carried, each name as it came last, with the scalar
fields before the relations. Its specifications have the slots of all its fields, and their
references name entities of which the same can be said, around any circle of relations.

## Main definitions

* `Registry.Complete` says that a registry knows an entity by its last registration.

## Main results

* `Registry.Finalized.complete`: entities are complete after finalizing.
* `Registry.Finalized.target`: so are the entities to which their fields lead.
-/

namespace ListQuery.Registry

/-- All that an entry is made of has the name of an entity, however the name is written, and its
filter specification has all combinators. -/
structure Entry.IsNamed (name : Value) (entry : Entry) : Prop where
  spec : (entry.spec.name == name) = true
  sort : (entry.sort.entity == name) = true
  filter : (entry.filter.entity == name) = true
  supportsAnd : entry.filter.supportsAnd = true
  supportsOr : entry.filter.supportsOr = true

/-- A registry knows an entity by the fields of its last registration: the complete list of
these fields is looked up, and specifications with the slots of all of them. -/
structure Complete (past : List (Value × List Field)) (r : Registry) (name : Value)
    (fields : List Field) (entry : Entry) : Prop where
  last : lastFields? past name = some fields
  known : r.entry name = .ok entry
  named : entry.IsNamed name
  fields : entry.spec.fields = completeFields fields
  inStep : entry.InStep

variable {config : Config} {past : List (Value × List Field)} {r : Registry} {name : Value}
  {fields : List Field} {entry : Entry}

/-! ## What is known of an entity -/

theorem fit_of_entry (known : r.entry name = .ok entry) : name.changeable? = none := by
  rw [Registry.entry, Value.asKey] at known
  cases fit : name.changeable? with
  | none => rfl
  | some part => rw [fit] at known; cases known

/-- What is found in a registry is found by a key. -/
theorem find?_of_entry (known : r.entry name = .ok entry) :
    r.finalized = true ∧ Ordered.find? name r.entries = some entry := by
  have key := Value.mapError_asKey_of_fit (fit_of_entry known) LookupError.unfit
  rw [Registry.entry, key] at known
  simp only [bind, Except.bind] at known
  split at known
  · cases known
  · next found =>
    split at known
    · next finalized =>
      cases known
      exact ⟨finalized, found⟩
    · cases known

/-- An entity that is complete is looked up, and its specifications are. -/
theorem Complete.entity (complete : Complete past r name fields entry) :
    r.entity name = .ok entry.spec := by
  rw [Registry.entity, complete.known]
  rfl

theorem Complete.sortSpec (complete : Complete past r name fields entry) :
    r.sortSpec name = .ok entry.sort := by
  rw [Registry.sortSpec, complete.known]
  rfl

theorem Complete.filterSpec (complete : Complete past r name fields entry) :
    r.filterSpec name = .ok entry.filter := by
  rw [Registry.filterSpec, complete.known]
  rfl

/-- References that name the entity lead to its specifications. -/
theorem Complete.sortRef (complete : Complete past r name fields entry) :
    r.sortRef? name = some entry.sort := by
  rw [sortRef?, (find?_of_entry complete.known).2, Option.map_some]

theorem Complete.filterRef (complete : Complete past r name fields entry) :
    r.filterRef? name = some entry.filter := by
  rw [filterRef?, (find?_of_entry complete.known).2, Option.map_some]

theorem entry_completed (fit : name.changeable? = none)
    (found : Ordered.find? name r.completed.entries = some entry) :
    r.completed.entry name = .ok entry := by
  simp only [Registry.entry, Value.mapError_asKey_of_fit fit, bind, Except.bind, found]
  rfl

/-- The entries that are collected are those of the last registrations. -/
theorem find?_collected (config : Config) (past : List (Value × List Field)) (name : Value) :
    Ordered.find? name (collected config past).entries =
      (past.reverse.find? fun entry => entry.1 == name).map fun entry =>
        Entry.collecting entry.1 entry.2 := by
  rw [collected, Ordered.find?_ofEntries, ← List.map_reverse, Ordered.find?_map]

theorem has_collected (config : Config) (past : List (Value × List Field)) (name : Value) :
    (collected config past).has name = (lastFields? past name).isSome := by
  rw [has, Ordered.has, find?_collected, Option.isSome_map, lastFields?, Ordered.find?_eq,
    Option.isSome_map]

/-- Finalizing completes the entry that the last registration of a name left behind. The entry
carries the name as it was written last, and is completed under the name as it was written
first. -/
theorem find?_completed (config : Config) (last : lastFields? past name = some fields) :
    ∃ latest owner, (latest, fields) ∈ past ∧ (latest == name) = true ∧ (owner == name) = true ∧
      (owner, Entry.collecting latest fields) ∈ (collected config past).entries ∧
      Ordered.find? name (collected config past).completed.entries =
        some ((Entry.collecting latest fields).complete owner) := by
  rw [lastFields?, Ordered.find?_eq, Option.map_eq_some_iff] at last
  obtain ⟨⟨latest, fields⟩, there, rfl⟩ := last
  have collecting := find?_collected config past name
  rw [there, Option.map_some, Ordered.find?_eq, Option.map_eq_some_iff] at collecting
  obtain ⟨⟨owner, entry⟩, among, rfl⟩ := collecting
  have named := List.find?_some there
  have owned := List.find?_some among
  refine ⟨latest, owner, List.mem_reverse.1 (List.mem_of_find?_eq_some there), named, owned,
    List.mem_of_find?_eq_some among, ?_⟩
  rw [completed, Ordered.find?_map, among, Option.map_some]

/-- Completing an entry leaves the heads of its specifications as they are; the entity is known by
either writing of its name. -/
theorem isNamed_complete_collecting {latest owner : Value} (fields : List Field)
    (named : (latest == name) = true) (owned : (owner == name) = true) :
    ((Entry.collecting latest fields).complete owner).IsNamed name := by
  obtain ⟨sort, filter⟩ := Entry.heads_attachAll (Entry.collecting latest fields).pending
    (Entry.collecting latest fields)
  rw [Entry.complete]
  constructor
  · dsimp only
    split
    · exact named
    · exact owned
  · rw [sort]
    exact named
  · rw [filter]
    exact named
  · rw [filter]
    rfl
  · rw [filter]
    rfl

/-- In a finalized registry, an entity that was ever registered is complete. -/
theorem Finalized.complete (final : Finalized config past r)
    (last : lastFields? past name = some fields) :
    ∃ entry, Complete past r name fields entry := by
  obtain ⟨fit, -, rfl⟩ := final
  obtain ⟨latest, owner, there, same, owned, -, found⟩ := find?_completed config last
  have key : name.changeable? = none :=
    Value.changeable?_eq_none_of_beq same (fit (latest, fields) there)
  exact ⟨(Entry.collecting latest fields).complete owner, last, entry_completed key found,
    isNamed_complete_collecting fields same owned, fields_complete_collecting latest owner fields,
    (Entry.inStep_collecting latest fields).complete owner⟩

/-- What is looked up in a finalized registry is complete. -/
theorem Finalized.exists_complete (final : Finalized config past r)
    (known : r.entry name = .ok entry) : ∃ fields entry, Complete past r name fields entry := by
  obtain ⟨-, found⟩ := find?_of_entry known
  rw [final.state, completed, Ordered.find?_map, Option.map_eq_some_iff] at found
  obtain ⟨collecting, there, -⟩ := found
  have collected : Ordered.find? name (collected config past).entries = some collecting.2 := by
    rw [Ordered.find?_eq, there, Option.map_some]
  rw [find?_collected, Option.map_eq_some_iff] at collected
  obtain ⟨registered, last, -⟩ := collected
  have last : lastFields? past name = some registered.2 := by
    rw [lastFields?, Ordered.find?_eq, last, Option.map_some]
  exact ⟨registered.2, final.complete last⟩

theorem Complete.apart (complete : Complete past r name fields entry) :
    entry.spec.fields.Pairwise Field.Apart := by
  rw [complete.fields]
  exact completeFields_apart fields

/-! ## Where relations lead -/

/-- The entity to which a field of a complete entity leads is complete. -/
theorem Finalized.target (final : Finalized config past r)
    (complete : Complete past r name fields entry) {f : Field} (there : f ∈ entry.spec.fields)
    {target : Value} (leads : f.target? = some target) :
    ∃ fields next, Complete past r target fields next := by
  rw [complete.fields] at there
  -- the field was pending when the relations were checked, so its target is registered
  obtain ⟨latest, owner, -, -, -, among, -⟩ := find?_completed config complete.last
  have pending := pending_of_target latest there leads
  obtain ⟨-, known⟩ := resolved_of_pending final.resolved among pending leads
  rw [has, Ordered.has, find?_collected, Option.isSome_map, Option.isSome_iff_exists] at known
  obtain ⟨⟨other, fields⟩, found⟩ := known
  have last : lastFields? past target = some fields := by
    rw [lastFields?, Ordered.find?_eq, found, Option.map_some]
  obtain ⟨next, completeNext⟩ := final.complete last
  exact ⟨fields, next, completeNext⟩

end ListQuery.Registry
