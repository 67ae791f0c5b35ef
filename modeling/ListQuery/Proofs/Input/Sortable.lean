import ListQuery.Input.Types
import ListQuery.Proofs.Registry.Agreement
import Mathlib.Data.List.Basic
import Mathlib.Logic.Relation

/-!
# Which entities can be sorted

An entity can be sorted if it has a scalar field to sort by, or a relation to sort by that leads
to an entity which can be sorted. Relations may go round in circles, and a circle without such a
scalar anywhere makes none of its entities sortable: what is meant is the least set of entities,
those from which finitely many relations lead to a scalar.

The set is found by going over all entities again and again, until a pass adds nothing. Each
pass but the last adds an entity that was not known before, so there are no more passes than
entities. Taking as many rounds as there are entities, each of which starts from the entities of
the round before, leads to the same set.

Either way two things hold of the result: its entities can be sorted, and it has all entities
with a scalar to sort by or with a relation to one of its own. There is one set of which both hold.

## Main definitions

* `Registry.CanBeSorted` says that relations lead from an entity to a scalar to sort by.
* `Registry.saturate` goes over the entities until nothing is added.
* `Registry.Supported` and `Registry.Saturated` are the two properties of the result.

## Main results

* `Registry.Supported.hasInput_iff`, `Registry.Supported.contains_iff`: a supported and saturated
  set is that of the sortable entities.
* `Registry.saturated_sortableEntities`: as many rounds as entities are enough.
* `Registry.saturated_saturate`: so are passes until nothing is added.
-/

namespace ListQuery.Registry

/-- An entity has a scalar field to sort by. -/
def Entry.HasSortScalar (entry : Entry) : Prop :=
  ∃ f ∈ entry.spec.fields, f.sortable = true ∧ f.target? = none

/-- A relation to sort by leads from one entity to another. -/
def SortsThrough (r : Registry) (entry next : Entry) : Prop :=
  ∃ f ∈ entry.spec.fields, f.sortable = true ∧
    ∃ target, f.target? = some target ∧ Ordered.find? target r.entries = some next

/-- Any number of relations to sort by lead from an entity to one with a scalar to sort by. -/
def CanBeSorted (r : Registry) (entry : Entry) : Prop :=
  ∃ last, Relation.ReflTransGen r.SortsThrough entry last ∧ last.HasSortScalar

/-- Whether the type for the sort orders of an entity would have a field, if the known entities
can be sorted. -/
def Entry.hasInput (known : List Value) (entry : Entry) : Bool :=
  entry.sort.slots.any fun slot => (slot.2.inputRef? known).isSome

/-! ## Passes over the entities -/

/-- Whether a name is listed, written as it is. -/
def isListed (name : Value) (names : List Value) : Bool := names.any fun other => other = name

theorem isListed_iff {name : Value} {names : List Value} :
    isListed name names = true ↔ name ∈ names := by
  simp [isListed]

/-- The entities that are known to be sortable, and whether one was added on the way. -/
structure SortPass where
  known : List Value
  changed : Bool

/-- Adds an entity that is not known yet and has a field. -/
def SortPass.visit (pass : SortPass) (entry : Value × Entry) : SortPass :=
  if isListed entry.1 pass.known then pass
  else if entry.2.hasInput pass.known then ⟨pass.known ++ [entry.1], true⟩
  else pass

/-- Goes over some entities. An entity that is added counts for those after it. -/
def SortPass.visitAll (pass : SortPass) (entries : List (Value × Entry)) : SortPass :=
  entries.foldl SortPass.visit pass

namespace SortPass

theorem visit_cases (pass : SortPass) (entry : Value × Entry) :
    (pass.visit entry = pass ∧ (entry.1 ∈ pass.known ∨ entry.2.hasInput pass.known = false)) ∨
      (entry.1 ∉ pass.known ∧ entry.2.hasInput pass.known = true ∧
        pass.visit entry = ⟨pass.known ++ [entry.1], true⟩) := by
  rw [visit]
  by_cases there : entry.1 ∈ pass.known
  · exact Or.inl ⟨if_pos (isListed_iff.2 there), Or.inl there⟩
  · rw [if_neg (mt isListed_iff.1 there)]
    cases has : entry.2.hasInput pass.known with
    | true => exact Or.inr ⟨there, rfl, if_pos rfl⟩
    | false => exact Or.inl ⟨if_neg Bool.false_ne_true, Or.inr rfl⟩

/-- What is known stays known. -/
theorem subset_visitAll (entries : List (Value × Entry)) :
    ∀ pass : SortPass, pass.known ⊆ (pass.visitAll entries).known := by
  induction entries with
  | nil => exact fun pass => List.Subset.refl _
  | cons entry rest ih =>
    intro pass
    have later := ih (pass.visit entry)
    rcases pass.visit_cases entry with ⟨same, -⟩ | ⟨-, -, added⟩
    · rw [same] at later
      rw [visitAll, List.foldl_cons, same]
      exact later
    · -- an entity is added behind those that were known
      refine List.Subset.trans ?_ later
      rw [added]
      exact List.subset_append_left _ _

/-- A pass that has changed something has added an entity. -/
theorem exists_added (entries : List (Value × Entry)) :
    ∀ {pass : SortPass}, pass.changed = false → (pass.visitAll entries).changed = true →
      ∃ entry ∈ entries, entry.1 ∉ pass.known ∧ entry.1 ∈ (pass.visitAll entries).known := by
  induction entries with
  | nil =>
    intro pass before after
    rw [visitAll, List.foldl_nil, before] at after
    cases after
  | cons entry rest ih =>
    intro pass before after
    rcases pass.visit_cases entry with ⟨same, -⟩ | ⟨new, -, added⟩
    · -- nothing was added here, so that it was added by the rest of the pass
      rw [visitAll, List.foldl_cons, same] at after ⊢
      obtain ⟨other, there, fresh, found⟩ := ih before after
      exact ⟨other, List.mem_cons_of_mem _ there, fresh, found⟩
    · -- this entity was added, and the rest of the pass keeps it
      have kept := subset_visitAll rest (pass.visit entry)
      refine ⟨entry, List.mem_cons_self, new, kept ?_⟩
      rw [added]
      exact List.mem_append_right _ List.mem_cons_self

/-- A pass that changes nothing knows every entity that has a field. -/
theorem mem_of_unchanged (entries : List (Value × Entry)) :
    ∀ {pass : SortPass}, (pass.visitAll entries).changed = false →
      pass.visitAll entries = pass ∧
        ∀ entry ∈ entries, entry.2.hasInput pass.known = true → entry.1 ∈ pass.known := by
  -- a change is never taken back, so an addition would show in the end
  have lasting (entries : List (Value × Entry)) : ∀ pass : SortPass, pass.changed = true →
      (pass.visitAll entries).changed = true := by
    induction entries with
    | nil => exact fun _ => id
    | cons entry rest ih =>
      intro pass changed
      refine ih (pass.visit entry) ?_
      rcases pass.visit_cases entry with ⟨same, -⟩ | ⟨-, -, added⟩
      · rw [same, changed]
      · rw [added]
  induction entries with
  | nil => exact fun _ => ⟨rfl, List.forall_mem_nil _⟩
  | cons entry rest ih =>
    intro pass unchanged
    rcases pass.visit_cases entry with ⟨same, known⟩ | ⟨-, -, added⟩
    · rw [visitAll, List.foldl_cons, same] at unchanged ⊢
      obtain ⟨kept, later⟩ := ih unchanged
      refine ⟨kept, List.forall_mem_cons.2 ⟨fun has => ?_, later⟩⟩
      rcases known with there | without
      · exact there
      · rw [without] at has
        cases has
    · -- an entity that is added leaves a change to the end of the pass
      have changed := lasting rest (pass.visit entry) (by rw [added])
      rw [visitAll, List.foldl_cons] at unchanged
      exact absurd (changed.symm.trans unchanged) (by decide)

/-- Whatever holds of the known entities, and of an entity with a field as soon as it holds of
the known ones, holds of those that are known after a pass. -/
theorem forall_known {p : Value → Prop} (entries : List (Value × Entry)) :
    ∀ {pass : SortPass}, (∀ name ∈ pass.known, p name) →
      (∀ known : List Value, (∀ name ∈ known, p name) → ∀ entry ∈ entries,
        entry.2.hasInput known = true → p entry.1) →
      ∀ name ∈ (pass.visitAll entries).known, p name := by
  induction entries with
  | nil => exact fun before _ => before
  | cons entry rest ih =>
    intro pass before step
    have visited : ∀ name ∈ (pass.visit entry).known, p name := by
      rcases pass.visit_cases entry with ⟨same, -⟩ | ⟨-, has, added⟩
      · rw [same]
        exact before
      · rw [added]
        intro name there
        rcases List.mem_append.1 there with known | new
        · exact before name known
        · rw [List.mem_singleton.1 new]
          exact step pass.known before entry List.mem_cons_self has
    exact ih visited fun known holds other there =>
      step known holds other (List.mem_cons_of_mem _ there)

end SortPass

/-- Goes over the entities of a registry. -/
def sortPass (r : Registry) (known : List Value) : SortPass :=
  SortPass.visitAll ⟨known, false⟩ r.entries

/-- The entities of a registry that are not known. -/
def unknown (r : Registry) (known : List Value) : List Value :=
  r.names.filter fun name => !isListed name known

theorem mem_unknown {r : Registry} {known : List Value} {name : Value} :
    name ∈ r.unknown known ↔ name ∈ r.names ∧ name ∉ known := by
  rw [unknown, List.mem_filter, Bool.not_eq_true', ← Bool.not_eq_true, isListed_iff]

/-- A pass that changes something leaves fewer entities unknown. -/
theorem unknown_lt_of_changed {r : Registry} {known : List Value}
    (changed : (r.sortPass known).changed = true) :
    (r.unknown (r.sortPass known).known).length < (r.unknown known).length := by
  obtain ⟨entry, there, fresh, found⟩ := SortPass.exists_added r.entries rfl changed
  have kept := SortPass.subset_visitAll r.entries ⟨known, false⟩
  have fewer : (r.unknown (r.sortPass known).known).Sublist (r.unknown known) := by
    refine List.monotone_filter_right _ fun name unlisted => ?_
    rw [Bool.not_eq_true', ← Bool.not_eq_true, isListed_iff] at unlisted ⊢
    exact fun before => unlisted (kept before)
  -- the added entity is among those that were unknown, and no longer among those that are
  have before : entry.1 ∈ r.unknown known := mem_unknown.2 ⟨List.mem_map_of_mem there, fresh⟩
  refine Nat.lt_of_le_of_ne fewer.length_le fun same => ?_
  rw [← fewer.eq_of_length same] at before
  exact (mem_unknown.1 before).2 found

/-- Goes over the entities until a pass changes nothing. -/
def saturate (r : Registry) (known : List Value) : List Value :=
  if (r.sortPass known).changed then r.saturate (r.sortPass known).known
  else (r.sortPass known).known
termination_by (r.unknown known).length
decreasing_by exact unknown_lt_of_changed ‹_›

/-! ## The entries of a finalized registry -/

variable {config : Config} {past : List (Value × List Field)} {r : Registry} {name : Value}
  {entry : Entry} {known : List Value}

theorem Finalized.distinct (final : Finalized config past r) : Ordered.Distinct r.entries := by
  have kept : Ordered.keys r.entries = Ordered.keys (collected config past).entries := by
    rw [final.state, completed, Ordered.keys, List.map_map]
    rfl
  rw [Ordered.Distinct, kept]
  exact Ordered.distinct_ofEntries _

/-- Every entry is the completion of one that was collected, even if its name is not found. -/
theorem Finalized.exists_collected (final : Finalized config past r)
    (there : (name, entry) ∈ r.entries) : ∃ latest fields,
      (name, Entry.collecting latest fields) ∈ (collected config past).entries ∧
        entry = (Entry.collecting latest fields).complete name := by
  rw [final.state, completed, List.mem_map] at there
  obtain ⟨⟨_, collecting⟩, among, same⟩ := there
  obtain ⟨rfl, rfl⟩ := Prod.mk.inj same
  obtain ⟨-, _, written, -⟩ := Ordered.mem_ofEntries among
  obtain ⟨⟨latest, fields⟩, -, both⟩ := List.mem_map.1 written
  obtain ⟨-, rfl⟩ := Prod.mk.inj both
  exact ⟨latest, fields, among, rfl⟩

theorem Finalized.apart (final : Finalized config past r) (there : (name, entry) ∈ r.entries) :
    entry.spec.fields.Pairwise Field.Apart := by
  obtain ⟨latest, fields, -, rfl⟩ := final.exists_collected there
  rw [fields_complete_collecting]
  exact completeFields_apart fields

theorem Finalized.inStep (final : Finalized config past r) (there : (name, entry) ∈ r.entries) :
    entry.InStep := by
  obtain ⟨latest, fields, -, rfl⟩ := final.exists_collected there
  exact (Entry.inStep_collecting latest fields).complete name

theorem Finalized.sort_slots (final : Finalized config past r)
    (there : (name, entry) ∈ r.entries) : entry.sort.slots =
      (entry.spec.fields.filter Field.sortable).map fun f => (f.name, SortSlot.ofField f) :=
  (final.inStep there).sort.trans (Field.slots_of_apart (final.apart there))

theorem Finalized.filter_slots (final : Finalized config past r)
    (there : (name, entry) ∈ r.entries) : entry.filter.slots =
      (entry.spec.fields.filter Field.filterable).map fun f => (f.name, FilterSlot.ofField f) :=
  (final.inStep there).filter.trans (Field.slots_of_apart (final.apart there))

/-- What a field of an entry leads to is registered, under a name that can be looked up. -/
theorem Finalized.exists_target (final : Finalized config past r)
    (there : (name, entry) ∈ r.entries) {f : Field} (among : f ∈ entry.spec.fields)
    {target : Value} (leads : f.target? = some target) :
    target.changeable? = none ∧ ∃ next, Ordered.find? target r.entries = some next := by
  obtain ⟨latest, fields, collecting, rfl⟩ := final.exists_collected there
  rw [fields_complete_collecting] at among
  -- the relation was pending before finalizing, which only ends where it is resolved
  have pending := pending_of_target latest among leads
  obtain ⟨fit, registered⟩ := resolved_of_pending final.resolved collecting pending leads
  rw [has_collected config, ← final.has_eq] at registered
  exact ⟨fit, Option.isSome_iff_exists.1 registered⟩

/-- Entries under names that are the same key are the same. -/
theorem Finalized.eq_of_beq (final : Finalized config past r) {other : Value} {next : Entry}
    (there : (name, entry) ∈ r.entries) (found : Ordered.find? other r.entries = some next)
    (same : (other == name) = true) : entry = next := by
  have key : (name == name) = true := BEq.trans (BEq.symm same) same
  have here := Ordered.find?_of_mem final.distinct there key
  rw [← Ordered.find?_congr same, found] at here
  exact (Option.some.inj here).symm

/-! ## The sortable entities -/

/-- All of the known names are names of entities that can be sorted. -/
def Supported (r : Registry) (known : List Value) : Prop :=
  ∀ name ∈ known, ∃ entry, (name, entry) ∈ r.entries ∧ r.CanBeSorted entry

/-- An entity that has a field if the known entities can be sorted is known. -/
def Saturated (r : Registry) (known : List Value) : Prop :=
  ∀ entry ∈ r.entries, entry.2.hasInput known = true → entry.1 ∈ known

/-- An entity has a field where it has a scalar to sort by, or a relation to a known entity. -/
theorem Finalized.hasInput_iff (final : Finalized config past r)
    (there : (name, entry) ∈ r.entries) : entry.hasInput known = true ↔
      ∃ f ∈ entry.spec.fields, f.sortable = true ∧
        ∀ target, f.target? = some target → known.contains target = true := by
  -- what the slot of a field takes
  have takes (f : Field) : ((SortSlot.ofField f).inputRef? known).isSome = true ↔
      ∀ target, f.target? = some target → known.contains target = true := by
    rw [SortSlot.ofField]
    cases f.target? with
    | none => simp [SortSlot.inputRef?]
    | some target => simp [SortSlot.inputRef?]
  rw [Entry.hasInput, final.sort_slots there, List.any_map, List.any_eq_true]
  constructor
  · rintro ⟨f, chosen, has⟩
    obtain ⟨among, sortable⟩ := List.mem_filter.1 chosen
    exact ⟨f, among, sortable, (takes f).1 has⟩
  · rintro ⟨f, among, sortable, leads⟩
    exact ⟨f, List.mem_filter.2 ⟨among, sortable⟩, (takes f).2 leads⟩

/-- An entity with a field for known entities that can be sorted can be sorted. -/
theorem Supported.canBeSorted (supported : r.Supported known) (final : Finalized config past r)
    (there : (name, entry) ∈ r.entries) (has : entry.hasInput known = true) :
    r.CanBeSorted entry := by
  obtain ⟨f, among, sortable, leads⟩ := (final.hasInput_iff there).1 has
  cases toward : f.target? with
  | none => exact ⟨entry, .refl, f, among, sortable, toward⟩
  | some target =>
    have listed := leads target toward
    obtain ⟨-, next, found⟩ := final.exists_target there among toward
    obtain ⟨other, counted, same⟩ := List.contains_iff_exists_mem_beq.1 listed
    obtain ⟨entry', there', last, path, scalar⟩ := supported other counted
    obtain rfl := final.eq_of_beq there' found same
    exact ⟨last, .head ⟨f, among, sortable, target, toward, found⟩ path, scalar⟩

/-- From a supported set a pass leads to a supported one. -/
theorem Supported.sortPass (supported : r.Supported known) (final : Finalized config past r) :
    r.Supported (r.sortPass known).known :=
  SortPass.forall_known r.entries supported fun _ holds entry there has =>
    ⟨entry.2, there, Supported.canBeSorted holds final there has⟩

/-- With a supported and saturated set it is the entities that can be sorted that have a
field. -/
theorem Supported.hasInput_iff (supported : r.Supported known) (saturated : r.Saturated known)
    (final : Finalized config past r) (there : (name, entry) ∈ r.entries) :
    entry.hasInput known = true ↔ r.CanBeSorted entry := by
  refine ⟨supported.canBeSorted final there, ?_⟩
  rintro ⟨last, path, f, among, sortable, scalar⟩
  -- backwards along the relations, from the entity with the scalar
  induction path using Relation.ReflTransGen.head_induction_on generalizing name with
  | refl =>
    refine (final.hasInput_iff there).2 ⟨f, among, sortable, fun target leads => ?_⟩
    rw [scalar] at leads
    cases leads
  | @head entry next step _ ih =>
    obtain ⟨g, amongHere, sortableHere, target, leads, found⟩ := step
    refine (final.hasInput_iff there).2 ⟨g, amongHere, sortableHere, fun target' leads' => ?_⟩
    obtain rfl : target = target' := Option.some.inj (leads.symm.trans leads')
    -- the next entity is counted by the induction, under the name by which it is registered
    rw [Ordered.find?_eq, Option.map_eq_some_iff] at found
    obtain ⟨⟨other, _⟩, first, rfl⟩ := found
    have thereNext := List.mem_of_find?_eq_some first
    have counted := saturated _ thereNext (ih thereNext)
    have same := List.find?_some first
    exact List.contains_iff_exists_mem_beq.2 ⟨other, counted, BEq.symm same⟩

/-- Such a set counts a name where it is that of an entity that can be sorted. -/
theorem Supported.contains_iff (supported : r.Supported known) (saturated : r.Saturated known)
    (final : Finalized config past r) (target : Value) : known.contains target = true ↔
      ∃ name entry, (name, entry) ∈ r.entries ∧ (target == name) = true ∧
        r.CanBeSorted entry := by
  rw [List.contains_iff_exists_mem_beq]
  constructor
  · rintro ⟨name, counted, same⟩
    obtain ⟨entry, there, sorted⟩ := supported name counted
    exact ⟨name, entry, there, same, sorted⟩
  · rintro ⟨name, entry, there, same, sorted⟩
    exact ⟨name, saturated _ there ((supported.hasInput_iff saturated final there).2 sorted), same⟩

/-! ## Passes until nothing is added -/

theorem Supported.saturate (final : Finalized config past r) (supported : r.Supported known) :
    r.Supported (r.saturate known) := by
  induction known using saturate.induct r with
  | case1 known changed ih =>
    rw [Registry.saturate, if_pos changed]
    exact ih (supported.sortPass final)
  | case2 known unchanged =>
    rw [Registry.saturate, if_neg unchanged]
    exact supported.sortPass final

/-- Passes until nothing is added leave nothing out. -/
theorem saturated_saturate (r : Registry) (known : List Value) :
    r.Saturated (r.saturate known) := by
  induction known using saturate.induct r with
  | case1 known changed ih =>
    rw [Registry.saturate, if_pos changed]
    exact ih
  | case2 known unchanged =>
    rw [Registry.saturate, if_neg unchanged]
    obtain ⟨same, all⟩ := SortPass.mem_of_unchanged r.entries (Bool.not_eq_true _ ▸ unchanged)
    rw [sortPass, same]
    exact all

/-! ## Rounds -/

theorem hasInput_mono {known more : List Value} (subset : known ⊆ more)
    (has : entry.hasInput known = true) : entry.hasInput more = true := by
  rw [Entry.hasInput, List.any_eq_true] at has ⊢
  obtain ⟨slot, there, takes⟩ := has
  refine ⟨slot, there, ?_⟩
  cases kind : slot.2 with
  | leaf => rfl
  | ref target =>
    simp only [kind, SortSlot.inputRef?, Option.isSome_ite] at takes ⊢
    obtain ⟨name, counted, same⟩ := List.contains_iff_exists_mem_beq.1 takes
    exact List.contains_iff_exists_mem_beq.2 ⟨name, subset counted, same⟩

theorem sortableThrough_mono {known more : List Value} (subset : known ⊆ more) :
    (r.sortableThrough known).Sublist (r.sortableThrough more) :=
  (List.monotone_filter_right _ fun _ => hasInput_mono subset).map _

/-- A round more finds no fewer entities. -/
theorem sortableWithin_mono (r : Registry) (rounds : Nat) :
    (r.sortableWithin rounds).Sublist (r.sortableWithin (rounds + 1)) := by
  induction rounds with
  | zero => exact List.nil_sublist _
  | succ rounds ih => exact sortableThrough_mono ih.subset

/-- Each round finds an entity more than the one before, until one finds the same. -/
theorem sortableWithin_grows (r : Registry) (rounds : Nat) :
    r.sortableWithin rounds = r.sortableWithin (rounds + 1) ∨
      rounds < (r.sortableWithin (rounds + 1)).length := by
  induction rounds with
  | zero =>
    cases first : r.sortableWithin 1 with
    | nil => exact Or.inl rfl
    | cons name rest => exact Or.inr (Nat.zero_lt_succ _)
  | succ rounds ih =>
    by_cases same : r.sortableWithin (rounds + 1) = r.sortableWithin (rounds + 2)
    · exact Or.inl same
    · rcases ih with before | long
      · -- rounds that start from the same entities find the same
        exact absurd (congrArg r.sortableThrough before) same
      · have more := r.sortableWithin_mono (rounds + 1)
        have longer := Nat.lt_of_le_of_ne more.length_le (mt more.eq_of_length same)
        exact Or.inr (by omega)

/-- As many rounds as there are entities leave nothing out. -/
theorem saturated_sortableEntities (r : Registry) : r.Saturated r.sortableEntities := by
  -- the last round cannot have found more than there are, so one more would find the same
  have stable : r.sortableEntities = r.sortableWithin (r.entries.length + 1) := by
    refine (r.sortableWithin_grows r.entries.length).resolve_right (Nat.not_lt.2 ?_)
    rw [sortableWithin, sortableThrough, Ordered.keys, List.length_map]
    exact List.length_filter_le _ _
  intro entry there has
  rw [stable]
  exact List.mem_map_of_mem (List.mem_filter.2 ⟨there, has⟩)

theorem supported_sortableWithin (final : Finalized config past r) (rounds : Nat) :
    r.Supported (r.sortableWithin rounds) := by
  induction rounds with
  | zero => exact List.forall_mem_nil _
  | succ rounds ih =>
    intro name counted
    obtain ⟨⟨_, entry⟩, chosen, rfl⟩ := List.mem_map.1 counted
    obtain ⟨there, has⟩ := List.mem_filter.1 chosen
    exact ⟨entry, there, ih.canBeSorted final there has⟩

/-- The entities that are found in that many rounds can be sorted. -/
theorem supported_sortableEntities (final : Finalized config past r) :
    r.Supported r.sortableEntities := supported_sortableWithin final _

end ListQuery.Registry
