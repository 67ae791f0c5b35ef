import ListQuery.Proofs.Registry.Completion
import ListQuery.Proofs.Registry.InPlace

/-!
# Finalizing in place

Where every relation leads to an entity, attaching them in place cannot fail: a specification
that is looked up belongs to an owner or to an entity that was checked, and all tables have the
same keys. So finalizing in place attaches all relations or none, and the tables show the
registry that finalizing returns.

The relations are attached owner by owner. In between, the tables show some entries that are
complete and others that are not, and this is what the induction carries along. No specification
leaves its cell meanwhile, so a reference that was made when its target was not complete yet holds
the complete one in the end, also where it is on a circle or leads back to its owner.

## Main definitions

* `Tables.SameCells` says that every name has kept its cells.

## Main results

* `Tables.on_checkAll`: the check finds the first relation that leads nowhere.
* `Tables.on_attachAll`: attaching completes the entries, one after the other.
* `Tables.mirrors_finalize`: finalizing in place does what finalizing does.
-/

namespace ListQuery

namespace Registry

/-- Whatever its notices, finalizing completes all entries, or it is refused for the first
relation that leads nowhere. -/
theorem value_finalize (r : Registry) :
    r.finalize.outcome.value =
      if r.finalized then .ok r
      else match r.dangling? with
        | some e => .error e
        | none => .ok r.completed := by
  rw [finalize]
  split
  · rfl
  · cases r.dangling? <;> rfl

end Registry

namespace Tables

open Registry (Entry)

variable {r : Registry} {t : Tables} {owner : Value} {α : Type}

theorem has_entities (shows : t.Shows r) (name : Value) :
    Ordered.has name t.entities = r.has name := by
  rw [shows.entities]
  exact Ordered.has_map_snd name Entry.spec r.entries

/-! ## Checking -/

/-- A relation is refused where it leads nowhere. -/
theorem on_checkRelation (known : ∀ key, Ordered.has key t.entities = r.has key)
    (owner : Value) (f : Field) :
    (checkRelation owner f).on t =
      match f.target?.bind (r.targetFault? owner f.name) with
      | some e => (.error (.refused e), t)
      | none => (.ok (), t) := by
  rw [checkRelation]
  cases f.target? with
  | none => rfl
  | some target =>
    simp only [Option.bind_some, Registry.targetFault?, InPlace.on_bind, InPlace.on_get]
    cases target.asKey with
    | error e => rfl
    | ok key =>
      have named {ε : Type} (f : UnfitKey → ε) : Except.mapError f (.ok key) = .ok key := rfl
      simp only [named, InPlace.on_refuse_ok, known]
      cases r.has key <;> rfl

/-- The check of an owner stops at the first of its relations that leads nowhere, and changes
nothing. -/
theorem on_checkRelations (known : ∀ key, Ordered.has key t.entities = r.has key)
    (owner : Value) (relations : List Field) :
    (checkRelations owner relations).on t =
      match r.danglingField? owner relations with
      | some e => (.error (.refused e), t)
      | none => (.ok (), t) := by
  induction relations with
  | nil => rfl
  | cons f rest ih =>
    rw [checkRelations, InPlace.on_bind, on_checkRelation known, Registry.danglingField?,
      List.findSome?_cons]
    cases f.target?.bind (r.targetFault? owner f.name) with
    | none => exact ih
    | some e => rfl

theorem on_checkAll (known : ∀ key, Ordered.has key t.entities = r.has key)
    (pending : Ordered Value (List Field)) :
    (checkAll pending).on t =
      match pending.findSome? fun entry => r.danglingField? entry.1 entry.2 with
      | some e => (.error (.refused e), t)
      | none => (.ok (), t) := by
  induction pending with
  | nil => rfl
  | cons entry rest ih =>
    rw [checkAll, InPlace.on_bind, on_checkRelations known, List.findSome?_cons]
    cases r.danglingField? entry.1 entry.2 with
    | none => exact ih
    | some e => rfl

/-! ## Attaching -/

/-- Tables with the same cells for the same names, and with the same relations pending. -/
structure SameCells (t after : Tables) : Prop where
  sorts : after.sortTable = t.sortTable
  filters : after.filterTable = t.filterTable
  pending : after.pending = t.pending
  finalized : after.finalized = t.finalized

theorem SameCells.trans {t between after : Tables} (first : SameCells t between)
    (second : SameCells between after) : SameCells t after where
  sorts := second.sorts.trans first.sorts
  filters := second.filters.trans first.filters
  pending := second.pending.trans first.pending
  finalized := second.finalized.trans first.finalized

theorem on_require {ε : Type} (table : Tables → Ordered Value α) {key : Value} {x : α}
    (found : Ordered.find? key (table t) = some x) :
    (require table key : InPlace ε α).on t = (.ok x, t) := by
  simp [require, found]

theorem on_load {ε σ : Type} {c : Cell} {spec : HeldSpec α σ} {specs : Tables → Specs α σ}
    (read : (specs t).read? c = some spec) :
    (load specs c : InPlace ε (HeldSpec α σ)).on t = (.ok spec, t) := by
  simp [load, read]

/-- The specification that a relation refers to is there, and its cell is captured. -/
theorem on_capture {wanted : Bool} {table : Tables → Ordered Value Cell} {f : Field}
    (there : ∀ target, f.target? = some target → Ordered.has target (table t) = true) :
    (capture wanted table f).on t =
      (.ok (if wanted then f.target?.bind fun target => Ordered.find? target (table t)
        else none), t) := by
  cases wanted with
  | false => rfl
  | true =>
    cases leads : f.target? with
    | none => simp [capture, leads]
    | some target =>
      obtain ⟨c, found⟩ := Option.isSome_iff_exists.1 (there target leads)
      simp [capture, leads, on_require table found, found, Except.map]

/-- The slots of an owner and its relations are those that all of its fields have, if what is
captured is what the tables lead to. -/
theorem on_attachSlots (t : Tables) (relations : List Field)
    (there : ∀ f ∈ relations, ∀ target, f.target? = some target →
      Ordered.has target t.sortTable = true ∧ Ordered.has target t.filterTable = true) :
    ∀ fields : List Field,
      (attachSlots (Field.slots Field.sortable (.ofField SortSlot.ofField t.sorts.find?) fields)
        (Field.slots Field.filterable (.ofField FilterSlot.ofField t.filters.find?) fields)
        relations).on t =
      (.ok (Field.slots Field.sortable (.ofField SortSlot.ofField t.sorts.find?)
          (fields ++ relations),
        Field.slots Field.filterable (.ofField FilterSlot.ofField t.filters.find?)
          (fields ++ relations)), t) := by
  induction relations with
  | nil =>
    intro fields
    rw [List.append_nil]
    rfl
  | cons f rest ih =>
    intro fields
    obtain ⟨here, later⟩ := List.forall_mem_cons.1 there
    have attached := ih later (fields ++ [f])
    rw [Field.slots_concat, Field.slots_concat, List.append_assoc, List.singleton_append]
      at attached
    rw [attachSlots, InPlace.on_bind, on_capture fun target leads => (here target leads).1]
    simp only [InPlace.on_bind, on_capture fun target leads => (here target leads).2]
    -- a slot is captured just where it is wanted
    refine Eq.trans ?_ attached
    cases f.sortable <;> cases f.filterable <;> rfl

theorem complete_of_no_relations {entry : Entry} (none : entry.pending = []) :
    entry.complete owner = entry := by
  rw [Entry.complete, none]
  cases entry
  cases none
  rfl

/-- An entry that is completed is in memory what it was before, but for its slots. -/
theorem heldSort_complete (entry : Entry) (resolve : Value → Option Cell) :
    (entry.heldSort resolve false).withSlots (Field.slots Field.sortable
        (.ofField SortSlot.ofField resolve) (entry.spec.fields ++ entry.pending)) =
      (entry.complete owner).heldSort resolve false := by
  obtain ⟨head, -⟩ := Entry.heads_attachAll entry.pending entry
  rw [Entry.heldSort, Entry.heldSort, Entry.fields_complete]
  simp only [HeldSpec.withSlots, Entry.complete, head]

theorem heldFilter_complete (entry : Entry) (resolve : Value → Option Cell) :
    (entry.heldFilter resolve false).withSlots (Field.slots Field.filterable
        (.ofField FilterSlot.ofField resolve) (entry.spec.fields ++ entry.pending)) =
      (entry.complete owner).heldFilter resolve false := by
  obtain ⟨-, head⟩ := Entry.heads_attachAll entry.pending entry
  rw [Entry.heldFilter, Entry.heldFilter, Entry.fields_complete]
  simp only [HeldSpec.withSlots, Entry.complete]
  rw [head]

/-- Attaching relations to an owner that is found writes its slots to its cells, and its fields. -/
theorem on_attachOwner_of_found {relations : List Field} (some : relations ≠ [])
    {sort filter : Cell} {sortSpec : HeldSpec Value SortSlot}
    {filterSpec : HeldSpec FilterHead FilterSlot} {spec : EntitySpec}
    (foundSort : t.sorts.find? owner = .some sort)
    (readSort : t.sorts.read? sort = .some sortSpec)
    (foundFilter : t.filters.find? owner = .some filter)
    (readFilter : t.filters.read? filter = .some filterSpec)
    (current : Ordered.find? owner t.entities = .some spec)
    {slots : Ordered Value (HeldSlot SortSlot) × Ordered Value (HeldSlot FilterSlot)}
    (attached : (attachSlots sortSpec.slots filterSpec.slots relations).on t = (.ok slots, t)) :
    (attachOwner owner relations).on t =
      (.ok (),
        { t with
          entities := Ordered.insert owner ⟨owner, spec.fields ++ relations⟩ t.entities
          sorts := t.sorts.write sort slots.1
          filters := t.filters.write filter slots.2 }) := by
  rw [attachOwner, if_neg (by simpa using some), InPlace.on_bind, on_require sortTable foundSort]
  dsimp only
  rw [InPlace.on_bind, on_load readSort]
  dsimp only
  rw [InPlace.on_bind, on_require filterTable foundFilter]
  dsimp only
  rw [InPlace.on_bind, on_load readFilter]
  dsimp only
  rw [InPlace.on_bind, attached]
  simp only [InPlace.on_bind, InPlace.on_modify]
  -- what was written in between is not in the table of entities
  have kept : Ordered.find? owner (Tables.entities { t with
      sorts := t.sorts.write sort slots.1
      filters := t.filters.write filter slots.2 }) = .some spec := current
  rw [on_require Tables.entities kept]

section Owner

variable {done rest : Ordered Value Entry} {entry : Entry}

theorem keys_map_entries {β : Type} (f : Value × Entry → β) (entries : Ordered Value Entry) :
    Ordered.keys (entries.map fun entry => (entry.1, f entry)) = Ordered.keys entries := by
  simp only [Ordered.keys, List.map_map, Function.comp_def]

/-- The relations of an owner are attached to its entry, whether or not the others are complete. -/
theorem on_attachOwner (shows : t.ShowsEntries false (done ++ (owner, entry) :: rest))
    (apart : ∀ other ∈ Ordered.keys done, (other == owner) = false)
    (same : (owner == owner) = true)
    (there : ∀ f ∈ entry.pending, ∀ target, f.target? = some target →
      Ordered.has target (done ++ (owner, entry) :: rest) = true) :
    ∃ after, (attachOwner owner entry.pending).on t = (.ok (), after) ∧ SameCells t after ∧
      after.ShowsEntries false (done ++ (owner, entry.complete owner) :: rest) := by
  by_cases none : entry.pending = []
  · refine ⟨t, ?_, ⟨rfl, rfl, rfl, rfl⟩, ?_⟩
    · rw [none]
      rfl
    · rwa [complete_of_no_relations none]
  · have entities := shows.entities
    have sorts := shows.sorts
    have filters := shows.filters
    have apart' {β : Type} (f : Value × Entry → β) : ∀ other ∈ Ordered.keys
        (done.map fun entry => (entry.1, f entry)), (other == owner) = false := by
      rwa [keys_map_entries]
    rw [List.map_append, List.map_cons] at entities sorts filters
    obtain ⟨sort, foundSort, readSort, writtenSort⟩ := sorts.write (apart' _) same
    obtain ⟨filter, foundFilter, readFilter, writtenFilter⟩ := filters.write (apart' _) same
    have current : Ordered.find? owner t.entities = some entry.spec := by
      rw [entities]
      exact Ordered.find?_middle (apart' _) same _
    -- every relation leads to an entity, for which there are cells
    have known {table : Ordered Value Cell}
        (keys : Ordered.keys table = Ordered.keys (done ++ (owner, entry) :: rest)) (f : Field)
        (among : f ∈ entry.pending) (target : Value) (leads : f.target? = some target) :
        Ordered.has target table = true := by
      rw [Ordered.has_iff_any, keys, ← Ordered.has_iff_any]
      exact there f among target leads
    have slots := on_attachSlots t entry.pending (fun f among target leads =>
      ⟨known (shows.sorts.keys.trans (keys_map_entries _ _)) f among target leads,
        known (shows.filters.keys.trans (keys_map_entries _ _)) f among target leads⟩)
      entry.spec.fields
    refine ⟨_, on_attachOwner_of_found none foundSort readSort foundFilter readFilter current slots,
      ⟨rfl, rfl, rfl, rfl⟩, ?_, ?_, ?_⟩
    · have spec : (⟨owner, entry.spec.fields ++ entry.pending⟩ : EntitySpec) =
          (entry.complete owner).spec := by
        rw [← Entry.fields_complete entry owner, Entry.complete,
          if_neg (by simpa using none)]
      dsimp only
      rw [entities, Ordered.insert_middle (apart' _) same, spec, List.map_append, List.map_cons]
    · have written := writtenSort
        (Field.slots Field.sortable (.ofField .ofField t.sorts.find?)
          (entry.spec.fields ++ entry.pending))
      rw [heldSort_complete] at written
      rw [List.map_append, List.map_cons]
      exact written
    · have written := writtenFilter
        (Field.slots Field.filterable (.ofField .ofField t.filters.find?)
          (entry.spec.fields ++ entry.pending))
      rw [heldFilter_complete] at written
      rw [List.map_append, List.map_cons]
      exact written

/-- The relations of all owners are attached, one owner after the other: those before are complete
already. -/
theorem on_attachAll (rest : Ordered Value Entry) : ∀ {t : Tables} {done : Ordered Value Entry},
    t.ShowsEntries false (done ++ rest) → Ordered.Distinct (done ++ rest) →
    (∀ entry ∈ rest, (entry.1 == entry.1) = true) →
    (∀ entry ∈ rest, ∀ f ∈ entry.2.pending, ∀ target, f.target? = some target →
      Ordered.has target (done ++ rest) = true) →
    ∃ after, (attachAll (rest.map fun entry => (entry.1, entry.2.pending))).on t =
        (.ok (), after) ∧ SameCells t after ∧ after.ShowsEntries false
          (done ++ rest.map fun entry => (entry.1, entry.2.complete entry.1)) := by
  induction rest with
  | nil => exact fun shows _ _ _ => ⟨_, rfl, ⟨rfl, rfl, rfl, rfl⟩, shows⟩
  | cons first rest ih =>
    obtain ⟨owner, entry⟩ := first
    intro t done shows distinct same there
    obtain ⟨here, later⟩ := List.forall_mem_cons.1 there
    have apart : ∀ other ∈ Ordered.keys done, (other == owner) = false := by
      rw [Ordered.Distinct, Ordered.keys, List.map_append, List.pairwise_append] at distinct
      exact fun other among => distinct.2.2 other among owner List.mem_cons_self
    have keys : Ordered.keys ((done ++ [(owner, entry.complete owner)]) ++ rest) =
        Ordered.keys (done ++ (owner, entry) :: rest) := by
      simp only [Ordered.keys, List.map_append, List.map_cons, List.append_assoc,
        List.singleton_append]
    obtain ⟨between, attached, cells, shown⟩ :=
      on_attachOwner shows apart (List.forall_mem_cons.1 same).1 here
    -- the owner joins the complete entries
    rw [← List.singleton_append, ← List.append_assoc] at shown
    obtain ⟨after, attachedLater, cellsLater, shownLater⟩ := ih shown
      (by rwa [Ordered.Distinct, keys]) (List.forall_mem_cons.1 same).2
      (by simpa only [Ordered.has_iff_any, keys] using later)
    rw [List.append_assoc, List.singleton_append] at shownLater
    refine ⟨after, ?_, cells.trans cellsLater, shownLater⟩
    rw [List.map_cons, attachAll, InPlace.on_bind, attached]
    exact attachedLater

end Owner

/-! ## Finalizing -/

/-- Freezing the specifications of complete entries is all that is left to be done. -/
theorem shows_freeze {entries : Ordered Value Entry} (shows : t.ShowsEntries false entries) :
    ShowsEntries
      { t with sorts := t.sorts.freeze, filters := t.filters.freeze, pending := [],
               finalized := true } true entries where
  entities := shows.entities
  sorts := by
    have frozen := shows.sorts.freeze
    rwa [List.map_map] at frozen
  filters := by
    have frozen := shows.filters.freeze
    rwa [List.map_map] at frozen

/-- Finalizing in place fails where finalizing fails, and then changes nothing; where it
succeeds, the tables show the registry that finalizing returns. -/
theorem mirrors_finalize (shows : t.Shows r) (distinct : Ordered.Distinct r.entries)
    (same : ∀ entry ∈ r.entries, (entry.1 == entry.1) = true) :
    Mirrors finalize t (r.finalize.outcome.value.map (·, ())) := by
  have flag : t.finalized = r.finalized := shows.finalized
  rw [Registry.value_finalize]
  by_cases finalized : r.finalized = true
  · rw [if_pos finalized]
    refine .ok ?_ shows
    rw [finalize, InPlace.on_bind, InPlace.on_get]
    simp only [flag, finalized, if_true, InPlace.on_pure]
  · have collecting : r.finalized = false := by simpa using finalized
    have pending : t.pending = r.entries.map fun entry => (entry.1, entry.2.pending) := by
      simp only [shows.pending, Registry.pendingTable, collecting, Bool.false_eq_true, if_false]
    have checked : (checkAll t.pending).on t =
        match r.dangling? with
        | some e => (.error (.refused e), t)
        | none => (.ok (), t) := by
      rw [on_checkAll (has_entities shows), pending, List.findSome?_map]
      rfl
    rw [if_neg finalized]
    cases dangling : r.dangling? with
    | some e =>
      rw [dangling] at checked
      refine .error ?_
      rw [finalize, InPlace.on_bind, InPlace.on_get]
      simp only [flag, finalized, Bool.false_eq_true, if_false, InPlace.on_bind, checked]
    | none =>
      rw [dangling] at checked
      have shown : t.ShowsEntries false ([] ++ r.entries) := collecting ▸ shows.toShowsEntries
      obtain ⟨after, attached, cells, complete⟩ := on_attachAll r.entries shown distinct same
        fun entry among f waiting target leads =>
          (Registry.resolved_of_pending dangling among waiting leads).2
      rw [← pending] at attached
      have frozen := shows_freeze complete
      refine .ok ?_ ⟨frozen, rfl, rfl⟩
      rw [finalize, InPlace.on_bind, InPlace.on_get]
      simp only [flag, finalized, Bool.false_eq_true, if_false, InPlace.on_bind, checked, attached,
        InPlace.on_modify]

end Tables

end ListQuery
