import ListQuery.Proofs.Registry.Lifecycle

/-!
# References in memory

A reference holds the specification that its target had when the relation was attached. The target
may have been incomplete then, and an entity that was registered anew has left an old specification
behind. Still, after any run every reference holds the complete specification of its target: the
relations are attached after the last registration, and from then on specifications are only
changed in their cells. So following references from cell to cell is the same as walking from entity
to entity, around any circle of relations.

A registry that refers to specifications by name looks a target up when a reference is followed.
What it finds there is what is in the cell that the reference holds.

## Main definitions

* `Tables.refFor`, `Tables.followPath` and `Tables.filterSpecAlong` follow references from cell to
  cell.
* `Tables.entityAlong?` walks along filterable relations from entity to entity.
* `Tables.Linked` holds of the specifications of an entity if all of their references hold complete
  specifications.
* `Tables.FoundByName` compares references in memory with references by name.

## Main results

* `Tables.Shows.linked`: references hold the complete specifications of their targets.
* `Tables.on_followPath`: where a path of references leads.
* `Tables.Shows.foundByName`: references by name lead to the same specifications.
* `Tables.complete_of_finalize_run` puts them together for any run.
-/

namespace ListQuery.Tables

open InPlace (refuse)
open Registry (Entry Operation Finalized)

/-! ## Following references -/

/-- The specification that the slot of a relation holds in a filter specification. -/
def refFor (c : Cell) (name : Value) : InPlace LookupError (Option Cell) := do
  let key ← refuse (name.asKey.mapError .unfit)
  let spec ← load Tables.filters c
  pure ((Ordered.find? key spec.slots).bind HeldSlot.holds)

/-- The specification at the end of a path of relations, whose names have to be ones that can be
keys as far as the path leads. -/
def followPath (c : Cell) : List Value → InPlace LookupError (Option Cell)
  | [] => pure (some c)
  | name :: rest => do
    match ← refFor c name with
    | some next => followPath next rest
    | none => pure none

/-- The filter specification at the end of a path of relations that starts at an entity. -/
def filterSpecAlong (name : Value) (path : List Value) : InPlace LookupError (Option Cell) := do
  followPath (← lookUp filterTable name) path

/-- The entity at the end of a path of filterable relations. -/
def entityAlong? (t : Tables) (name : Value) : List Value → Option Value
  | [] => some name
  | step :: rest =>
    match ((lookUp Tables.entities name).on t).1 with
    | .ok spec => (spec.leadsTo? step).bind fun target => t.entityAlong? target rest
    | .error _ => none

/-- All references of the specifications in two cells hold specifications that are complete, each
that of its target. -/
structure Linked (past : List (Value × List Field)) (t : Tables) (sort filter : Cell) : Prop where
  sort : ∀ held, t.sorts.read? sort = some held → ∀ key slot, (key, slot) ∈ held.slots →
    ∀ target, slot.takes = .ref target → ∃ fields spec next other,
      t.Complete past target fields spec next other ∧ slot.holds = some next
  filter : ∀ held, t.filters.read? filter = some held → ∀ key slot, (key, slot) ∈ held.slots →
    ∀ target, slot.takes = .ref target → ∃ fields spec other next,
      t.Complete past target fields spec other next ∧ slot.holds = some next

/-- A registry that refers to specifications by name finds under a name, and along paths that start
there, what is in the cells to which the tables and the references lead. -/
structure FoundByName (t : Tables) (r : Registry) (name : Value) (sort filter : Cell) : Prop where
  sort : r.sortRef? name = (t.sorts.read? sort).map HeldSpec.toSort
  filter : r.filterRef? name = (t.filters.read? filter).map HeldSpec.toFilter
  along : ∀ path : List Value, (∀ step ∈ path, step.changeable? = none) →
    ∃ next?, (filterSpecAlong name path).on t = (.ok next?, t) ∧ r.filterSpecAlong name path =
      .ok (next?.bind fun next => (t.filters.read? next).map HeldSpec.toFilter)

variable {config : Config} {past : List (Value × List Field)} {r : Registry} {t : Tables}
  {name : Value} {fields : List Field} {spec : EntitySpec} {sort filter : Cell}

theorem Complete.apart (complete : t.Complete past name fields spec sort filter) :
    spec.fields.Pairwise Field.Apart := by
  rw [complete.fields]
  exact Registry.completeFields_apart fields

/-- The entity to which a field leads is complete, and its cells are those of its name. -/
theorem Shows.target (shows : t.Shows r) (final : Finalized config past r)
    (complete : t.Complete past name fields spec sort filter) {f : Field}
    (there : f ∈ spec.fields) {target : Value} (leads : f.target? = some target) :
    ∃ fields spec next next', t.Complete past target fields spec next next' ∧
      t.sorts.find? target = some next ∧ t.filters.find? target = some next' := by
  -- the tables and the registry know the entity by the same fields
  obtain ⟨entry, known⟩ := final.complete complete.last
  rw [complete.fields, ← known.fields] at there
  obtain ⟨fields, entry, known⟩ := final.target known there leads
  obtain ⟨next, next', completeNext⟩ := shows.complete known
  exact ⟨fields, entry.spec, next, next', completeNext, find?_of_lookUp completeNext.sortSpec,
    find?_of_lookUp completeNext.filterSpec⟩

/-- The references of a complete entity hold the complete specifications of their targets. -/
theorem Shows.linked (shows : t.Shows r) (final : Finalized config past r)
    (complete : t.Complete past name fields spec sort filter) : t.Linked past sort filter where
  sort := by
    intro held read key slot there target refers
    obtain ⟨same, reads, made⟩ := complete.sort
    obtain rfl := Option.some.inj (read.symm.trans reads)
    rw [made.slots] at there
    -- the slot is that of a field, and holds the cell of the name to which the field leads
    obtain ⟨f, among, rfl⟩ := Field.mem_of_mem_slots complete.apart there
    have leads : f.target? = some target := SortSlot.target?_of_ofField refers
    obtain ⟨fields, spec, next, other, completeNext, here, -⟩ :=
      shows.target final complete among leads
    refine ⟨fields, spec, next, other, completeNext, ?_⟩
    rw [HeldSlot.ofField, leads, Option.bind_some, here]
  filter := by
    intro held read key slot there target refers
    obtain ⟨same, reads, made⟩ := complete.filter
    obtain rfl := Option.some.inj (read.symm.trans reads)
    rw [made.slots] at there
    obtain ⟨f, among, rfl⟩ := Field.mem_of_mem_slots complete.apart there
    have leads : f.target? = some target := FilterSlot.target?_of_ofField refers
    obtain ⟨fields, spec, other, next, completeNext, -, here⟩ :=
      shows.target final complete among leads
    refine ⟨fields, spec, other, next, completeNext, ?_⟩
    rw [HeldSlot.ofField, leads, Option.bind_some, here]

/-- A reference holds what the table of cells leads to under the name of its target. -/
theorem Complete.on_refFor (complete : t.Complete past name fields spec sort filter)
    {step : Value} (fit : step.changeable? = none) :
    (refFor filter step).on t = (.ok ((spec.leadsTo? step).bind t.filters.find?), t) := by
  obtain ⟨held, read, made⟩ := complete.filter
  have slot : Ordered.find? step held.slots =
      ((spec.field? step).filter Field.filterable).map
        (HeldSlot.ofField FilterSlot.ofField t.filters.find?) := by
    rw [made.slots]
    exact Field.find?_slots complete.apart step
  rw [refFor, InPlace.on_bind, Value.mapError_asKey_of_fit fit]
  simp only [InPlace.on_refuse_ok, InPlace.on_bind, on_load read, InPlace.on_pure]
  rw [slot, EntitySpec.leadsTo?]
  cases (spec.field? step).filter Field.filterable <;> rfl

theorem Complete.on_filterSpecAlong (complete : t.Complete past name fields spec sort filter)
    (path : List Value) : (filterSpecAlong name path).on t = (followPath filter path).on t := by
  rw [filterSpecAlong, InPlace.on_bind, complete.filterSpec]

theorem on_followPath_cons {c : Cell} {step : Value} {next? : Option Cell}
    (ref : (refFor c step).on t = (.ok next?, t)) (rest : List Value) :
    (followPath c (step :: rest)).on t =
      next?.elim (.ok none, t) fun next => (followPath next rest).on t := by
  rw [followPath, InPlace.on_bind, ref]
  cases next? <;> rfl

/-- Following references along a path leads to the specification of the entity to which the path of
relations leads. -/
theorem on_followPath (shows : t.Shows r) (final : Finalized config past r) (path : List Value) :
    ∀ {name : Value} {fields : List Field} {spec : EntitySpec} {sort filter : Cell},
      t.Complete past name fields spec sort filter →
      (∀ step ∈ path, step.changeable? = none) →
      (t.entityAlong? name path = none → (followPath filter path).on t = (.ok none, t)) ∧
      ∀ target, t.entityAlong? name path = some target →
        ∃ fields spec other next, t.Complete past target fields spec other next ∧
          (followPath filter path).on t = (.ok (some next), t) := by
  induction path with
  | nil =>
    intro name fields spec sort filter complete _
    refine ⟨nofun, fun target same => ?_⟩
    obtain rfl := Option.some.inj same
    exact ⟨fields, spec, sort, filter, complete, rfl⟩
  | cons step rest ih =>
    intro name fields spec sort filter complete keys
    obtain ⟨fit, later⟩ := List.forall_mem_cons.1 keys
    have ref := complete.on_refFor fit
    have walk : t.entityAlong? name (step :: rest) =
        (spec.leadsTo? step).bind fun target => t.entityAlong? target rest := by
      rw [entityAlong?, complete.entity]
    -- the first step leads to the same entity on both sides
    cases leads : spec.leadsTo? step with
    | none =>
      rw [leads, Option.bind_none] at ref walk
      rw [walk, on_followPath_cons ref]
      exact ⟨fun _ => rfl, nofun⟩
    | some first =>
      obtain ⟨f, there, toFirst⟩ := EntitySpec.exists_of_leadsTo leads
      obtain ⟨fields, spec, other, next, completeNext, -, here⟩ :=
        shows.target final complete there toFirst
      rw [leads, Option.bind_some] at ref walk
      rw [here] at ref
      rw [walk, on_followPath_cons ref]
      exact ih completeNext later

/-! ## References by name -/

/-- The specifications of an entry that is in step are those that it has in memory. -/
theorem toSort_heldSort {entry : Entry} (inStep : entry.InStep) (resolve : Value → Option Cell)
    (frozen : Bool) : (entry.heldSort resolve frozen).toSort = entry.sort := by
  have slots : (entry.heldSort resolve frozen).plainSlots = entry.sort.slots :=
    (HeldSpec.plainSlots_of_slots rfl).trans inStep.sort.symm
  rw [HeldSpec.toSort, slots]
  rfl

theorem toFilter_heldFilter {entry : Entry} (inStep : entry.InStep)
    (resolve : Value → Option Cell) (frozen : Bool) :
    (entry.heldFilter resolve frozen).toFilter = entry.filter := by
  have slots : (entry.heldFilter resolve frozen).plainSlots = entry.filter.slots :=
    (HeldSpec.plainSlots_of_slots rfl).trans inStep.filter.symm
  rw [HeldSpec.toFilter, slots]
  rfl

/-- A reference of a sort specification that is followed by the name of its target leads to the
specification in the cell of this name. -/
theorem Shows.sortRef?_eq (shows : t.Shows r) (final : Finalized config past r)
    (complete : t.Complete past name fields spec sort filter) :
    r.sortRef? name = (t.sorts.read? sort).map HeldSpec.toSort := by
  obtain ⟨entry, known⟩ := final.complete complete.last
  obtain ⟨sort', filter', atSort, -, readSort, -⟩ := shows.exists_cells known.known
  obtain rfl := Option.some.inj (atSort.symm.trans (find?_of_lookUp complete.sortSpec))
  rw [readSort, known.sortRef, Option.map_some, toSort_heldSort known.inStep]

theorem Shows.filterRef?_eq (shows : t.Shows r) (final : Finalized config past r)
    (complete : t.Complete past name fields spec sort filter) :
    r.filterRef? name = (t.filters.read? filter).map HeldSpec.toFilter := by
  obtain ⟨entry, known⟩ := final.complete complete.last
  obtain ⟨sort', filter', -, atFilter, -, readFilter⟩ := shows.exists_cells known.known
  obtain rfl := Option.some.inj (atFilter.symm.trans (find?_of_lookUp complete.filterSpec))
  rw [readFilter, known.filterRef, Option.map_some, toFilter_heldFilter known.inStep]

/-- A path of references that is followed by the names of their targets leads to the specification
in the cell where following what they hold leads. -/
theorem Shows.followPath_eq (shows : t.Shows r) (final : Finalized config past r)
    (path : List Value) :
    ∀ {name : Value} {fields : List Field} {entry : Entry} {sort filter : Cell},
      t.Complete past name fields entry.spec sort filter →
      Registry.Complete past r name fields entry →
      (∀ step ∈ path, step.changeable? = none) →
      ∃ next?, (followPath filter path).on t = (.ok next?, t) ∧
        r.followPath entry.filter path =
          .ok (next?.bind fun next => (t.filters.read? next).map HeldSpec.toFilter) := by
  induction path with
  | nil =>
    intro name fields entry sort filter complete known _
    refine ⟨some filter, rfl, ?_⟩
    rw [Registry.followPath, Option.bind_some, ← shows.filterRef?_eq final complete,
      known.filterRef]
  | cons step rest ih =>
    intro name fields entry sort filter complete known keys
    obtain ⟨fit, later⟩ := List.forall_mem_cons.1 keys
    have ref := complete.on_refFor fit
    have named : entry.filter.target? step = entry.spec.leadsTo? step :=
      FilterSpec.target?_eq complete.apart known.inStep.filter step
    have walk : r.followPath entry.filter (step :: rest) =
        ((entry.spec.leadsTo? step).bind r.filterRef?).elim (.ok none) fun next =>
          r.followPath next rest := by
      rw [Registry.followPath, Value.mapError_asKey_of_fit fit, ← named]
      cases ref : (entry.filter.target? step).bind r.filterRef? with
      | none => simp only [bind, Except.bind, Registry.refFor?, ref, Option.elim]
      | some next => simp only [bind, Except.bind, Registry.refFor?, ref, Option.elim]
    cases leads : entry.spec.leadsTo? step with
    | none =>
      rw [leads, Option.bind_none] at ref walk
      exact ⟨none, on_followPath_cons ref rest, walk⟩
    | some first =>
      obtain ⟨f, there, toFirst⟩ := EntitySpec.exists_of_leadsTo leads
      obtain ⟨fields, next, knownNext⟩ := final.target known there toFirst
      obtain ⟨other, cell, completeNext⟩ := shows.complete knownNext
      obtain ⟨next?, followed, byName⟩ := ih completeNext knownNext later
      rw [leads, Option.bind_some] at ref walk
      have here : t.filters.find? first = some cell := find?_of_lookUp completeNext.filterSpec
      rw [here] at ref
      rw [knownNext.filterRef] at walk
      exact ⟨next?, (on_followPath_cons ref rest).trans followed, walk.trans byName⟩

theorem Shows.foundByName (shows : t.Shows r) (final : Finalized config past r)
    (complete : t.Complete past name fields spec sort filter) :
    t.FoundByName r name sort filter where
  sort := shows.sortRef?_eq final complete
  filter := shows.filterRef?_eq final complete
  along := by
    intro path keys
    obtain ⟨entry, known⟩ := final.complete complete.last
    obtain rfl : entry.spec = spec := Option.some.inj
      ((shows.find?_entities known.known).symm.trans (find?_of_lookUp complete.entity))
    obtain ⟨next?, followed, byName⟩ := shows.followPath_eq final path complete known keys
    refine ⟨next?, (complete.on_filterSpecAlong path).trans followed, ?_⟩
    rw [Registry.filterSpecAlong, known.filterSpec]
    exact byName

/-! ## After a run -/

/-- After any run that ends in finalizing, a registered entity is what its last registration makes
of it in one go, and so is whatever its relations lead to, along any path: every reference holds the
specification that is looked up for its target. The registry without cells is finalized, too, and
finds the same by name. -/
theorem complete_of_finalize_run (config : Config) {ops : List Operation}
    (found : ∀ entry ∈ empty.history ops, (entry.1 == entry.1) = true) {t : Tables}
    (done : finalize.on (empty.run ops) = (.ok (), t)) {name : Value} {fields : List Field}
    (last : Registry.lastFields? (empty.history ops) name = some fields) :
    ∃ r spec sort filter, t.Complete (empty.history ops) name fields spec sort filter ∧
      t.Linked (empty.history ops) sort filter ∧
      (∀ path : List Value, (∀ step ∈ path, step.changeable? = none) →
        (t.entityAlong? name path = none → (filterSpecAlong name path).on t = (.ok none, t)) ∧
        ∀ target, t.entityAlong? name path = some target →
          ∃ fields spec other next,
            t.Complete (empty.history ops) target fields spec other next ∧
            (filterSpecAlong name path).on t = (.ok (some next), t)) ∧
      ((Registry.empty config).run ops).finalize.outcome.value = .ok r ∧ t.Shows r ∧
      t.FoundByName r name sort filter := by
  -- the run leaves tables that show a registry, and finalizing keeps to it
  obtain ⟨shown, tidy, same⟩ := shows_run config found
  obtain ⟨r, value, shows⟩ := finalize_eq_ok shown tidy done
  have final := Registry.finalized_of_run value
  rw [← same] at final
  obtain ⟨entry, known⟩ := final.complete last
  obtain ⟨sort, filter, complete⟩ := shows.complete known
  refine ⟨r, entry.spec, sort, filter, complete, shows.linked final complete,
    fun path keys => ?_, value, shows, shows.foundByName final complete⟩
  rw [complete.on_filterSpecAlong]
  exact on_followPath shows final path complete keys

/-- A run in which an entity is registered again: its first specification is left behind in memory,
and the reference that closes a circle holds the new one. -/
theorem complete_of_finalize_run_cyclic :
    ∃ t fields r spec sort filter,
      (∀ entry ∈ empty.history Registry.cyclicRun, (entry.1 == entry.1) = true) ∧
      finalize.on (empty.run Registry.cyclicRun) = (.ok (), t) ∧
      Registry.lastFields? (empty.history Registry.cyclicRun) (.text "Order") = some fields ∧
      fields.map Field.name = [.text "customer", .text "id", .text "customer"] ∧
      t.Complete (empty.history Registry.cyclicRun) (.text "Order") fields spec sort filter ∧
      spec.fields.map Field.name = [.text "id", .text "customer"] ∧
      t.Linked (empty.history Registry.cyclicRun) sort filter ∧
      t.filters.table = [(.text "Order", 2), (.text "Customer", 1)] ∧
      (filterSpecAlong (.text "Order") [.text "customer", .text "referrer", .text "orders"]).on t =
        (.ok (some filter), t) ∧
      t.FoundByName r (.text "Order") sort filter := by
  have found : ∀ entry ∈ empty.history Registry.cyclicRun, (entry.1 == entry.1) = true := by
    intro entry there
    rcases there with _ | ⟨_, _ | ⟨_, _ | ⟨_, ⟨⟩⟩⟩⟩ <;> rfl
  obtain ⟨r, spec, sort, filter, complete, linked, along, -, -, byName⟩ :=
    complete_of_finalize_run .standard found
      (show finalize.on (empty.run Registry.cyclicRun) = (.ok (), _) from rfl)
      (show Registry.lastFields? _ (.text "Order") = some _ from rfl)
  refine ⟨_, _, r, spec, sort, filter, found, rfl, rfl, rfl, complete, ?_, linked, rfl, ?_, byName⟩
  · rw [complete.fields]
    rfl
  · -- the circle leads back to where it started
    obtain ⟨-, round⟩ := along [.text "customer", .text "referrer", .text "orders"]
      (by simp [Value.changeable?])
    obtain ⟨_, _, _, next, again, followed⟩ := round (.text "Order") rfl
    rw [followed]
    have same := complete.filterSpec.symm.trans again.filterSpec
    cases same
    rfl

end ListQuery.Tables
