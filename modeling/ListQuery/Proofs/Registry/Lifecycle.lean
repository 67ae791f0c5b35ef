import ListQuery.Proofs.Registry.Attaching
import ListQuery.Proofs.Registry.TwoPhase

/-!
# The lifecycle of a registry

Whatever is done to a registry that starts out empty, an operation that fails changes none of its
tables, and finalizing fails just for a relation that leads nowhere. Once it has succeeded,
nothing changes any more. A look-up answers by what was registered last, and tells whether the
entity is missing or only not finalized yet.

This holds of the tables that the operations write one after the other, and of the specifications
that they leave in memory, because these show at any time the registry that reflects the same
history. A name that is not the same key as itself could not be found again; names that are texts
always can.

## Main definitions

* `Registry.Operation.IsProper` holds of operations that register under a name that can be found
  again.
* `Registry.Tidy` is the invariant of the keys.
* `Tables.IsDangling` and `Tables.Leads` tell pending relations apart.
* `Tables.IsSortOf`, `Tables.IsFilterOf` and `Tables.Complete` say what is known of an entity in the
  end.
* `Tables.Lifecycle` collects what holds of the tables after a run.

## Main results

* `Tables.Shows.step`, `Tables.Shows.run`: the tables go on showing the registry.
* `Tables.on_lookUp_of_error`, `Tables.on_lookUp_of_ok`: looking up in place is looking up.
* `Tables.Shows.complete`: an entity that is complete in a registry is complete in memory.
* `Tables.lifecycle_of_run`: what holds of the tables after any run.
-/

namespace ListQuery

namespace Registry

/-- The name under which an operation registers an entity, if it registers one, is the same key
as itself. -/
def Operation.IsProper (op : Operation) : Prop :=
  ∀ registrant, op.registrant? = some registrant → (registrant.name == registrant.name) = true

/-- Names that are texts are the same keys as themselves. -/
theorem isProper_of_text {op : Operation}
    (named : ∀ registrant, op.registrant? = some registrant → ∃ s, registrant.name = .text s) :
    op.IsProper := by
  intro registrant asked
  obtain ⟨s, text⟩ := named registrant asked
  rw [text, Value.text_beq_text, decide_eq_true rfl]

/-- The entities of a registry have distinct names, each of which is found again. -/
structure Tidy (r : Registry) : Prop where
  distinct : Ordered.Distinct r.entries
  found : ∀ name ∈ r.names, (name == name) = true

variable {config : Config} {past : List (Value × List Field)} {r : Registry}

/-! ## The tables show the registry -/

theorem tidy_empty (config : Config) : (empty config).Tidy where
  distinct := List.Pairwise.nil
  found := nofun

theorem Tidy.same (tidy : r.Tidy) : ∀ entry ∈ r.entries, (entry.1 == entry.1) = true :=
  fun _ there => tidy.found _ (List.mem_map_of_mem there)

/-- Registering an entity keeps a registry tidy, if its name is found again. -/
theorem Tidy.step (tidy : r.Tidy) {op : Operation}
    (proper : ∀ entry, r.registered? op = some entry → (entry.1 == entry.1) = true) :
    (r.step op).Tidy := by
  rcases r.step_cases op with ⟨-, same⟩ | ⟨-, -, -, complete⟩ |
      ⟨name, fields, entered, -, -, written⟩
  · rw [same]
    exact tidy
  · -- completing the entries leaves their names as they are
    have kept : r.completed.names = r.names := by
      rw [names, completed, Ordered.keys, List.map_map]
      rfl
    have distinct : r.completed.names.Pairwise fun a b => (a == b) = false := kept ▸ tidy.distinct
    rw [complete]
    exact ⟨distinct, kept ▸ tidy.found⟩
  · rw [written]
    refine ⟨Ordered.distinct_insert tidy.distinct _ _, fun other there => ?_⟩
    rw [names, Ordered.keys_insert] at there
    split at there
    · exact tidy.found other there
    · rcases List.mem_append.1 there with before | new
      · exact tidy.found other before
      · rw [List.mem_singleton.1 new]
        exact proper _ entered

/-- A registry that collects has entries of scalar fields only. -/
theorem Reflects.collectsScalars (reflects : Reflects config past r) : r.CollectsScalars := by
  rintro collecting ⟨name, entry⟩ there f among
  rcases reflects.state with rfl | ⟨rfl, -⟩
  · obtain ⟨-, other, written, -⟩ := Ordered.mem_ofEntries there
    obtain ⟨registered, -, same⟩ := List.mem_map.1 written
    obtain ⟨-, rfl⟩ := Prod.mk.inj same
    exact Tables.target?_of_mem_collecting among
  · cases collecting

end Registry

namespace Tables

open Registry (Operation Reflects)

variable {config : Config} {past : List (Value × List Field)} {r : Registry} {t : Tables}

/-- An operation on tables that show a registry leads to tables that show the registry after it. -/
theorem Shows.step (shows : t.Shows r) (scalars : r.CollectsScalars) (tidy : r.Tidy)
    (op : Operation) : (t.step op).Shows (r.step op) := by
  rw [Tables.step, Registry.step]
  cases op.registrant? with
  | none =>
    refine (mirrors_finalize shows tidy.distinct tidy.same).shows_settle shows ?_
    cases r.finalize.outcome.value <;> rfl
  | some registrant =>
    refine (mirrors_register shows scalars registrant.name registrant.items).shows_settle shows ?_
    rw [Registry.enter_eq, Checked.value_outcome_map]
    rfl

/-- On tables the same registrations succeed as on the registry that they show. -/
theorem registered?_eq (shows : t.Shows r) (scalars : r.CollectsScalars) (op : Operation) :
    t.registered? op = r.registered? op := by
  rw [registered?, Registry.registered?]
  refine congrArg op.registrant?.bind (funext fun registrant => ?_)
  rw [(mirrors_register shows scalars registrant.name registrant.items).result_eq,
    Registry.enter_eq, Checked.value_outcome_map]
  cases (r.register registrant.name registrant.items).outcome.value <;> rfl

/-- The tables show the registry all along a run, if every name that is registered is found
again. -/
theorem Shows.run (ops : List Operation) : ∀ {past : List (Value × List Field)} {r : Registry}
    {t : Tables}, t.Shows r → Reflects config past r → r.Tidy →
      (∀ entry ∈ t.history ops, (entry.1 == entry.1) = true) →
      (t.run ops).Shows (r.run ops) ∧ (r.run ops).Tidy ∧ t.history ops = r.history ops := by
  induction ops with
  | nil => exact fun shows _ tidy _ => ⟨shows, tidy, rfl⟩
  | cons op rest ih =>
    intro past r t shows reflects tidy found
    have entered := registered?_eq shows reflects.collectsScalars op
    rw [history, List.forall_mem_append, entered] at found
    obtain ⟨here, later⟩ := found
    have next := tidy.step fun entry there => here entry (Option.mem_toList.2 there)
    have shown := shows.step reflects.collectsScalars tidy op
    obtain ⟨shownLast, tidyLast, same⟩ := ih shown (reflects.step op) next later
    exact ⟨shownLast, tidyLast, by rw [history, Registry.history, entered, same]⟩

/-- Where all operations are proper, every name that is registered is found again. -/
theorem found_of_proper {ops : List Operation} :
    ∀ {t : Tables}, (∀ op ∈ ops, op.IsProper) →
      ∀ entry ∈ t.history ops, (entry.1 == entry.1) = true := by
  induction ops with
  | nil => exact nofun
  | cons op rest ih =>
    intro t proper entry there
    obtain ⟨here, later⟩ := List.forall_mem_cons.1 proper
    rw [history, List.mem_append, Option.mem_toList] at there
    rcases there with now | afterwards
    · obtain ⟨registrant, asked, carried⟩ := Option.bind_eq_some_iff.1 now
      split at carried
      · obtain ⟨_, _, rfl⟩ := Option.map_eq_some_iff.1 carried
        exact here registrant asked
      · cases carried
    · exact ih later entry afterwards

/-- What a run on empty tables leaves behind, if every name that is registered is found again. -/
theorem shows_run (config : Config) {ops : List Operation}
    (found : ∀ entry ∈ empty.history ops, (entry.1 == entry.1) = true) :
    (empty.run ops).Shows ((Registry.empty config).run ops) ∧
      ((Registry.empty config).run ops).Tidy ∧
      empty.history ops = (Registry.empty config).history ops :=
  (shows_empty config).run ops (Registry.reflects_empty config) (Registry.tidy_empty config) found

end Tables

namespace Registry

variable {config : Config} {past : List (Value × List Field)} {r : Registry}

/-! ## What the tables show -/

/-- Registered are the entities of the history. -/
theorem Reflects.has_eq (reflects : Reflects config past r) (name : Value) :
    r.has name = (lastFields? past name).isSome := by
  rcases reflects.state with rfl | ⟨rfl, -⟩
  · exact has_collected config past name
  · rw [← has_collected config, has, has, Ordered.has_iff_any, Ordered.has_iff_any, completed,
      Ordered.keys, List.map_map]
    rfl

/-- As long as nothing is finalized, the relations of the last registration of each entity are
pending, in the order in which the entities were first registered. -/
theorem Reflects.pendingTable_eq (reflects : Reflects config past r) :
    r.pendingTable = if r.finalized then []
      else Ordered.ofEntries <| past.map fun entry =>
        (entry.1, (lastOccurrences entry.2).filter Field.isRelation) := by
  rcases reflects.state with rfl | ⟨rfl, -⟩
  · have kept (fields : List Field) : (lastOccurrences fields).filter Field.isRelation =
        (lastOfEachName fields).filter Field.isRelation := by rw [lastOccurrences_eq]
    have merged := Ordered.merge_map_snd Entry.pending
      (past.map fun entry => (entry.1, Entry.collecting entry.1 entry.2)) []
    rw [List.map_map] at merged
    simp only [kept]
    exact merged.symm
  · rfl

/-- A finalized registry is the completion of what its history collected. -/
theorem Reflects.finalized (reflects : Reflects config past r) (done : r.finalized = true) :
    Finalized config past r := by
  rcases reflects.state with rfl | ⟨rfl, resolved⟩
  · cases done
  · exact ⟨reflects.fit, resolved, rfl⟩

theorem entry_of_key {name key : Value} (asked : name.asKey.mapError LookupError.unfit = .ok key) :
    r.entry name = match Ordered.find? key r.entries with
      | none => .error (.notFound key)
      | some entry => if r.finalized then .ok entry else .error (.notFinalized key) := by
  rw [entry, asked]
  rfl

end Registry

open Registry (Entry Operation)

namespace Tables

variable {α : Type} {r : Registry} {t : Tables}

/-! ## Looking up -/

/-- An entity that cannot be looked up in a registry cannot be looked up in any table. -/
theorem on_lookUp_of_error (shows : t.Shows r) {name : Value} {e : LookupError}
    (answer : r.entry name = .error e) (table : Tables → Ordered Value α) :
    (lookUp table name).on t = (.error (.refused e), t) := by
  have flag : t.finalized = r.finalized := shows.finalized
  rw [lookUp, InPlace.on_bind]
  cases asked : name.asKey.mapError LookupError.unfit with
  | error other =>
    rw [Registry.entry, asked] at answer
    cases answer
    rfl
  | ok key =>
    rw [Registry.entry_of_key asked] at answer
    simp only [InPlace.on_refuse_ok, InPlace.on_bind, InPlace.on_get, has_entities shows, flag]
    cases found : Ordered.find? key r.entries with
    | none =>
      rw [found] at answer
      cases answer
      rw [Registry.has, Ordered.has, found]
      rfl
    | some entry =>
      rw [found] at answer
      rw [Registry.has, Ordered.has, found]
      cases finalized : r.finalized with
      | false =>
        simp only [finalized, Bool.false_eq_true, if_false, Except.error.injEq] at answer
        rw [← answer]
        rfl
      | true => simp [finalized] at answer

/-- An entity that is not registered is missing in all tables. -/
theorem on_lookUp_of_missing (shows : t.Shows r) {name : Value} (fit : name.changeable? = none)
    (missing : Ordered.has name t.entities = false) (table : Tables → Ordered Value α) :
    (lookUp table name).on t = (.error (.refused (.notFound name)), t) := by
  have unknown : Ordered.find? name r.entries = none := by
    rwa [has_entities shows, Registry.has, Ordered.has, Option.isSome_eq_false_iff,
      Option.isNone_iff_eq_none] at missing
  refine on_lookUp_of_error shows ?_ table
  rw [Registry.entry_of_key (Value.mapError_asKey_of_fit fit _), unknown]

/-- An entity that is looked up in a registry is looked up in a table that has its name. -/
theorem on_lookUp_of_ok (shows : t.Shows r) {name : Value} {entry : Entry}
    (answer : r.entry name = .ok entry) (table : Tables → Ordered Value α) {x : α}
    (there : Ordered.find? name (table t) = some x) :
    (lookUp table name).on t = (.ok x, t) := by
  have flag : t.finalized = r.finalized := shows.finalized
  obtain ⟨finalized, found⟩ := Registry.find?_of_entry answer
  have known : r.has name = true := by
    rw [Registry.has, Ordered.has, found]
    rfl
  have asked := Value.mapError_asKey_of_fit (Registry.fit_of_entry answer) LookupError.unfit
  rw [lookUp, InPlace.on_bind, asked]
  simp only [InPlace.on_refuse_ok, InPlace.on_bind, InPlace.on_get, has_entities shows, flag, known,
    finalized, Bool.not_true, Bool.false_eq_true, if_false]
  exact on_require table there

/-- What is looked up in a table stands there. -/
theorem find?_of_lookUp {table : Tables → Ordered Value α} {name : Value} {x : α}
    {after : Tables} (answer : (lookUp table name).on t = (.ok x, after)) :
    Ordered.find? name (table t) = some x := by
  rw [lookUp, InPlace.on_bind] at answer
  cases asked : name.asKey with
  | error e => rw [asked] at answer; cases answer
  | ok key =>
    obtain ⟨-, rfl⟩ := Value.asKey_eq_ok_iff.1 asked
    have named : (Except.ok name : Except UnfitKey Value).mapError LookupError.unfit = .ok name :=
      rfl
    rw [asked, named] at answer
    simp only [InPlace.on_refuse_ok, InPlace.on_bind, InPlace.on_get] at answer
    split at answer
    · cases answer
    · split at answer
      · cases answer
      · -- what is expected in the table is there
        rw [require, InPlace.on_bind, InPlace.on_get] at answer
        dsimp only at answer
        cases found : Ordered.find? name (table t) with
        | none => rw [found] at answer; cases answer
        | some y => rw [found] at answer; cases answer; rfl

/-! ## What is known in the end -/

/-- A sort specification in memory is that of an entity: it is frozen and has the slots that the
fields give in one go, with references that hold the specifications of the tables. -/
structure IsSortOf (t : Tables) (name : Value) (spec : EntitySpec)
    (held : HeldSpec Value SortSlot) : Prop where
  head : (held.head == name) = true
  slots : held.slots = (HeldSpec.ofSort t.sorts.find? spec).slots
  byName : held.toSort.slots = (SortSpec.ofEntity spec).slots
  frozen : held.frozen = true

/-- A filter specification in memory is that of an entity, in the same sense. -/
structure IsFilterOf (t : Tables) (name : Value) (spec : EntitySpec)
    (held : HeldSpec FilterHead FilterSlot) : Prop where
  head : (held.head.entity == name) = true
  supportsAnd : held.head.supportsAnd = true
  supportsOr : held.head.supportsOr = true
  slots : held.slots = (HeldSpec.ofFilter t.filters.find? spec).slots
  byName : held.toFilter.slots = (FilterSpec.ofEntity spec).slots
  frozen : held.frozen = true

/-- The tables know an entity by the fields of its last registration: the complete list of these
fields is looked up, and the cells of its specifications. -/
structure Complete (past : List (Value × List Field)) (t : Tables) (name : Value)
    (fields : List Field) (spec : EntitySpec) (sort filter : Cell) : Prop where
  last : Registry.lastFields? past name = some fields
  entity : (lookUp Tables.entities name).on t = (.ok spec, t)
  sortSpec : (lookUp sortTable name).on t = (.ok sort, t)
  filterSpec : (lookUp filterTable name).on t = (.ok filter, t)
  named : (spec.name == name) = true
  fields : spec.fields = Registry.completeFields fields
  sort : ∃ held, t.sorts.read? sort = some held ∧ t.IsSortOf name spec held
  filter : ∃ held, t.filters.read? filter = some held ∧ t.IsFilterOf name spec held

/-- The specifications of an entity that is looked up are in the cells of its name. -/
theorem Shows.exists_cells (shows : t.Shows r) {name : Value} {entry : Entry}
    (known : r.entry name = .ok entry) :
    ∃ sort filter, t.sorts.find? name = some sort ∧ t.filters.find? name = some filter ∧
      t.sorts.read? sort = some (entry.heldSort t.sorts.find? true) ∧
      t.filters.read? filter = some (entry.heldFilter t.filters.find? true) := by
  obtain ⟨finalized, found⟩ := Registry.find?_of_entry known
  have shown := shows.toShowsEntries
  rw [finalized] at shown
  have part {β : Type} (f : Entry → β) :
      Ordered.find? name (r.entries.map fun other => (other.1, f other.2)) = some (f entry) := by
    rw [Ordered.find?_map_snd, found, Option.map_some]
  obtain ⟨sort, atSort, readSort⟩ := shown.sorts.exists_cell (part _)
  obtain ⟨filter, atFilter, readFilter⟩ := shown.filters.exists_cell (part _)
  exact ⟨sort, filter, atSort, atFilter, readSort, readFilter⟩

theorem Shows.find?_entities (shows : t.Shows r) {name : Value} {entry : Entry}
    (known : r.entry name = .ok entry) : Ordered.find? name t.entities = some entry.spec := by
  rw [shows.entities, Ordered.find?_map_snd, (Registry.find?_of_entry known).2, Option.map_some]

/-- An entity that is complete in a registry is complete in the tables that show it. -/
theorem Shows.complete (shows : t.Shows r) {past : List (Value × List Field)} {name : Value}
    {fields : List Field} {entry : Entry} (complete : Registry.Complete past r name fields entry) :
    ∃ sort filter, t.Complete past name fields entry.spec sort filter := by
  obtain ⟨sort, filter, atSort, atFilter, readSort, readFilter⟩ :=
    shows.exists_cells complete.known
  have spec := shows.find?_entities complete.known
  refine ⟨sort, filter, complete.last, on_lookUp_of_ok shows complete.known _ spec,
    on_lookUp_of_ok shows complete.known _ atSort, on_lookUp_of_ok shows complete.known _ atFilter,
    complete.named.spec, complete.fields, ⟨_, readSort, ?_⟩, ⟨_, readFilter, ?_⟩⟩
  -- what is in the cells was made with the references of the tables, by the definition of `Shows`
  · exact ⟨complete.named.sort, rfl, HeldSpec.plainSlots_of_slots rfl, rfl⟩
  · exact ⟨complete.named.filter, complete.named.supportsAnd, complete.named.supportsOr, rfl,
      HeldSpec.plainSlots_of_slots rfl, rfl⟩

/-! ## Refusing a relation -/

/-- A relation leads to a registered entity, if it leads anywhere. -/
def Leads (t : Tables) (f : Field) : Prop :=
  ∀ target, f.target? = some target →
    target.changeable? = none ∧ Ordered.has target t.entities = true

/-- A relation of an owner leads to what may be the name of an entity, but of none that is
registered. -/
structure IsDangling (t : Tables) (relation : Value × Field) (d : DanglingRelation) : Prop where
  owner : d.owner = relation.1
  field : d.field = relation.2.name
  target : relation.2.target? = some d.target
  fit : d.target.changeable? = none
  missing : Ordered.has d.target t.entities = false

end Tables

namespace Registry

variable {r : Registry}

/-- What is wrong with a relation of an owner. -/
def relationFault? (r : Registry) (relation : Value × Field) : Option FinalizeError :=
  relation.2.target?.bind (r.targetFault? relation.1 relation.2.name)

theorem exists_dangling {relation : Value × Field} {e : FinalizeError}
    (fit : ∀ target, relation.2.target? = some target → target.changeable? = none)
    (fault : r.relationFault? relation = some e) : ∃ d, e = .dangling d := by
  obtain ⟨target, leads, fault⟩ := Option.bind_eq_some_iff.1 fault
  rw [targetFault?, Value.asKey, fit target leads] at fault
  cases there : r.has target with
  | true => simp [there] at fault
  | false => exact ⟨_, by simpa [there] using fault.symm⟩

end Registry

namespace Tables

variable {r : Registry} {t : Tables}

/-- What is wrong with a registry that collects is what is wrong with the first of its pending
relations that leads nowhere. -/
theorem dangling?_eq (shows : t.Shows r) (collecting : r.finalized = false) :
    r.dangling? = t.relations.findSome? r.relationFault? := by
  have pending : t.pending = r.entries.map fun entry => (entry.1, entry.2.pending) := by
    simp only [shows.pending, Registry.pendingTable, collecting, Bool.false_eq_true, if_false]
  rw [Registry.dangling?, Tables.relations, pending]
  induction r.entries with
  | nil => rfl
  | cons entry rest ih =>
    have first : r.danglingField? entry.1 entry.2.pending =
        (entry.2.pending.map (entry.1, ·)).findSome? r.relationFault? := by
      rw [List.findSome?_map]
      rfl
    rw [List.findSome?_cons, List.map_cons, List.flatMap_cons, List.findSome?_append, ← ih, first]
    dsimp only
    cases (entry.2.pending.map (entry.1, ·)).findSome? r.relationFault? <;> rfl

theorem relationFault?_eq_none_iff (shows : t.Shows r) {relation : Value × Field} :
    r.relationFault? relation = none ↔ t.Leads relation.2 := by
  rw [Registry.relationFault?, Option.bind_eq_none_iff]
  refine forall₂_congr fun target _ => ?_
  rw [has_entities shows, Registry.targetFault?, Value.asKey]
  cases target.changeable? <;> simp

theorem relationFault?_eq_dangling_iff (shows : t.Shows r) {relation : Value × Field}
    {d : DanglingRelation} :
    r.relationFault? relation = some (.dangling d) ↔ t.IsDangling relation d := by
  rw [Registry.relationFault?, Option.bind_eq_some_iff]
  constructor
  · rintro ⟨target, leads, fault⟩
    rw [Registry.targetFault?, Value.asKey] at fault
    cases part : target.changeable? with
    | some _ => simp [part] at fault
    | none =>
      cases there : r.has target with
      | true => simp [part, there] at fault
      | false =>
        simp only [part, there, Bool.false_eq_true, if_false, Option.some.injEq,
          FinalizeError.dangling.injEq] at fault
        subst fault
        exact ⟨rfl, rfl, leads, part, (has_entities shows target).trans there⟩
  · rintro ⟨owner, field, leads, fit, missing⟩
    refine ⟨d.target, leads, ?_⟩
    rw [has_entities shows] at missing
    simp only [Registry.targetFault?, Value.asKey, fit, missing, ← owner, ← field,
      Bool.false_eq_true, if_false]

/-! ## Finalizing once -/

theorem finalize_eq_error_iff (shows : t.Shows r) (tidy : r.Tidy) {e : FinalizeError} :
    (finalize.on t).1 = .error (.refused e) ↔ r.finalized = false ∧ r.dangling? = some e := by
  rw [(mirrors_finalize shows tidy.distinct tidy.same).result_eq, Registry.value_finalize]
  cases r.finalized with
  | true => simp [Except.map, Except.mapError]
  | false => cases r.dangling? <;> simp [Except.map, Except.mapError]

/-- Finalizing is refused for the first relation that leads nowhere. -/
theorem finalize_refused_iff (shows : t.Shows r) (tidy : r.Tidy) (d : DanglingRelation) :
    (finalize.on t).1 = .error (.refused (.dangling d)) ↔
      t.finalized = false ∧ ∃ before relation after,
        t.relations = before ++ relation :: after ∧
          (∀ earlier ∈ before, t.Leads earlier.2) ∧ t.IsDangling relation d := by
  rw [finalize_eq_error_iff shows tidy, shows.finalized]
  refine and_congr_right fun collecting => ?_
  rw [dangling?_eq shows collecting, List.findSome?_eq_some_iff]
  simp only [relationFault?_eq_none_iff shows, relationFault?_eq_dangling_iff shows]
  exact exists₃_congr fun _ _ _ => and_congr_right fun _ => and_comm

/-- Where every relation leads to what may be a name, one that dangles makes finalizing fail for
a dangling relation, if not for the same one. -/
theorem finalize_dangling_iff (shows : t.Shows r) (tidy : r.Tidy)
    (fit : ∀ relation ∈ t.relations, ∀ target, relation.2.target? = some target →
      target.changeable? = none) :
    (∃ d, (finalize.on t).1 = .error (.refused (.dangling d))) ↔
      t.finalized = false ∧ ∃ relation ∈ t.relations, ∃ d, t.IsDangling relation d := by
  constructor
  · rintro ⟨d, refused⟩
    obtain ⟨collecting, before, relation, after, split, -, dangling⟩ :=
      (finalize_refused_iff shows tidy d).1 refused
    exact ⟨collecting, relation, split ▸ List.mem_append_right _ List.mem_cons_self, d, dangling⟩
  · rintro ⟨collecting, relation, among, d, dangling⟩
    rw [shows.finalized] at collecting
    have faulty := (relationFault?_eq_dangling_iff shows).2 dangling
    have some : (t.relations.findSome? r.relationFault?).isSome = true :=
      List.findSome?_isSome_iff.2 ⟨relation, among, by rw [faulty, Option.isSome_some]⟩
    obtain ⟨e, first⟩ := Option.isSome_iff_exists.1 some
    -- the first fault is of the same sort, as all targets may be names
    obtain ⟨other, there, fault⟩ := List.exists_of_findSome?_eq_some first
    obtain ⟨d, rfl⟩ := Registry.exists_dangling (fit other there) fault
    exact ⟨d, (finalize_eq_error_iff shows tidy).2
      ⟨collecting, (dangling?_eq shows collecting).trans first⟩⟩

/-- Where finalizing in place succeeds, finalizing does, and the tables show what it returns. -/
theorem finalize_eq_ok (shows : t.Shows r) (tidy : r.Tidy) {after : Tables}
    (done : finalize.on t = (.ok (), after)) :
    ∃ last, r.finalize.outcome.value = .ok last ∧ after.Shows last := by
  have mirrors := mirrors_finalize shows tidy.distinct tidy.same
  cases value : r.finalize.outcome.value with
  | error e =>
    have result := mirrors.result_eq
    rw [done, value] at result
    cases result
  | ok last =>
    have shown : (finalize.on t).2.Shows (r.settle r.finalize) :=
      mirrors.shows_settle shows (by rw [value]; rfl)
    rw [done, Registry.settle, value] at shown
    exact ⟨last, rfl, shown⟩

theorem finalized_of_finalize (shows : t.Shows r) (tidy : r.Tidy) {after : Tables}
    (done : finalize.on t = (.ok (), after)) : after.finalized = true := by
  obtain ⟨last, value, shown⟩ := finalize_eq_ok shows tidy done
  rw [shown.finalized]
  rcases Registry.of_finalize value with ⟨finalized, rfl⟩ | ⟨-, -, rfl⟩
  · exact finalized
  · rfl

theorem register_of_finalized (done : t.finalized = true) (name : Value)
    (items : List FieldItem) :
    (register name items).on t = (.error (.refused (.frozen name)), t) := by
  simp [register, done]

theorem finalize_of_finalized (done : t.finalized = true) : finalize.on t = (.ok (), t) := by
  simp [finalize, done]

/-- Nothing changes tables that are finalized. -/
theorem run_of_finalized (done : t.finalized = true) (ops : List Operation) : t.run ops = t := by
  induction ops with
  | nil => rfl
  | cons op rest ih =>
    have same : t.step op = t := by
      rw [step]
      cases op.registrant? with
      | none => simp only [finalize_of_finalized done]
      | some registrant => simp only [register_of_finalized done]
    rw [run, List.foldl_cons, same]
    exact ih

/-! ## The lifecycle -/

/-- What holds of the tables after the registrations of a history, whatever failed in between. -/
structure Lifecycle (past : List (Value × List Field)) (t : Tables) : Prop where
  /-- The tables are about the same entities, and these are the registered ones. -/
  sorts : Ordered.keys t.sortTable = Ordered.keys t.entities
  filters : Ordered.keys t.filterTable = Ordered.keys t.entities
  registered : ∀ name, Ordered.has name t.entities = (Registry.lastFields? past name).isSome
  /-- Until they are attached, the relations of the last registration of each entity are pending,
  in the order in which the entities were first registered. -/
  pending : t.pending = if t.finalized then []
    else Ordered.ofEntries <| past.map fun entry =>
      (entry.1, (Registry.lastOccurrences entry.2).filter Field.isRelation)
  /-- An operation that fails changes nothing, and misses no key and no cell that it expects. -/
  register_atomic : ∀ name items, (register name items).IsAtomicOn t
  finalize_atomic : finalize.IsAtomicOn t
  /-- Finalizing is refused for the first relation that leads nowhere. -/
  finalize_refused_iff : ∀ d, (finalize.on t).1 = .error (.refused (.dangling d)) ↔
    t.finalized = false ∧ ∃ before relation after, t.relations = before ++ relation :: after ∧
      (∀ earlier ∈ before, t.Leads earlier.2) ∧ t.IsDangling relation d
  /-- If all relations lead to what may be a name, it is refused whenever one of them dangles. -/
  finalize_dangling_iff :
    (∀ relation ∈ t.relations, ∀ target, relation.2.target? = some target →
      target.changeable? = none) →
    ((∃ d, (finalize.on t).1 = .error (.refused (.dangling d))) ↔
      t.finalized = false ∧ ∃ relation ∈ t.relations, ∃ d, t.IsDangling relation d)
  /-- Finalizing is for good. -/
  finalized : ∀ {after}, finalize.on t = (.ok (), after) → after.finalized = true
  frozen : t.finalized = true → (∀ ops, t.run ops = t) ∧ ∀ name items,
    (register name items).on t = (.error (.refused (.frozen name)), t)
  /-- A look-up tells whether an entity is missing or not finalized yet. -/
  unregistered : ∀ {name}, name.changeable? = none → Ordered.has name t.entities = false →
    (lookUp Tables.entities name).on t = (.error (.refused (.notFound name)), t) ∧
    (lookUp sortTable name).on t = (.error (.refused (.notFound name)), t) ∧
    (lookUp filterTable name).on t = (.error (.refused (.notFound name)), t)
  collecting : ∀ {name}, name.changeable? = none → Ordered.has name t.entities = true →
    t.finalized = false →
    (lookUp Tables.entities name).on t = (.error (.refused (.notFinalized name)), t) ∧
    (lookUp sortTable name).on t = (.error (.refused (.notFinalized name)), t) ∧
    (lookUp filterTable name).on t = (.error (.refused (.notFinalized name)), t)
  /-- In the end it answers with all fields of the last registration and the slots they give. -/
  complete : ∀ {name}, Ordered.has name t.entities = true → t.finalized = true →
    ∃ fields spec sort filter, t.Complete past name fields spec sort filter

theorem Shows.lifecycle {config : Config} {past : List (Value × List Field)} (shows : t.Shows r)
    (reflects : Registry.Reflects config past r) (tidy : r.Tidy) : Lifecycle past t where
  sorts := by
    rw [sortTable, shows.sorts.keys, shows.entities, keys_map_entries, keys_map_entries]
  filters := by
    rw [filterTable, shows.filters.keys, shows.entities, keys_map_entries, keys_map_entries]
  registered := fun name => (has_entities shows name).trans (reflects.has_eq name)
  pending := by
    rw [shows.pending, shows.finalized]
    exact reflects.pendingTable_eq
  register_atomic := fun name items =>
    (mirrors_register shows reflects.collectsScalars name items).isAtomicOn
  finalize_atomic := (mirrors_finalize shows tidy.distinct tidy.same).isAtomicOn
  finalize_refused_iff := finalize_refused_iff shows tidy
  finalize_dangling_iff := finalize_dangling_iff shows tidy
  finalized := finalized_of_finalize shows tidy
  frozen := fun done => ⟨run_of_finalized done, register_of_finalized done⟩
  unregistered := fun fit missing =>
    ⟨on_lookUp_of_missing shows fit missing _, on_lookUp_of_missing shows fit missing _,
      on_lookUp_of_missing shows fit missing _⟩
  collecting := by
    intro name fit there collecting
    obtain ⟨entry, found⟩ : ∃ entry, Ordered.find? name r.entries = some entry := by
      rwa [has_entities shows, Registry.has, Ordered.has, Option.isSome_iff_exists] at there
    rw [shows.finalized] at collecting
    have answer : r.entry name = .error (.notFinalized name) := by
      rw [Registry.entry_of_key (Value.mapError_asKey_of_fit fit _), found]
      simp only [collecting, Bool.false_eq_true, if_false]
    exact ⟨on_lookUp_of_error shows answer _, on_lookUp_of_error shows answer _,
      on_lookUp_of_error shows answer _⟩
  complete := by
    intro name there done
    rw [has_entities shows, reflects.has_eq, Option.isSome_iff_exists] at there
    obtain ⟨fields, last⟩ := there
    rw [shows.finalized] at done
    obtain ⟨entry, complete⟩ := (reflects.finalized done).complete last
    obtain ⟨sort, filter, known⟩ := shows.complete complete
    exact ⟨fields, entry.spec, sort, filter, known⟩

/-- Whatever is registered and however often it is tried to finalize, the tables that the
operations leave behind show the registry that they lead to, and keep to the lifecycle. -/
theorem lifecycle_of_run (config : Config) {ops : List Operation}
    (proper : ∀ op ∈ ops, op.IsProper) :
    (empty.run ops).Shows ((Registry.empty config).run ops) ∧
      Lifecycle ((Registry.empty config).history ops) (empty.run ops) := by
  obtain ⟨shows, tidy, -⟩ := shows_run config (found_of_proper proper)
  have reflects := (Registry.reflects_empty config).run ops
  rw [List.nil_append] at reflects
  exact ⟨shows, shows.lifecycle reflects tidy⟩

end Tables

/-- A run in which two entities refer to each other and one to itself. At first the relations
cannot be resolved; then an entity is registered again, with a name that stands for a scalar
field before it stands for a relation, and a last registration is refused. -/
def Registry.cyclicRun : List Operation :=
  let scalar (name : String) : FieldItem := .field ⟨.text name, .scalar .string, true, true⟩
  let relation (name target : String) : FieldItem :=
    .field ⟨.text name, .relation (.text target), true, true⟩
  [.enter (.listed (.text "Order") [scalar "id", relation "customer" "Customer"]),
   .finalize,
   .enter (.listed (.text "Customer")
     [relation "orders" "Order", scalar "name", relation "referrer" "Customer"]),
   .enter (.listed (.text "Order")
     [scalar "customer", scalar "id", relation "customer" "Customer"]),
   .enter (.listed (.text "Order") [.stray .null])]

namespace Tables

/-- A run in which finalizing is tried too early, an entity is registered again, and a
registration is refused half way through its fields. -/
theorem lifecycle_of_run_cyclic :
    (∀ op ∈ Registry.cyclicRun, op.IsProper) ∧
      (finalize.on (empty.run (Registry.cyclicRun.take 1))).1 =
        .error (.refused (.dangling ⟨.text "Order", .text "customer", .text "Customer"⟩)) ∧
      (empty.run Registry.cyclicRun).Shows ((Registry.empty .standard).run Registry.cyclicRun) ∧
      Lifecycle ((Registry.empty .standard).history Registry.cyclicRun)
        (empty.run Registry.cyclicRun) := by
  have proper : ∀ op ∈ Registry.cyclicRun, op.IsProper := by
    simp only [Registry.cyclicRun, List.forall_mem_cons]
    refine ⟨?_, ?_, ?_, ?_, ?_, nofun⟩ <;>
      exact Registry.isProper_of_text fun _ asked => by cases asked <;> exact ⟨_, rfl⟩
  obtain ⟨shown, lifecycle⟩ := lifecycle_of_run .standard proper
  exact ⟨proper, rfl, shown, lifecycle⟩

end Tables

end ListQuery
