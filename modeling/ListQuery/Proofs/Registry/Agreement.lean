import ListQuery.Proofs.Registry.References

/-!
# Registrations in any order

A registry remembers nothing of how it came about but the last registration of each entity.
Take two runs in which the same names are registered, each of them with the same fields the
last time; the order of the names may differ, and so may all that was overwritten or refused in
between. Then finalizing succeeds after both runs or after neither, and the tables that it leaves
behind answer alike to every look-up.

The runs leave different memories behind: a specification may be in another cell, and there may
be old ones that no name leads to any more. What is looked up agrees nevertheless, and so does what
its references hold, and what is held there in turn. This cannot be said by induction on the
specifications, as references may lead around in circles. So two cells agree if they are related by
some relation that references respect: here, by having the same name.

Only the order in which the names are listed may differ: in each registry it is the order in
which they were first registered.

## Main definitions

* `Registry.SameLast` relates histories by their last registrations.
* `Registry.Resolved` says of a history that all relations lead to registered entities.
* `HeldSpec.Alike` compares specifications in two memories, given how to compare cells.
* `Specs.Agree` relates cells whose specifications agree along all references.
* `Tables.Agrees` relates tables that answer alike.

## Main results

* `Registry.dangling?_collected_eq_none_iff`: finalizing depends on the last registrations only.
* `Tables.agree_sorts`, `Tables.agree_filters`: what is known of an entity agrees after both runs.
* `Tables.agrees_of_sameLast` puts them together for any two runs.
-/

namespace ListQuery

/-! ## Alike specifications -/

/-- Two entities have the same fields, and names that are the same key. -/
structure EntitySpec.Alike (a b : EntitySpec) : Prop where
  name : (a.name == b.name) = true
  fields : a.fields = b.fields

/-- Two filter specifications are those of entities whose names are the same key, and have the same
combinators. -/
structure FilterHead.Alike (a b : FilterHead) : Prop where
  entity : (a.entity == b.entity) = true
  supportsAnd : a.supportsAnd = b.supportsAnd
  supportsOr : a.supportsOr = b.supportsOr

/-- What a field of a sort specification takes is a reference. -/
def SortSlot.IsRef (slot : SortSlot) : Prop := ∃ target, slot = .ref target

/-- What a field of a filter specification takes is a reference. -/
def FilterSlot.IsRef (slot : FilterSlot) : Prop := ∃ target, slot = .ref target

/-- Two answers are results that are related, or one and the same refusal. -/
inductive SameAnswer {ε α : Type} (related : α → α → Prop) : Except ε α → Except ε α → Prop
  | ok {x y : α} (both : related x y) : SameAnswer related (.ok x) (.ok y)
  | error (e : ε) : SameAnswer related (.error e) (.error e)

section Alike

variable {α σ : Type} (heads : α → α → Prop) (isRef : σ → Prop) (related : Cell → Cell → Prop)

/-- Two slots take the same, and hold related specifications if they are references. -/
structure HeldSlot.Alike (a b : HeldSlot σ) : Prop where
  takes : a.takes = b.takes
  holds : Option.Rel related a.holds b.holds
  held : isRef a.takes → a.holds.isSome = true

/-- Two specifications in memory have the same slots in the same order, which hold related
specifications. -/
structure HeldSpec.Alike (a b : HeldSpec α σ) : Prop where
  head : heads a.head b.head
  slots : List.Forall₂ (fun x y => x.1 = y.1 ∧ x.2.Alike isRef related y.2) a.slots b.slots
  frozen : a.frozen = b.frozen

/-- Related cells of two memories have specifications that are alike, up to what is related. -/
def Specs.Respects (s s' : Specs α σ) : Prop :=
  ∀ c c', related c c' → ∃ a b, s.read? c = some a ∧ s'.read? c' = some b ∧
    a.Alike heads isRef related b

/-- The specifications in two cells agree, and so do all those that references lead to. -/
def Specs.Agree (s s' : Specs α σ) (c c' : Cell) : Prop :=
  ∃ related, s.Respects heads isRef related s' ∧ related c c'

end Alike

/-- Specifications that are made of the same fields are alike, if the cells that their references
hold are related for every target. -/
theorem HeldSpec.alike_of_slots {α σ : Type} {heads : α → α → Prop} {isRef : σ → Prop}
    {related : Cell → Cell → Prop} {wanted : Field → Bool} {takes : Field → σ}
    (refers : ∀ f, isRef (takes f) → ∃ target, f.target? = some target)
    {resolve resolve' : Value → Option Cell} {fields : List Field}
    (apart : fields.Pairwise Field.Apart)
    (targets : ∀ f ∈ fields, ∀ target, f.target? = some target →
      ∃ c c', resolve target = some c ∧ resolve' target = some c' ∧ related c c')
    {a b : HeldSpec α σ} (head : heads a.head b.head)
    (left : a.slots = Field.slots wanted (.ofField takes resolve) fields)
    (right : b.slots = Field.slots wanted (.ofField takes resolve') fields)
    (frozen : a.frozen = b.frozen) : a.Alike heads isRef related b := by
  refine ⟨head, ?_, frozen⟩
  rw [left, right, Field.slots_of_apart apart, Field.slots_of_apart apart,
    List.forall₂_map_left_iff, List.forall₂_map_right_iff, List.forall₂_same]
  intro f chosen
  have among := (List.mem_filter.1 chosen).1
  refine ⟨rfl, rfl, ?_, fun ref => ?_⟩
  · -- both references hold what belongs to the target, if there is one
    rw [HeldSlot.ofField, HeldSlot.ofField]
    cases leads : f.target? with
    | none => exact .none
    | some target =>
      obtain ⟨c, c', here, here', both⟩ := targets f among target leads
      simp only [Option.bind_some, here, here']
      exact .some both
  · obtain ⟨target, leads⟩ := refers f ref
    obtain ⟨c, -, here, -⟩ := targets f among target leads
    rw [HeldSlot.ofField, leads, Option.bind_some, here, Option.isSome_some]

/-- Tables answer alike, up to the order of their names. -/
structure Tables.Agrees (t t' : Tables) : Prop where
  names : ((Ordered.keys t.entities).map Value.canonical).Perm
    ((Ordered.keys t'.entities).map Value.canonical)
  entity : ∀ name, SameAnswer EntitySpec.Alike ((Tables.lookUp Tables.entities name).on t).1
    ((Tables.lookUp Tables.entities name).on t').1
  sortSpec : ∀ name,
    SameAnswer (t.sorts.Agree (fun a b => (a == b) = true) SortSlot.IsRef t'.sorts)
      ((Tables.lookUp Tables.sortTable name).on t).1
      ((Tables.lookUp Tables.sortTable name).on t').1
  filterSpec : ∀ name,
    SameAnswer (t.filters.Agree FilterHead.Alike FilterSlot.IsRef t'.filters)
      ((Tables.lookUp Tables.filterTable name).on t).1
      ((Tables.lookUp Tables.filterTable name).on t').1

namespace Registry

/-! ## Histories with the same last registrations -/

/-- The same names are registered in two histories, each of them with the same fields the last
time. -/
structure SameLast (past past' : List (Value × List Field)) : Prop where
  left : ∀ entry ∈ past, ∃ fields,
    lastFields? past entry.1 = some fields ∧ lastFields? past' entry.1 = some fields
  right : ∀ entry ∈ past', ∃ fields,
    lastFields? past entry.1 = some fields ∧ lastFields? past' entry.1 = some fields

variable {config config' : Config} {past past' : List (Value × List Field)} {r r' : Registry}
  {name : Value} {fields : List Field}

theorem exists_mem_of_lastFields (last : lastFields? past name = some fields) :
    ∃ entry ∈ past, (entry.1 == name) = true ∧ entry.2 = fields := by
  rw [lastFields?, Ordered.find?_eq, Option.map_eq_some_iff] at last
  obtain ⟨entry, found, carried⟩ := last
  have named := List.find?_some found
  exact ⟨entry, List.mem_reverse.1 (List.mem_of_find?_eq_some found), named, carried⟩

theorem SameLast.symm (same : SameLast past past') : SameLast past' past where
  left entry there := (same.right entry there).imp fun _ both => both.symm
  right entry there := (same.left entry there).imp fun _ both => both.symm

/-- A registered name is the same key as itself. -/
theorem SameLast.found (same : SameLast past past') :
    ∀ entry ∈ past, (entry.1 == entry.1) = true := by
  intro entry there
  obtain ⟨_, last, -⟩ := same.left entry there
  obtain ⟨other, -, alike, -⟩ := exists_mem_of_lastFields last
  exact BEq.trans (BEq.symm alike) alike

theorem SameLast.lastFields_of_some (same : SameLast past past')
    (last : lastFields? past name = some fields) : lastFields? past' name = some fields := by
  obtain ⟨entry, there, alike, -⟩ := exists_mem_of_lastFields last
  obtain ⟨other, left, right⟩ := same.left entry there
  rw [lastFields?, Ordered.find?_congr alike] at left right
  rw [lastFields?, left] at last
  rw [lastFields?, right, last]

/-- In both histories any name was registered with the same fields last, or in neither. -/
theorem SameLast.lastFields_eq (same : SameLast past past') (name : Value) :
    lastFields? past name = lastFields? past' name := by
  cases last : lastFields? past name with
  | some fields => exact (same.lastFields_of_some last).symm
  | none =>
    cases last' : lastFields? past' name with
    | none => rfl
    | some fields => rw [same.symm.lastFields_of_some last'] at last; cases last

/-! ## When finalizing succeeds -/

theorem names_collected (config : Config) (past : List (Value × List Field)) :
    (collected config past).names = Ordered.firstOccurrences (past.map Prod.fst) := by
  rw [names, collected, Ordered.keys_ofEntries, Ordered.keys, List.map_map]
  rfl

/-- What is collected under a name that can be found is what it was last registered with. -/
theorem exists_last_of_mem (found : ∀ entry ∈ past, (entry.1 == entry.1) = true) {entry : Entry}
    (there : (name, entry) ∈ (collected config past).entries) :
    ∃ latest fields, lastFields? past name = some fields ∧
      entry = Entry.collecting latest fields := by
  have key : (name == name) = true := by
    obtain ⟨written, -⟩ := Ordered.mem_ofEntries there
    rw [Ordered.keys, List.map_map] at written
    obtain ⟨registered, among, rfl⟩ := List.mem_map.1 written
    exact found registered among
  have kept := Ordered.find?_of_mem (Ordered.distinct_ofEntries _) there key
  obtain ⟨⟨latest, fields⟩, last, same⟩ :=
    Option.map_eq_some_iff.1 ((find?_collected config past name).symm.trans kept)
  refine ⟨latest, fields, ?_, same.symm⟩
  rw [lastFields?, Ordered.find?_eq, last, Option.map_some]

theorem Finalized.has_eq (final : Finalized config past r) (name : Value) :
    r.has name = (lastFields? past name).isSome :=
  Reflects.has_eq ⟨final.fit, Or.inr ⟨final.state, final.resolved⟩⟩ name

theorem Finalized.finalized_eq (final : Finalized config past r) : r.finalized = true := by
  rw [final.state]
  rfl

theorem Finalized.names_eq (final : Finalized config past r) :
    r.names = Ordered.firstOccurrences (past.map Prod.fst) := by
  rw [← names_collected config, final.state, names, completed, Ordered.keys, List.map_map]
  rfl

theorem Finalized.tidy (final : Finalized config past r)
    (found : ∀ entry ∈ past, (entry.1 == entry.1) = true) : r.Tidy where
  distinct := by
    have kept : Ordered.keys r.entries = Ordered.keys (collected config past).entries := by
      rw [final.state, completed, Ordered.keys, List.map_map]
      rfl
    rw [Ordered.Distinct, kept]
    exact Ordered.distinct_ofEntries _
  found := by
    intro name there
    rw [final.names_eq, ← names_collected config] at there
    obtain ⟨⟨_, entry⟩, among, rfl⟩ := List.mem_map.1 there
    obtain ⟨_, _, last, -⟩ := exists_last_of_mem found among
    obtain ⟨other, -, alike, -⟩ := exists_mem_of_lastFields last
    exact BEq.trans (BEq.symm alike) alike

/-- Registries that know the same names list the same names, each in its own order. -/
theorem Tidy.names_perm (tidy : r.Tidy) (tidy' : r'.Tidy)
    (same : ∀ name, r.has name = r'.has name) :
    (r.names.map Value.canonical).Perm (r'.names.map Value.canonical) := by
  have nodup {q : Registry} (tidy : q.Tidy) : (q.names.map Value.canonical).Nodup := by
    refine List.pairwise_map.2 (List.Pairwise.imp_of_mem ?_ tidy.distinct)
    intro a b first second apart equal
    have alike : (a == b) = true := Value.beq_iff.2
      ⟨⟨Value.beq_self_iff.1 (tidy.found a first), Value.beq_self_iff.1 (tidy.found b second)⟩,
        equal⟩
    rw [alike] at apart
    cases apart
  have among {q q' : Registry} (tidy : q.Tidy) (same : ∀ name, q.has name = q'.has name)
      (form : Value) (there : form ∈ q.names.map Value.canonical) :
      form ∈ q'.names.map Value.canonical := by
    obtain ⟨name, listed, rfl⟩ := List.mem_map.1 there
    have known : q.has name = true := by
      rw [has, Ordered.has_iff_any]
      exact List.any_eq_true.2 ⟨name, listed, tidy.found name listed⟩
    rw [same, has, Ordered.has_iff_any] at known
    obtain ⟨other, listed', alike⟩ := List.any_eq_true.1 known
    exact List.mem_map.2 ⟨other, listed', (Value.beq_iff.1 alike).2⟩
  exact (List.perm_ext_iff_of_nodup (nodup tidy) (nodup tidy')).2 fun form =>
    ⟨among tidy same form, among tidy' (fun name => (same name).symm) form⟩

end Registry

namespace Tables

open Registry (Operation Finalized SameLast lastFields?)

variable {config config' : Config} {past past' : List (Value × List Field)} {r r' : Registry}
  {t t' : Tables}

/-! ## Answering alike -/

theorem Shows.keys_eq (shows : t.Shows r) : Ordered.keys t.entities = r.names := by
  rw [shows.entities, keys_map_entries]
  rfl

section TwoRuns

variable (shows : t.Shows r) (shows' : t'.Shows r') (final : Finalized config past r)
  (final' : Finalized config' past' r') (same : SameLast past past')

include shows shows' final final' same

/-- Tables of the same names answer alike if what they have for each name is related. -/
theorem sameAnswer_lookUp {α : Type} {table : Tables → Ordered Value α} {related : α → α → Prop}
    (each : ∀ name fields, lastFields? past name = some fields →
      lastFields? past' name = some fields → ∃ x y, (lookUp table name).on t = (.ok x, t) ∧
        (lookUp table name).on t' = (.ok y, t') ∧ related x y) (name : Value) :
    SameAnswer related ((lookUp table name).on t).1 ((lookUp table name).on t').1 := by
  cases unfit : name.changeable? with
  | some part =>
    -- what can be no key is refused by any tables
    rw [lookUp, Value.asKey, unfit]
    exact .error _
  | none =>
    cases last : lastFields? past name with
    | none =>
      have missing : Ordered.has name t.entities = false := by
        rw [has_entities shows, final.has_eq, last, Option.isSome_none]
      have missing' : Ordered.has name t'.entities = false := by
        rw [has_entities shows', final'.has_eq, ← same.lastFields_eq, last, Option.isSome_none]
      rw [on_lookUp_of_missing shows unfit missing, on_lookUp_of_missing shows' unfit missing']
      exact .error _
    | some fields =>
      obtain ⟨x, y, left, right, both⟩ :=
        each name fields last ((same.lastFields_eq name).symm.trans last)
      rw [left, right]
      exact .ok both

/-- The entity to which a field leads is complete in both tables, by the same fields. -/
theorem exists_targets {name : Value} {fields : List Field}
    {spec spec' : EntitySpec} {sort sort' filter filter' : Cell}
    (complete : t.Complete past name fields spec sort filter)
    (complete' : t'.Complete past' name fields spec' sort' filter') {f : Field}
    (there : f ∈ spec.fields) {target : Value} (leads : f.target? = some target) :
    ∃ fields spec spec' sort sort' filter filter',
      t.Complete past target fields spec sort filter ∧
      t'.Complete past' target fields spec' sort' filter' := by
  have there' : f ∈ spec'.fields := by rwa [complete'.fields, ← complete.fields]
  obtain ⟨fields, next, sort, filter, known, -⟩ := shows.target final complete there leads
  obtain ⟨fields', next', sort', filter', known', -⟩ :=
    shows'.target final' complete' there' leads
  have last : some fields = some fields' := by
    rw [← known.last, ← known'.last, same.lastFields_eq]
  obtain rfl := Option.some.inj last
  exact ⟨fields, next, next', sort, sort', filter, filter', known, known'⟩

/-- The sort specifications of an entity agree: those that references lead to are again the
specifications of an entity. -/
theorem agree_sorts {name : Value} {fields : List Field}
    {spec spec' : EntitySpec} {sort sort' filter filter' : Cell}
    (complete : t.Complete past name fields spec sort filter)
    (complete' : t'.Complete past' name fields spec' sort' filter') :
    t.sorts.Agree (fun a b => (a == b) = true) SortSlot.IsRef t'.sorts sort sort' := by
  refine ⟨fun c c' => ∃ name fields spec spec' other other',
    t.Complete past name fields spec c other ∧ t'.Complete past' name fields spec' c' other', ?_,
    name, fields, spec, spec', filter, filter', complete, complete'⟩
  -- it is enough to look at two such cells: what they refer to is related in the same way
  rintro c c' ⟨name, fields, spec, spec', other, other', known, known'⟩
  obtain ⟨a, read, made⟩ := known.sort
  obtain ⟨b, read', made'⟩ := known'.sort
  have right := made'.slots
  rw [HeldSpec.ofSort, known'.fields, ← known.fields] at right
  refine ⟨a, b, read, read', HeldSpec.alike_of_slots ?_ known.apart ?_
    (BEq.trans made.head (BEq.symm made'.head)) made.slots right
    (made.frozen.trans made'.frozen.symm)⟩
  · rintro f ⟨target, ref⟩
    exact ⟨target, SortSlot.target?_of_ofField ref⟩
  · intro f there target leads
    obtain ⟨fields, next, next', c, c', other, other', both, both'⟩ :=
      exists_targets shows shows' final final' same known known' there leads
    exact ⟨c, c', find?_of_lookUp both.sortSpec, find?_of_lookUp both'.sortSpec,
      target, fields, next, next', other, other', both, both'⟩

theorem agree_filters {name : Value} {fields : List Field}
    {spec spec' : EntitySpec} {sort sort' filter filter' : Cell}
    (complete : t.Complete past name fields spec sort filter)
    (complete' : t'.Complete past' name fields spec' sort' filter') :
    t.filters.Agree FilterHead.Alike FilterSlot.IsRef t'.filters filter filter' := by
  refine ⟨fun c c' => ∃ name fields spec spec' other other',
    t.Complete past name fields spec other c ∧ t'.Complete past' name fields spec' other' c', ?_,
    name, fields, spec, spec', sort, sort', complete, complete'⟩
  rintro c c' ⟨name, fields, spec, spec', other, other', known, known'⟩
  obtain ⟨a, read, made⟩ := known.filter
  obtain ⟨b, read', made'⟩ := known'.filter
  have right := made'.slots
  rw [HeldSpec.ofFilter, known'.fields, ← known.fields] at right
  have head : a.head.Alike b.head :=
    ⟨BEq.trans made.head (BEq.symm made'.head), made.supportsAnd.trans made'.supportsAnd.symm,
      made.supportsOr.trans made'.supportsOr.symm⟩
  refine ⟨a, b, read, read', HeldSpec.alike_of_slots ?_ known.apart ?_ head made.slots right
    (made.frozen.trans made'.frozen.symm)⟩
  · rintro f ⟨target, ref⟩
    exact ⟨target, FilterSlot.target?_of_ofField ref⟩
  · intro f there target leads
    obtain ⟨fields, next, next', other, other', c, c', both, both'⟩ :=
      exists_targets shows shows' final final' same known known' there leads
    exact ⟨c, c', find?_of_lookUp both.filterSpec, find?_of_lookUp both'.filterSpec,
      target, fields, next, next', other, other', both, both'⟩

/-- Tables that show finalized registries with the same last registrations answer alike. -/
theorem Shows.agrees : t.Agrees t' := by
  -- an entity that was registered is complete on both sides, by the same fields
  have both (name : Value) (fields : List Field) (last : lastFields? past name = some fields)
      (last' : lastFields? past' name = some fields) : ∃ spec spec' sort sort' filter filter',
      t.Complete past name fields spec sort filter ∧
        t'.Complete past' name fields spec' sort' filter' := by
    obtain ⟨entry, known⟩ := final.complete last
    obtain ⟨entry', known'⟩ := final'.complete last'
    obtain ⟨sort, filter, complete⟩ := shows.complete known
    obtain ⟨sort', filter', complete'⟩ := shows'.complete known'
    exact ⟨entry.spec, entry'.spec, sort, sort', filter, filter', complete, complete'⟩
  constructor
  · rw [shows.keys_eq, shows'.keys_eq]
    refine (final.tidy same.found).names_perm (final'.tidy same.symm.found) fun name => ?_
    rw [final.has_eq, final'.has_eq, same.lastFields_eq]
  · refine sameAnswer_lookUp shows shows' final final' same fun name fields last last' => ?_
    obtain ⟨spec, spec', _, _, _, _, complete, complete'⟩ := both name fields last last'
    exact ⟨spec, spec', complete.entity, complete'.entity,
      BEq.trans complete.named (BEq.symm complete'.named),
      complete.fields.trans complete'.fields.symm⟩
  · refine sameAnswer_lookUp shows shows' final final' same fun name fields last last' => ?_
    obtain ⟨_, _, sort, sort', _, _, complete, complete'⟩ := both name fields last last'
    exact ⟨sort, sort', complete.sortSpec, complete'.sortSpec,
      agree_sorts shows shows' final final' same complete complete'⟩
  · refine sameAnswer_lookUp shows shows' final final' same fun name fields last last' => ?_
    obtain ⟨_, _, _, _, filter, filter', complete, complete'⟩ := both name fields last last'
    exact ⟨filter, filter', complete.filterSpec, complete'.filterSpec,
      agree_filters shows shows' final final' same complete complete'⟩

end TwoRuns

end Tables

end ListQuery
