import ListQuery.Proofs.Find.Stages
import ListQuery.Proofs.Sort.Normal
import ListQuery.Proofs.Sql.Conforming
import ListQuery.Proofs.Sql.Criteria
import ListQuery.Sql.Statement

/-!
# Sort orders that are accepted

A sort order is checked twice, and by different means: by the sort specification of an entity,
and by the schema when it becomes joins and terms. Where the registry describes the schema, what
the first lets through the second does, too. The normal form of an order has a term for each of
its directions and a join for each map that is nested in it, in the order in which they are met.

The relations that find options name for a sort order are found in a third way, by the look of
the values alone. They are the relationships that the order joins to the model itself, so that
none of them has to be left out when they are loaded.

## Main definitions

* `Value.sortLeaves` and `Value.sortNests` list the directions and the nested maps of an order.
* `Sql.Translates` says what the joins and terms for some entries are.

## Main results

* `SortSpec.IsNormal.exists_ordering`: an entry in normal form is translated.
* `Sql.orderClauses_of_normalize` puts them together for any registry.
-/

namespace ListQuery

open Registry (Complete Finalized Entry)

/-! ## What a sort order lists -/

/-- The direction that a value of a sort order names in capitals, under its key. -/
def directionUnder? (key : Value) : Value → Option (Value × SortDirection)
  | .text s => (SortDirection.ofWord? s).map (key, ·)
  | _ => none

mutual

/-- The directions of a sort order with their keys, depth first. -/
def Value.sortLeaves : Value → List (Value × SortDirection)
  | .map entries => entryLeaves entries
  | _ => []

/-- The directions of the entries of a sort order. -/
def entryLeaves : List (Value × Value) → List (Value × SortDirection)
  | [] => []
  | (key, value) :: rest =>
    (directionUnder? key value).toList ++ value.sortLeaves ++ entryLeaves rest

end

mutual

/-- The keys of the maps that are nested in a sort order, at any depth and depth first. -/
def Value.sortNests : Value → List Value
  | .map entries => entryNests entries
  | _ => []

/-- The keys of the maps in the entries of a sort order, each before those nested in it. -/
def entryNests : List (Value × Value) → List Value
  | [] => []
  | (key, value) :: rest =>
    (value.entries?.map fun _ => key).toList ++ value.sortNests ++ entryNests rest

end

theorem entryLeaves_append (first second : List (Value × Value)) :
    entryLeaves (first ++ second) = entryLeaves first ++ entryLeaves second := by
  induction first with
  | nil => rw [entryLeaves, List.nil_append, List.nil_append]
  | cons entry rest ih =>
    rw [List.cons_append, entryLeaves, entryLeaves, ih, List.append_assoc, List.append_assoc,
      List.append_assoc]

theorem entryNests_append (first second : List (Value × Value)) :
    entryNests (first ++ second) = entryNests first ++ entryNests second := by
  induction first with
  | nil => rw [entryNests, List.nil_append, List.nil_append]
  | cons entry rest ih =>
    rw [List.cons_append, entryNests, entryNests, ih, List.append_assoc, List.append_assoc,
      List.append_assoc]

/-! ## Joins and terms -/

namespace Sql

variable {ι : Type} {schema : Schema ι} {m : Model ι} {model : ι} {source : Source}
  {path : List String} {made : Nat} {key value : Value} {entries others : List (Value × Value)}
  {first second ordering : Ordering ι}

/-- A term sorts by the column of a key, in a direction. -/
def IsTermFor (leaf : Value × SortDirection) (term : Term) : Prop :=
  leaf.1.text? = some term.column.key ∧ term.direction = leaf.2

/-- A join goes through the relationship that a key names. -/
def IsJoinFor (key : Value) (join : Join ι) : Prop := key.text? = some join.relationship.key

/-- The joins and terms for some entries that are read from a source: one term for each
direction, one join for each nested map. Those joins that start from the model itself go through
the relationships that it has under the keys of the entries without a direction; what is nested
below other tables starts from other tables. -/
structure Translates (m : Model ι) (source : Source) (entries : List (Value × Value))
    (ordering : Ordering ι) : Prop where
  terms : List.Forall₂ IsTermFor (entryLeaves entries) ordering.terms
  joins : List.Forall₂ IsJoinFor (entryNests entries) ordering.joins
  own : source = .model → List.Forall₂
    (fun key join => relationshipOf? m key = some join.relationship)
    (relationKeys entries) (ordering.joins.filter fun join => join.source = .model)
  other : source ≠ .model → ∀ join ∈ ordering.joins, join.source ≠ .model

theorem translates_none : Translates m source [] .none :=
  ⟨.nil, .nil, fun _ => .nil, fun _ => List.forall_mem_nil _⟩

/-- What comes of entries and what comes of others are joined as the entries are. -/
theorem Translates.append (left : Translates m source entries first)
    (right : Translates m source others second) :
    Translates m source (entries ++ others) (first.append second) := by
  constructor
  · rw [entryLeaves_append]
    exact List.rel_append left.terms right.terms
  · rw [entryNests_append]
    exact List.rel_append left.joins right.joins
  · intro start
    rw [relationKeys_append, Ordering.append, List.filter_append]
    exact List.rel_append (left.own start) (right.own start)
  · exact fun start => List.forall_mem_append.2 ⟨left.other start, right.other start⟩

theorem relationship?_key {name : String} {rel : Relationship ι}
    (found : m.relationship? name = some rel) : rel.key = name := by
  have named := List.find?_some found
  simpa using named

theorem column?_key {name : String} {col : Column} (found : m.column? name = some col) :
    col.key = name := by
  have named := List.find?_some found
  simpa using named

/-- Under the key of a column, a direction in capitals becomes a term. -/
theorem exists_translates_direction {col : Column}
    (apart : relationshipOf? (schema model) key = none)
    (named : columnOf? (schema model) key = some col) (direction : SortDirection) :
    ∃ ordering, orderEntry schema model source path made key (.text direction.word) =
        .ok ordering ∧
      Translates (schema model) source [(key, .text direction.word)] ordering := by
  obtain ⟨name, text, found⟩ := Option.bind_eq_some_iff.1 named
  have noRelationship : (schema model).relationship? name = none := by
    rwa [relationshipOf?, text, Option.bind_some] at apart
  have read : SortDirection.ofText? (directionText (.text direction.word)) = some direction := by
    cases direction <;> rfl
  refine ⟨⟨[], [⟨source, col, direction⟩]⟩, ?_, ?_⟩
  · simp only [orderEntry, text, noRelationship, columnTerm, found, read]
    rfl
  · have term : IsTermFor (key, direction) ⟨source, col, direction⟩ := by
      refine ⟨?_, rfl⟩
      rw [text, column?_key found]
    have word : isDirectionWord (.text direction.word) = true := by
      rw [isDirectionWord, SortDirection.ofWord?_word, Option.isSome_some]
    constructor
    · simpa [entryLeaves, directionUnder?, Value.sortLeaves] using term
    · simp [entryNests, Value.sortNests, Value.entries?]
    · simp [relationKeys, word]
    · exact fun _ => List.forall_mem_nil _

/-- Under the key of a relationship, a map becomes a join and what comes of its entries. -/
theorem exists_translates_nested {rel : Relationship ι}
    (leads : relationshipOf? (schema model) key = some rel)
    (inner : ∀ path made, ∃ ordering,
      orderEntries schema rel.target (.join made) path (made + 1) entries = .ok ordering ∧
        Translates (schema rel.target) (.join made) entries ordering) :
    ∃ ordering, orderEntry schema model source path made key (.map entries) = .ok ordering ∧
      Translates (schema model) source [(key, .map entries)] ordering := by
  obtain ⟨name, text, found⟩ := Option.bind_eq_some_iff.1 leads
  obtain ⟨nested, done, translates⟩ := inner (path ++ [name]) made
  refine ⟨Ordering.append ⟨[⟨source, model, rel⟩], []⟩ nested, ?_, ?_⟩
  · simp only [orderEntry, text, found, done]
    rfl
  · have join : IsJoinFor key (⟨source, model, rel⟩ : Join ι) := by
      rw [IsJoinFor, text, relationship?_key found]
    have later := translates.other Source.noConfusion
    constructor
    · simpa [entryLeaves, directionUnder?, Value.sortLeaves, Ordering.append] using
        translates.terms
    · simpa [entryNests, Value.sortNests, Value.entries?, Ordering.append] using
        ⟨join, translates.joins⟩
    · intro start
      -- of all these joins only the first starts from the model
      have none : (nested.joins.filter fun join => join.source = .model) = [] :=
        List.filter_eq_nil_iff.2 fun join there => by simp [later join there]
      simp [relationKeys, isDirectionWord, Ordering.append, start, none, leads]
    · intro start
      exact List.forall_mem_cons.2 ⟨start, later⟩

/-- Entries are translated one after the other. -/
theorem exists_translates_of_each
    (each : ∀ entry ∈ entries, ∀ made, ∃ ordering,
      orderEntry schema model source path made entry.1 entry.2 = .ok ordering ∧
        Translates (schema model) source [entry] ordering) :
    ∀ made, ∃ ordering, orderEntries schema model source path made entries = .ok ordering ∧
      Translates (schema model) source entries ordering := by
  induction entries with
  | nil =>
    intro made
    rw [orderEntries]
    exact ⟨_, rfl, translates_none⟩
  | cons entry rest ih =>
    intro made
    obtain ⟨here, later⟩ := List.forall_mem_cons.1 each
    obtain ⟨first, done, translates⟩ := here made
    obtain ⟨others, done', translates'⟩ := ih later (made + first.joins.length)
    refine ⟨first.append others, ?_, translates.append translates'⟩
    simp only [orderEntries, done, bind, Except.bind, done']
    rfl

end Sql

/-! ## Orders of entities -/

open Sql

section Entities

variable {ι : Type} {schema : Schema ι} {model : Value → ι} {config : Config}
  {past : List (Value × List Field)} {r : Registry} {spec : SortSpec} {key value : Value}
  (final : Finalized config past r) (mapped : ∀ m, (schema m).IsMapped)
  (described : IsDescribed schema model past)

include final mapped described

/-- An entry in normal form is translated for the model of the entity. -/
theorem SortSpec.IsNormal.exists_ordering (normal : IsNormal r.sortRef? spec key value) :
    ∀ {name : Value} {fields : List Field} {entry : Entry}, Complete past r name fields entry →
      entry.sort = spec → ∀ (source : Source) (path : List String) (made : Nat), ∃ ordering,
        orderEntry schema (model name) source path made key value = .ok ordering ∧
          Translates (schema (model name)) source [(key, value)] ordering := by
  induction normal with
  | @direction spec key kind leaf direction =>
    intro name fields entry complete same source path made
    subst same
    obtain ⟨f, there, alike, -, slot⟩ := complete.exists_sortField leaf
    have scalar : f.target? = none := by
      rw [SortSlot.ofField] at slot
      cases leads : f.target? with
      | none => rfl
      | some target => rw [leads] at slot; cases slot
    obtain ⟨apart, col, named, -⟩ := described.column mapped complete there scalar
    rw [relationshipOf?, Value.text?_eq_of_beq alike] at apart
    rw [columnOf?, Value.text?_eq_of_beq alike] at named
    exact exists_translates_direction apart named direction
  | @nested spec inner key target entries ref resolved each ih =>
    intro name fields entry complete same source path made
    subst same
    obtain ⟨f, there, alike, -, slot⟩ := complete.exists_sortField ref
    have leads : f.target? = some target := SortSlot.target?_of_ofField slot
    obtain ⟨rel, related, reaches⟩ := described.relationship complete there leads
    rw [relationshipOf?, Value.text?_eq_of_beq alike] at related
    -- the specification that the reference leads to is that of the target
    obtain ⟨fields', next, completeNext⟩ := final.target complete there leads
    have same : next.sort = inner := Option.some.inj (completeNext.sortRef.symm.trans resolved)
    refine exists_translates_nested related fun path made => ?_
    rw [reaches]
    exact exists_translates_of_each
      (fun entry among made' => ih entry among completeNext same (.join made) path made') _

end Entities

namespace Sql

variable {ι : Type} {m : Model ι} {schema : Schema ι} {model : ι} {allowRaw : Bool}

/-- Relations that a model has are loaded without a notice. -/
theorem notices_eagerLoads {relations : List Value}
    (known : ∀ relation ∈ relations, (relationshipOf? m relation).isSome = true) :
    (eagerLoads m relations).notices = [] := by
  induction relations with
  | nil => rfl
  | cons relation rest ih =>
    obtain ⟨here, later⟩ := List.forall_mem_cons.1 known
    obtain ⟨rel, found⟩ := Option.isSome_iff_exists.1 here
    rw [eagerLoads, found]
    dsimp only
    rw [Logged.notices_map, ih later]

/-- A statement for find options whose relations the model has leaves none of them out. -/
theorem within_findQuery {options : FindOptions}
    (known : ∀ relation ∈ options.relations,
      (relationshipOf? (schema model) relation).isSome = true) :
    (findQuery schema allowRaw model options).Within
      (fun notice => ∀ relation table, notice ≠ .relationSkipped relation table)
      (fun _ => True) := by
  have condition : (whereClause schema allowRaw model options.criteria).Within
      (fun notice => ∀ relation table, notice ≠ .relationSkipped relation table)
      (fun _ => True) := by
    refine ⟨fun notice there => ?_, fun _ _ => trivial⟩
    obtain ⟨column, rfl⟩ := rawNotice_of_whereClause options.criteria notice there
    exact nofun
  have query : (conditionAndOrder schema allowRaw model options.criteria options.order).Within
      (fun notice => ∀ relation table, notice ≠ .relationSkipped relation table)
      (fun _ => True) :=
    (Checked.Within.adapt condition).bind fun _ =>
      (Checked.within_ofExcept fun _ _ => trivial).bind fun _ => Checked.within_pure _
  refine query.bind fun _ => (Checked.within_ofLogged ?_).bind fun _ => Checked.within_pure _
  rw [notices_eagerLoads known]
  exact List.forall_mem_nil _

end Sql

/-- In a registry that was finalized after its entities were registered with the fields of their
models, the normal form of any sort order for an entity is translated for the model of the
entity. It has one term for each direction and one join for each nested map, all in the order in
which they are met. The relations that are inferred from it are the relationships that it joins
to the model itself, and none of them is left out of a statement. -/
theorem orderClauses_of_normalize {ι : Type} {schema : Schema ι}
    (mapped : ∀ m, (schema m).IsMapped) {config : Config} {ops : List Registry.Operation}
    {r : Registry}
    (done : ((Registry.empty config).run ops).finalize.outcome.value = .ok r)
    {model : Value → ι}
    (described : IsDescribed schema model ((Registry.empty config).history ops))
    {name : Value} {graph : SortGraph} (known : r.sortGraph name = .ok graph)
    {order normal : Value} (accepted : graph.normalize order = .ok normal) :
    ∃ ordering relations, orderClauses schema (model name) normal = .ok ordering ∧
      List.Forall₂ IsTermFor normal.sortLeaves ordering.terms ∧
      List.Forall₂ IsJoinFor normal.sortNests ordering.joins ∧
      inferRelations normal = .ok relations ∧
      List.Forall₂
        (fun relation join =>
          relationshipOf? (schema (model name)) relation = some join.relationship)
        relations (ordering.joins.filter fun join => join.source = .model) ∧
      ∀ (allowRaw : Bool) (options : FindOptions), options.order = normal →
        options.relations = relations →
        ∀ notice ∈ (findQuery schema allowRaw (model name) options).outcome.notices,
          ∀ relation table, notice ≠ .relationSkipped relation table := by
  have final := Registry.finalized_of_run done
  obtain ⟨entry, fields, complete, rfl⟩ : ∃ entry fields,
      Complete ((Registry.empty config).history ops) r name fields entry ∧
        graph = ⟨entry.sort, r.sortRef?⟩ := by
    rw [Registry.sortGraph, Registry.sortSpec] at known
    cases looked : r.entry name with
    | error e => rw [looked] at known; cases known
    | ok entry =>
      obtain ⟨fields, entry, complete⟩ := final.exists_complete looked
      have found := complete.sortSpec
      rw [Registry.sortSpec] at found
      rw [found] at known
      exact ⟨entry, fields, complete, (Except.ok.inj known).symm⟩
  -- an order counts as false where it is nothing or empty, and then there is nothing to show
  have translated : ∃ entries ordering, orderClauses schema (model name) normal = .ok ordering ∧
      Translates (schema (model name)) .model entries ordering ∧
      normal.sortLeaves = entryLeaves entries ∧ normal.sortNests = entryNests entries ∧
      inferRelations normal = .ok (relationKeys entries) := by
    rcases SortSpec.isNormal_of_normalize accepted with rfl | ⟨entries, rfl, each⟩
    · exact ⟨[], .none, rfl, translates_none, rfl, rfl, rfl⟩
    · cases entries with
      | nil => exact ⟨[], .none, rfl, translates_none, rfl, rfl, rfl⟩
      | cons first rest =>
        obtain ⟨ordering, ordered, translates⟩ := exists_translates_of_each
          (fun entry there made => (each entry there).exists_ordering final mapped described
            complete rfl .model [] made) 0
        exact ⟨first :: rest, ordering, ordered, translates, rfl, rfl, rfl⟩
  obtain ⟨entries, ordering, ordered, translates, leaves, nests, inferred⟩ := translated
  have own := translates.own rfl
  refine ⟨ordering, relationKeys entries, ordered, ?_, ?_, inferred, own, ?_⟩
  · rw [leaves]
    exact translates.terms
  · rw [nests]
    exact translates.joins
  · intro allowRaw options _ loaded
    refine (within_findQuery fun relation there => ?_).notices
    rw [loaded] at there
    obtain ⟨join, -, related⟩ := exists_of_mem_right (List.Forall₂.flip own) there
    rw [related, Option.isSome_some]

/-- Notes by the title of the note they answer and by the stars of all answers to that one, and
then by their own stars. -/
def noteOrder : Value :=
  .map [(.text "parent", .map [(.text "title", .text "desc"),
      (.text "answers", .map [(.text "stars", .text "ASC")])]),
    (.text "title", .null), (.text "stars", .text "Asc")]

theorem orderClauses_of_normalize_notes :
    ∃ graph normal ordering, noteRegistry.sortGraph (.text "Note") = .ok graph ∧
      graph.normalize noteOrder = .ok normal ∧
      orderClauses notes () normal = .ok ordering ∧
      normal.sortLeaves = [(.text "title", .descending), (.text "stars", .ascending),
        (.text "stars", .ascending)] ∧
      List.Forall₂ IsTermFor normal.sortLeaves ordering.terms ∧
      normal.sortNests = [.text "parent", .text "answers"] ∧
      List.Forall₂ IsJoinFor normal.sortNests ordering.joins ∧
      inferRelations normal = .ok [.text "parent"] := by
  obtain ⟨ordering, relations, ordered, terms, joins, -⟩ :=
    orderClauses_of_normalize isMapped_notes
      (show ((Registry.empty .standard).run noteRun).finalize.outcome.value = .ok noteRegistry
        from rfl)
      isDescribed_notes (show noteRegistry.sortGraph (.text "Note") = .ok _ from rfl)
      (show SortGraph.normalize _ noteOrder = .ok _ from rfl)
  exact ⟨_, _, ordering, rfl, rfl, ordered, rfl, terms, rfl, joins, rfl⟩

end ListQuery
