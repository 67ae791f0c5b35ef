import ListQuery.Proofs.Filter.Compiled
import ListQuery.Proofs.Sql.Described
import ListQuery.Proofs.Sql.Operands

/-!
# Filters that conform are accepted

A client writes a filter by the filter specification of an entity, the compiler reads it without
one, and the condition is made by the schema. The three agree where the registry describes the
schema: a filter that conforms to the specification compiles to conjunctions whose entries are
tests that the columns of the model accept, or nested conjunctions for the models that its
relationships lead to. So a conforming filter of any size is translated.

The compiler has to guess whether a map under a field is an operator object or a nested map. It
guesses right because fields are not named like operators, and it takes no field for a group
because they are not named like combinators.

## Main definitions

* `FieldConforms` holds of entries that suit a field, `Conforms` of filters that suit a
  specification.
* `WellNamed` says that fields are not named like operators or combinators.

## Main results

* `FieldConforms.succeeds`: the test for an entry that suits a field is accepted.
* `Conforms.isAccepted`: what a conforming filter compiles to is accepted, branch by branch.
* `whereClause_succeeds_of_conforms`: conforming filters are translated.
-/

namespace ListQuery

open ListQuery.Filter (Settings compileAt compileFields convertAt fieldPath fieldsOf testsOf
  value_compileEach value_compileChildren value_compileFields value_reduce value_applyFirst
  compileAt_of_members compileAt_map_cases convertAt_operators convertAt_nested join_all
  forall_branches_disjunction branches_list branches_map fieldsOf_of_plain)
open Filter.disjunction (branches)
open Registry (Complete Finalized Entry lastFields?)

/-! ## Conforming filters -/

/-- An entry of a map of fields suits the field of its key: under a scalar field stands an
object of operators that the field admits, each with an operand that fits it, and under a
relation a map of fields of the specification that it leads to. -/
inductive FieldConforms (r : Registry) (s : Settings) : FilterSpec → Nat → Value × Value → Prop
  | scalar {spec : FilterSpec} {depth : Nat} {key : Value} {entries : List (Value × Value)}
      {operators : List Operator} (filled : entries ≠ [])
      (admitted : spec.operatorsFor? key = some operators)
      (each : ∀ entry ∈ entries, ∃ op ∈ operators,
        operatorOfKey? entry.1 = some op ∧ op.Fits entry.2) :
      FieldConforms r s spec depth (key, .map entries)
  | relation {spec next : FilterSpec} {depth : Nat} {key : Value}
      {entries : List (Value × Value)} (leads : r.refFor? spec key = some next)
      (within : s.maxDepth.admits (depth + 1) = true)
      (each : ∀ entry ∈ entries, FieldConforms r s next (depth + 1) entry) :
      FieldConforms r s spec depth (key, .map entries)

/-- A filter suits a specification: it is missing, or a sequence of filters that do, or a map of
groups of such filters and of entries that suit the fields of their keys. -/
inductive Conforms (r : Registry) (s : Settings) (spec : FilterSpec) : Nat → Value → Prop
  | null {depth : Nat} : Conforms r s spec depth .null
  | sequence {depth : Nat} {node : Value} {items : List Value}
      (members : node.members? = some items) (within : s.maxDepth.admits depth = true)
      (each : ∀ item ∈ items, Conforms r s spec (depth + 1) item) : Conforms r s spec depth node
  | map {depth : Nat} {entries : List (Value × Value)} (within : s.maxDepth.admits depth = true)
      (groups : ∀ entry ∈ entries, isCombinatorKey entry.1 = true →
        entry.2.members?.isSome = true)
      (children : ∀ entry ∈ entries, isCombinatorKey entry.1 = true →
        ∀ items, entry.2.members? = some items → ∀ item ∈ items,
          Conforms r s spec (depth + 1) item)
      (fields : ∀ entry ∈ entries, isCombinatorKey entry.1 = false →
        FieldConforms r s spec depth entry) :
      Conforms r s spec depth (.map entries)

/-- No field by which entities may be filtered is named like an operator or a combinator. -/
def WellNamed (past : List (Value × List Field)) : Prop :=
  ∀ name fields, lastFields? past name = some fields → ∀ f ∈ fields, f.filterable = true →
    isOperatorKey f.name = false ∧ isCombinatorKey f.name = false

namespace Sql

variable {ι : Type} {schema : Schema ι} {model : ι} {allowRaw : Bool} {key other value : Value}
  {entries : List (Value × Value)} {col : Column} {rel : Relationship ι}

/-! ## Accepted entries -/

/-- Whether an entry is accepted depends only on the text of its key. -/
theorem succeeds_condition_congr (same : key.text? = other.text?)
    (accepted : (condition schema allowRaw model key value).Succeeds) :
    (condition schema allowRaw model other value).Succeeds := by
  have leads : relationshipOf? (schema model) key = relationshipOf? (schema model) other := by
    rw [relationshipOf?, relationshipOf?, same]
  cases found : relationshipOf? (schema model) other with
  | some rel =>
    rw [found] at leads
    obtain ⟨clause, done⟩ := accepted
    have reread := (condition_related_eq_ok_iff leads).1 done
    exact ⟨clause, (condition_related_eq_ok_iff found).2 reread⟩
  | none =>
    rw [found] at leads
    obtain ⟨clause, done⟩ := accepted
    obtain ⟨col, test, named, tested, rfl⟩ := (condition_column_eq_ok_iff leads).1 done
    rw [columnOf?, same] at named
    exact ⟨_, (condition_column_eq_ok_iff found).2 ⟨col, test, named, tested, rfl⟩⟩

/-- A branch of a predicate is a map whose entries are accepted. -/
def IsAccepted (schema : Schema ι) (allowRaw : Bool) (model : ι) (branch : Value) : Prop :=
  ∃ entries, branch = .map entries ∧
    ∀ entry ∈ entries, (condition schema allowRaw model entry.1 entry.2).Succeeds

theorem isAccepted_emptyMap : IsAccepted schema allowRaw model Value.emptyMap :=
  ⟨[], rfl, List.forall_mem_nil _⟩

/-- A predicate whose branches are accepted is translated. -/
theorem succeeds_whereClause {predicate : Value}
    (accepted : ∀ branch ∈ branches predicate, IsAccepted schema allowRaw model branch) :
    (whereClause schema allowRaw model predicate).Succeeds := by
  have single (branch : Value) (there : branch ∈ branches predicate) :
      ∃ entries, branch = .map entries ∧ (conditions schema allowRaw model entries).Succeeds := by
    obtain ⟨entries, same, each⟩ := accepted branch there
    exact ⟨entries, same, succeeds_conditions.2 each⟩
  cases predicate with
  | list items =>
    cases items with
    | nil => exact ⟨none, rfl⟩
    | cons first rest =>
      simp only [whereClause, Checked.succeeds_map]
      exact succeeds_disjuncts.2 single
  | map entries =>
    cases entries with
    | nil => exact ⟨none, rfl⟩
    | cons first rest =>
      simp only [whereClause, Checked.succeeds_map]
      exact succeeds_conjunctionOf.2 (single _ List.mem_cons_self)
  | _ =>
    obtain ⟨entries, same, -⟩ := single _ List.mem_cons_self
    cases same

/-! ## Branches of joined children -/

/-- The branches of a disjunction are those of its parts, or it is empty. -/
theorem isAccepted_disjunction {compiled : List Value}
    (each : ∀ item ∈ compiled, ∀ branch ∈ branches item, IsAccepted schema allowRaw model branch) :
    ∀ branch ∈ branches (Filter.disjunction compiled),
      IsAccepted schema allowRaw model branch :=
  forall_branches_disjunction (fun _ accepted => accepted.imp fun _ both => both.1)
    isAccepted_emptyMap each

/-- The children of a group are joined to accepted branches. Where they are conjoined, a test
may take the place of another under the key of that one. -/
theorem isAccepted_join {c : Combinator} {parts : List Value}
    (each : ∀ part ∈ parts, IsAccepted schema allowRaw model part) :
    ∀ branch ∈ branches (c.join parts), IsAccepted schema allowRaw model branch := by
  cases c with
  | any => exact each
  | all =>
    intro branch there
    rw [join_all, branches_map] at there
    refine ⟨_, List.mem_singleton.1 there, fun ⟨key, test⟩ among => ?_⟩
    obtain ⟨-, other, written, same⟩ := Ordered.mem_ofEntries among
    obtain ⟨part, first, within⟩ := List.mem_flatMap.1 written
    obtain ⟨entries, rfl, accepted⟩ := each part first
    have text : other.text? = key.text? := by
      rcases same with rfl | same
      · rfl
      · exact (Value.text?_eq_of_beq same).symm
    exact succeeds_condition_congr text (accepted (other, test) within)

end Sql

/-! ## Conforming entries -/

/-- A map of some operators is taken for an operator object. -/
theorem isOperatorObject_of_named {entries : List (Value × Value)} (filled : entries ≠ [])
    (named : ∀ entry ∈ entries, ∃ op, operatorOfKey? entry.1 = some op) :
    isOperatorObject entries = true := by
  rw [isOperatorObject, Bool.and_eq_true, List.all_eq_true]
  refine ⟨by simpa using filled, fun entry among => ?_⟩
  obtain ⟨op, known⟩ := named entry among
  rw [isOperatorKey, known, Option.isSome_some]

/-- A map of fields is not, as the first of its keys names no operator, if there is one. -/
theorem not_isOperatorObject_of_plain {entries : List (Value × Value)}
    (plain : ∀ entry ∈ entries, isOperatorKey entry.1 = false) :
    isOperatorObject entries = false := by
  cases entries with
  | nil => rfl
  | cons first rest => simp [isOperatorObject, plain first List.mem_cons_self]

open Sql

section Conforming

variable {ι : Type} {schema : Schema ι} {model : Value → ι} {allowRaw : Bool} {config : Config}
  {past : List (Value × List Field)} {r : Registry} {s : Settings} {spec : FilterSpec}
  {depth : Nat} {pair : Value × Value} {name : Value} {fields : List Field} {entry : Entry}

/-- What suits a specification is the entry of a field. -/
theorem FieldConforms.exists_field (conforms : FieldConforms r s entry.filter depth pair)
    (complete : Complete past r name fields entry) :
    ∃ f ∈ entry.spec.fields, (f.name == pair.1) = true ∧ f.filterable = true := by
  cases conforms with
  | scalar _ admitted _ =>
    obtain ⟨f, there, same, filterable, -⟩ := complete.of_operatorsFor admitted
    exact ⟨f, there, same, filterable⟩
  | relation leads _ _ =>
    obtain ⟨target, first, -⟩ := Option.bind_eq_some_iff.1 leads
    obtain ⟨f, there, same, filterable, -⟩ := complete.of_target first
    exact ⟨f, there, same, filterable⟩

/-- The key of such an entry is no operator and no combinator. -/
theorem FieldConforms.no_word (conforms : FieldConforms r s entry.filter depth pair)
    (complete : Complete past r name fields entry) (wellNamed : WellNamed past) :
    isOperatorKey pair.1 = false ∧ isCombinatorKey pair.1 = false := by
  obtain ⟨f, there, same, filterable⟩ := conforms.exists_field complete
  obtain ⟨noOperator, noWord⟩ :=
    wellNamed name fields complete.last f (complete.mem_fields there) filterable
  have text := Value.text?_eq_of_beq same
  rw [isOperatorKey, operatorOfKey?_eq, ← text, ← operatorOfKey?_eq, ← isOperatorKey]
  refine ⟨noOperator, ?_⟩
  rwa [Bool.eq_false_iff, ne_eq, isCombinatorKey_iff, ← text, ← isCombinatorKey_iff, ← ne_eq,
    ← Bool.eq_false_iff]

variable (final : Finalized config past r) (mapped : ∀ m, (schema m).IsMapped)
  (described : IsDescribed schema model past) (wellNamed : WellNamed past)

include final mapped described wellNamed

/-- The test for an entry that suits a field is accepted for the model of the entity. -/
theorem FieldConforms.succeeds (conforms : FieldConforms r s spec depth pair) :
    ∀ {name : Value} {fields : List Field} {entry : Entry}, Complete past r name fields entry →
      entry.filter = spec → ∀ path, (condition schema allowRaw (model name) pair.1
        (convertAt s depth path pair.2).value).Succeeds := by
  induction conforms with
  | @scalar spec depth key entries operators filled admitted each =>
    intro name fields entry complete same path
    subst same
    obtain ⟨f, there, same, -, scalar, rfl⟩ := complete.of_operatorsFor admitted
    obtain ⟨apart, col, named, kind⟩ := described.column mapped complete there scalar
    have object := isOperatorObject_of_named filled fun operator among =>
      let ⟨op, _, named, _⟩ := each operator among
      ⟨op, named⟩
    -- of the operators of an object, the first one decides
    obtain ⟨⟨operator, operand⟩, others, rfl⟩ := List.exists_cons_of_ne_nil filled
    obtain ⟨op, admitted, known, fits⟩ := each _ List.mem_cons_self
    rw [kind] at admitted
    have tested : (columnTest allowRaw col (op.apply operand).value).Succeeds :=
      succeeds_columnTest_apply admitted fits
    rw [convertAt_operators object, value_applyFirst, OperatorName.ofKey, known]
    refine succeeds_condition_congr (Value.text?_eq_of_beq same) ?_
    obtain ⟨test, done⟩ := tested
    exact ⟨_, (condition_column_eq_ok_iff apart).2 ⟨col, test, named, done, rfl⟩⟩
  | @relation spec next depth key entries leads within each ih =>
    intro name fields entry complete same path
    subst same
    obtain ⟨target, first, ref⟩ := Option.bind_eq_some_iff.1 leads
    obtain ⟨f, there, same, -, toTarget⟩ := complete.of_target first
    obtain ⟨fieldsNext, entryNext, completeNext⟩ := final.target complete there toTarget
    obtain rfl : entryNext.filter = next :=
      Option.some.inj (completeNext.filterRef.symm.trans ref)
    obtain ⟨rel, related, reaches⟩ := described.relationship complete there toTarget
    have words (nested : Value × Value) (among : nested ∈ entries) :=
      (each nested among).no_word completeNext wellNamed
    have noObject := not_isOperatorObject_of_plain fun nested among => (words nested among).1
    have plain := fieldsOf_of_plain fun nested among => (words nested among).2
    rw [convertAt_nested noObject within, Logged.value_map, value_compileFields, plain]
    refine succeeds_condition_congr (Value.text?_eq_of_beq same) ?_
    have inner : (conditions schema allowRaw rel.target (entries.map fun nested => (nested.1,
        (convertAt s (depth + 1) (fieldPath path nested.1) nested.2).value))).Succeeds := by
      refine succeeds_conditions.2 (List.forall_mem_map.2 fun nested among => ?_)
      rw [reaches]
      exact ih nested among completeNext rfl _
    obtain ⟨parts, done⟩ := inner
    exact ⟨_, (condition_related_eq_ok_iff related).2 ⟨_, rfl, Or.inr (.map done)⟩⟩

/-- The branches of what a conforming filter compiles to are accepted for the model of the
entity. -/
theorem Conforms.isAccepted (complete : Complete past r name fields entry) {node : Value}
    (conforms : Conforms r s entry.filter depth node) :
    ∀ branch ∈ branches (compileAt s depth node).value,
      IsAccepted schema allowRaw (model name) branch := by
  induction conforms with
  | @null depth =>
    rw [compileAt]
    exact List.forall_mem_singleton.2 isAccepted_emptyMap
  | sequence members within each ih =>
    rw [compileAt_of_members members within, Logged.value_map, value_compileEach]
    exact isAccepted_disjunction (List.forall_mem_map.2 ih)
  | @map depth entries within groups children suits ih =>
    rcases compileAt_map_cases entries within with
        ⟨c, group, items, there, members, compiled⟩ | compiled
    · have word : isCombinatorKey (.text c.word) = true := by cases c <;> decide
      rw [compiled, Logged.value_map, value_compileChildren]
      refine isAccepted_join fun branch kept => ?_
      obtain ⟨item, among, first⟩ := List.mem_flatMap.1 kept
      rw [value_reduce] at first
      exact ih _ there word items members item among branch (List.mem_of_mem_take first)
    · rw [compiled, Logged.value_map, value_compileFields, branches_map]
      refine List.forall_mem_singleton.2 ⟨_, rfl, List.forall_mem_map.2 fun pair field => ?_⟩
      obtain ⟨among, noWord⟩ := List.mem_filter.1 field
      exact (suits pair among (by simpa using noWord)).succeeds final mapped described wellNamed
        complete rfl _

end Conforming

/-- In a registry that was finalized after its entities were registered with the fields of their
models, a filter that conforms to the specification of an entity compiles to a predicate for
which there is a condition on the model of the entity. -/
theorem whereClause_succeeds_of_conforms {ι : Type} {schema : Schema ι}
    (mapped : ∀ m, (schema m).IsMapped) {config : Config} {ops : List Registry.Operation}
    {r : Registry}
    (done : ((Registry.empty config).run ops).finalize.outcome.value = .ok r)
    {model : Value → ι}
    (described : IsDescribed schema model ((Registry.empty config).history ops))
    (wellNamed : WellNamed ((Registry.empty config).history ops))
    {name : Value} {spec : FilterSpec} (known : r.filterSpec name = .ok spec) {s : Settings}
    {node : Value} (conforms : Conforms r s spec 0 node) (allowRaw : Bool) :
    (whereClause schema allowRaw (model name) (Filter.compile s node).value).Succeeds := by
  have final := Registry.finalized_of_run done
  rw [Registry.filterSpec] at known
  cases looked : r.entry name with
  | error e => rw [looked] at known; cases known
  | ok entry =>
    obtain ⟨fields, entry, complete⟩ := final.exists_complete looked
    have same : entry.filter = spec := by
      have found := complete.filterSpec
      rw [Registry.filterSpec, known] at found
      exact (Except.ok.inj found).symm
    subst same
    exact succeeds_whereClause
      (conforms.isAccepted final mapped described wellNamed complete)

/-- Both relationships of notes, one with the name of an entity. -/
def noteRelations : Value := .map [(.text "parent", .text "Note"), (.text "answers", .null)]

/-- The fields of notes. -/
def noteFields : List Field :=
  (describe notes () (.list []) noteRelations true true).toOption.getD []

/-- A registration of notes before their registry is finalized. -/
def noteRun : List Registry.Operation :=
  [.enter (.listed (.text "Note") (noteFields.map .field))]

/-- The registry in the end. -/
def noteRegistry : Registry :=
  let collecting := (Registry.empty .standard).run noteRun
  collecting.settle collecting.finalize

/-- By what notes may be filtered. -/
def noteSpec : FilterSpec := .ofEntity ⟨.text "Note", Registry.completeFields noteFields⟩

/-- Notes with some number of stars that have no title or answer a note with a short title. -/
def noteFilter : Value :=
  .map [(.text "AND", .list [
    .map [(.text "stars", .map [(.text "between", .list [.int 3, .int 5])])],
    .list [.map [(.text "title", .map [(.text "isNull", .bool true)])],
      .map [(.text "parent", .map [(.text "title", .map [(.text "like", .text "__")])])]]])]

theorem conforms_noteFilter : Conforms noteRegistry .standard noteSpec 0 noteFilter := by
  have title (op : Operator) {operand : Value} (depth : Nat) (admitted : op ∈ textOperators)
      (fits : op.Fits operand) : FieldConforms noteRegistry .standard noteSpec depth
        (.text "title", .map [(.text op.name, operand)]) :=
    .scalar (List.cons_ne_nil _ _) rfl
      (List.forall_mem_singleton.2 ⟨op, admitted, by simp [operatorOfKey?], fits⟩)
  have single {depth : Nat} {pair : Value × Value} (noWord : isCombinatorKey pair.1 = false)
      (within : Settings.standard.maxDepth.admits depth = true)
      (suits : FieldConforms noteRegistry .standard noteSpec depth pair) :
      Conforms noteRegistry .standard noteSpec depth (.map [pair]) := by
    refine .map within ?_ ?_ (List.forall_mem_singleton.2 fun _ => suits)
    · exact List.forall_mem_singleton.2 fun word => absurd (noWord.symm.trans word) nofun
    · exact List.forall_mem_singleton.2 fun word => absurd (noWord.symm.trans word) nofun
  refine .map rfl (List.forall_mem_singleton.2 fun _ => rfl)
    (List.forall_mem_singleton.2 fun _ items members => ?_)
    (List.forall_mem_singleton.2 nofun)
  cases members
  refine List.forall_mem_cons.2 ⟨single rfl rfl ?_, List.forall_mem_singleton.2
    (.sequence rfl rfl (List.forall_mem_cons.2 ⟨single rfl rfl ?_,
      List.forall_mem_singleton.2 (single rfl rfl ?_)⟩))⟩
  · exact .scalar (List.cons_ne_nil _ _) rfl (List.forall_mem_singleton.2
      ⟨.between, by decide, rfl, .int 3, .int 5, rfl, rfl, rfl⟩)
  · exact title .isNull 2 (by decide) trivial
  · refine .relation rfl rfl (List.forall_mem_singleton.2 (title .like 3 (by decide) ?_))
    exact ⟨rfl, nofun⟩

/-- Notes are only registered with their fields. -/
theorem eq_noteFields_of_lastFields {name : Value} {fields : List Field}
    (last : lastFields? ((Registry.empty .standard).history noteRun) name = some fields) :
    fields = noteFields := by
  have past : (Registry.empty .standard).history noteRun = [(.text "Note", noteFields)] := rfl
  rw [past] at last
  simp only [lastFields?, List.reverse_singleton, Ordered.find?] at last
  split at last
  · exact (Option.some.inj last).symm
  · cases last

theorem isDescribed_notes :
    IsDescribed notes (fun _ => ()) ((Registry.empty .standard).history noteRun) where
  fields _ _ last := eq_noteFields_of_lastFields last ▸
    ⟨.list [], noteRelations, true, true, rfl⟩
  targets _ _ _ _ _ _ _ _ _ := rfl

theorem isMapped_notes (m : Unit) : (notes m).IsMapped := by
  cases m
  exact ⟨by decide, by decide⟩

theorem whereClause_succeeds_of_conforms_notes :
    ((Registry.empty .standard).run noteRun).finalize.outcome.value = .ok noteRegistry ∧
      noteRegistry.filterSpec (.text "Note") = .ok noteSpec ∧
      Conforms noteRegistry .standard noteSpec 0 noteFilter ∧
      (whereClause notes false () (Filter.compile .standard noteFilter).value).Succeeds := by
  have wellNamed : WellNamed ((Registry.empty .standard).history noteRun) := by
    intro name fields last
    rw [eq_noteFields_of_lastFields last]
    decide
  have known : noteRegistry.filterSpec (.text "Note") = .ok noteSpec := rfl
  exact ⟨rfl, known, conforms_noteFilter,
    whereClause_succeeds_of_conforms isMapped_notes rfl isDescribed_notes wellNamed known
      conforms_noteFilter false⟩

end ListQuery
