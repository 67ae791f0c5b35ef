import ListQuery.Proofs.Value.Parts
import ListQuery.Sql.Where
import Mathlib.Data.List.Forall2

/-!
# Translating predicates, piece by piece

The condition for a predicate is made of the conditions for its pieces: that of a
conjunction of those for its entries, that of a disjunction of those for its maps. So a
predicate is translated where all its pieces are. An entry whose key names a relationship
takes the condition for what stands under it to related rows, and any other entry is a test
of a column.

## Main definitions

* `comparison` is the test for a comparator and an operand of the type of the column.
* `IsBody` says that a condition is that for a map, or for a list of maps.
* `StandsAt` says that a value stands at a column of a predicate, however many relationships
  away.
* `notes` is a small schema for examples.

## Main results

* `condition_related_eq_ok_iff` and `condition_column_eq_ok_iff` say what an entry becomes,
  `whereClause_eq_ok_some_iff` what a predicate becomes.
* `exists_standsAt_of_has`: every test in a condition is the test for a value at a column.
-/

namespace ListQuery.Sql

open Checked (value_bind_eq_ok_iff value_map_eq_ok_iff)

variable {ι : Type} {schema : Schema ι} {allowRaw : Bool} {model : ι}
  {key value : Value} {items : List Value} {entries : List (Value × Value)}
  {clause : Clause ι} {parts : List (Clause ι)} {r : Relationship ι} {col : Column}
  {test : Test}

/-! ## Tests of columns -/

/-- The test for a comparator other than a raw expression, and for an operand, itself no test,
that has been brought to the type of the column. -/
def comparison : Comparator → Value → Except ClauseError Test
  | .negation, operand => .ok (equals operand).negate
  | .membership, operand => .ok (memberOf operand)
  | .moreThan, operand => ordered (.compare .gt) operand
  | .moreThanOrEqual, operand => ordered (.compare .ge) operand
  | .lessThan, operand => ordered (.compare .lt) operand
  | .lessThanOrEqual, operand => ordered (.compare .le) operand
  | .like, operand => ordered (.like false) operand
  | .ilike, operand => ordered (.ilike false) operand
  | .between, operand => (fun bounds => .between false bounds.1 bounds.2) <$> boundsOf operand
  | .isNull, _ => .ok (.isNull false)
  | .raw, _ => .error .rawDisabled

/-- A test is the negation of another, stands in for a raw expression, or comes from comparing
with the operand. -/
theorem testOf_cases (comparator : Comparator) (operand : Value) :
    (∃ inner below, comparator = .negation ∧ operand = .test inner below) ∨ comparator = .raw ∨
      (comparator = .negation → ∀ inner below, operand ≠ .test inner below) ∧
      ∀ allowRaw col, testOf allowRaw col comparator operand =
        .ofExcept (comparison comparator (coerce col.type operand)) := by
  cases comparator with
  | raw => exact Or.inr (Or.inl rfl)
  | negation =>
    cases operand with
    | test inner below => exact Or.inl ⟨inner, below, rfl, rfl⟩
    | _ =>
      refine Or.inr (Or.inr ⟨by simp, fun allowRaw col => ?_⟩)
      simp only [testOf, comparison]
      rfl
  | between =>
    refine Or.inr (Or.inr ⟨by simp, fun allowRaw col => ?_⟩)
    simp only [testOf, comparison]
    cases boundsOf (coerce col.type operand) <;> rfl
  | _ =>
    refine Or.inr (Or.inr ⟨by simp, fun allowRaw col => ?_⟩)
    simp only [testOf, comparison] <;> rfl

theorem equals_ne_raw (operand : Value) {expression : String} :
    equals operand ≠ .raw expression := by
  unfold equals
  split <;> exact nofun

/-! ## Pieces -/

theorem disjuncts_eq_ok_iff :
    (disjuncts schema allowRaw model items).outcome.value = .ok parts ↔
      List.Forall₂ (fun item part =>
        (conjunctionOf schema allowRaw model item).outcome.value = .ok part) items parts := by
  induction items generalizing parts with
  | nil =>
    rw [disjuncts, List.forall₂_nil_left_iff]
    exact ⟨fun done => (Except.ok.inj done).symm, fun none => congrArg Except.ok none.symm⟩
  | cons item rest ih =>
    simp only [disjuncts, value_bind_eq_ok_iff, ih, List.forall₂_cons_left_iff]
    constructor
    · rintro ⟨first, here, others, there, done⟩
      exact ⟨first, others, here, there, (Except.ok.inj done).symm⟩
    · rintro ⟨first, others, here, there, rfl⟩
      exact ⟨first, here, others, there, rfl⟩

theorem conditions_eq_ok_iff :
    (conditions schema allowRaw model entries).outcome.value = .ok parts ↔
      List.Forall₂ (fun entry part =>
        (condition schema allowRaw model entry.1 entry.2).outcome.value = .ok part)
        entries parts := by
  induction entries generalizing parts with
  | nil =>
    rw [conditions, List.forall₂_nil_left_iff]
    exact ⟨fun done => (Except.ok.inj done).symm, fun none => congrArg Except.ok none.symm⟩
  | cons entry rest ih =>
    simp only [conditions, value_bind_eq_ok_iff, ih, List.forall₂_cons_left_iff]
    constructor
    · rintro ⟨first, here, others, there, done⟩
      exact ⟨first, others, here, there, (Except.ok.inj done).symm⟩
    · rintro ⟨first, others, here, there, rfl⟩
      exact ⟨first, here, others, there, rfl⟩

theorem conjunctionOf_eq_ok_iff :
    (conjunctionOf schema allowRaw model value).outcome.value = .ok clause ↔
      ∃ entries parts, value = .map entries ∧
        (conditions schema allowRaw model entries).outcome.value = .ok parts ∧
        clause = Clause.conjunction parts := by
  cases value with
  | map entries =>
    simp only [conjunctionOf, value_map_eq_ok_iff, Value.map.injEq]
    constructor
    · rintro ⟨parts, done, rfl⟩
      exact ⟨entries, parts, rfl, done, rfl⟩
    · rintro ⟨_, parts, rfl, done, rfl⟩
      exact ⟨parts, done, rfl⟩
  | _ => simp [conjunctionOf]

/-! ## Entries and predicates -/

/-- A condition is that for a map of tests, or for a list of such maps. -/
inductive IsBody (schema : Schema ι) (allowRaw : Bool) (model : ι) : Value → Clause ι → Prop
  | map {entries : List (Value × Value)} {parts : List (Clause ι)}
      (done : (conditions schema allowRaw model entries).outcome.value = .ok parts) :
      IsBody schema allowRaw model (.map entries) (Clause.conjunction parts)
  | list {items : List Value} {parts : List (Clause ι)} (filled : items ≠ [])
      (done : (disjuncts schema allowRaw model items).outcome.value = .ok parts) :
      IsBody schema allowRaw model (.list items) (Clause.disjunction parts)

/-- Under a key that names a relationship stands a condition on the related rows; an empty
list asks for no more than that there is one. -/
theorem condition_related_eq_ok_iff (leads : relationshipOf? (schema model) key = some r) :
    (condition schema allowRaw model key value).outcome.value = .ok clause ↔
      ∃ inner, clause = .related model r inner ∧
        ((value = .list [] ∧ inner = .always) ∨
          IsBody schema allowRaw r.target value inner) := by
  cases value with
  | list items =>
    rw [condition, leads]
    cases items with
    | nil =>
      have asked : (pure (.related model r .always) :
          Checked ClauseError (Clause ι)).outcome.value = .ok (.related model r .always) := rfl
      simp only [List.isEmpty_nil, if_true, asked, Except.ok.injEq]
      constructor
      · rintro rfl
        exact ⟨_, rfl, Or.inl ⟨trivial, rfl⟩⟩
      · rintro ⟨inner, rfl, ⟨-, rfl⟩ | body⟩
        · rfl
        · cases body with
          | list filled _ => exact absurd rfl filled
    | cons first rest =>
      simp only [List.isEmpty_cons, Bool.false_eq_true, if_false, value_map_eq_ok_iff]
      constructor
      · rintro ⟨parts, done, rfl⟩
        exact ⟨_, rfl, Or.inr (.list (List.cons_ne_nil _ _) done)⟩
      · rintro ⟨inner, rfl, ⟨none, -⟩ | body⟩
        · cases none
        · cases body with
          | list _ done => exact ⟨_, done, rfl⟩
  | map entries =>
    simp only [condition, leads, value_map_eq_ok_iff]
    constructor
    · rintro ⟨parts, done, rfl⟩
      exact ⟨_, rfl, Or.inr (.map done)⟩
    · rintro ⟨inner, rfl, ⟨none, -⟩ | body⟩
      · cases none
      · cases body with
        | map done => exact ⟨_, done, rfl⟩
  | _ =>
    simp only [condition, leads, Checked.outcome_ofExcept, reduceCtorEq, false_iff]
    rintro ⟨inner, -, ⟨none, -⟩ | body⟩
    · cases none
    · cases body

/-- Under any other key stands the test of a column. -/
theorem condition_of_no_relationship (apart : relationshipOf? (schema model) key = none) :
    condition schema allowRaw model key value =
      columnCondition schema allowRaw model key value := by
  cases value <;> simp only [condition, apart]

theorem condition_column_eq_ok_iff (apart : relationshipOf? (schema model) key = none) :
    (condition schema allowRaw model key value).outcome.value = .ok clause ↔
      ∃ col test, columnOf? (schema model) key = some col ∧
        (columnTest allowRaw col value).outcome.value = .ok test ∧
        clause = .column model col test := by
  rw [condition_of_no_relationship apart, columnCondition]
  cases columnOf? (schema model) key with
  | none => simp
  | some col =>
    simp only [value_map_eq_ok_iff, Option.some.injEq]
    constructor
    · rintro ⟨test, done, rfl⟩
      exact ⟨col, test, rfl, done, rfl⟩
    · rintro ⟨_, test, rfl, done, rfl⟩
      exact ⟨test, done, rfl⟩

/-- A predicate becomes a condition where it is a map of tests or a list of such maps, and not
empty. -/
theorem whereClause_eq_ok_some_iff :
    (whereClause schema allowRaw model value).outcome.value = .ok (some clause) ↔
      value ≠ .map [] ∧ IsBody schema allowRaw model value clause := by
  cases value with
  | null =>
    simp only [whereClause, Checked.outcome_pure, Except.ok.injEq, reduceCtorEq, false_iff]
    exact fun ⟨_, body⟩ => nomatch body
  | list items =>
    cases items with
    | nil =>
      simp only [whereClause, Checked.outcome_pure, Except.ok.injEq, reduceCtorEq, false_iff]
      rintro ⟨-, body⟩
      cases body with
      | list filled _ => exact filled rfl
    | cons first rest =>
      simp only [whereClause, value_map_eq_ok_iff, Option.some.injEq]
      constructor
      · rintro ⟨parts, done, rfl⟩
        exact ⟨nofun, .list (List.cons_ne_nil _ _) done⟩
      · rintro ⟨-, body⟩
        cases body with
        | list _ done => exact ⟨_, done, rfl⟩
  | map entries =>
    cases entries with
    | nil => simp [whereClause]
    | cons first rest =>
      simp only [whereClause, value_map_eq_ok_iff, Option.some.injEq, conjunctionOf]
      constructor
      · rintro ⟨_, ⟨parts, done, rfl⟩, rfl⟩
        exact ⟨nofun, .map done⟩
      · rintro ⟨-, body⟩
        cases body with
        | map done => exact ⟨_, ⟨_, done, rfl⟩, rfl⟩
  | _ =>
    simp only [whereClause, Checked.outcome_ofExcept, reduceCtorEq, false_iff]
    exact fun ⟨_, body⟩ => nomatch body

/-- There is no condition at all exactly for what is missing or empty. -/
theorem whereClause_eq_ok_none_iff :
    (whereClause schema allowRaw model value).outcome.value = .ok none ↔
      value = .null ∨ value = .map [] ∨ value = .list [] := by
  cases value with
  | null => simp [whereClause]
  | list items => cases items <;> simp [whereClause, value_map_eq_ok_iff]
  | map entries => cases entries <;> simp [whereClause, value_map_eq_ok_iff]
  | _ => simp [whereClause]

/-! ## Success -/

theorem succeeds_conditions :
    (conditions schema allowRaw model entries).Succeeds ↔
      ∀ entry ∈ entries, (condition schema allowRaw model entry.1 entry.2).Succeeds := by
  induction entries with
  | nil => simp [conditions]
  | cons entry rest ih =>
    rw [List.forall_mem_cons, ← ih, conditions, Checked.succeeds_bind]
    simp only [Checked.succeeds_bind, Checked.succeeds_pure, and_true]
    exact exists_and_right

theorem succeeds_conjunctionOf :
    (conjunctionOf schema allowRaw model value).Succeeds ↔
      ∃ entries, value = .map entries ∧ (conditions schema allowRaw model entries).Succeeds := by
  cases value <;> simp [conjunctionOf]

/-- A list of predicates is translated where all its items are maps that are. -/
theorem succeeds_disjuncts :
    (disjuncts schema allowRaw model items).Succeeds ↔
      ∀ item ∈ items, ∃ entries, item = .map entries ∧
        (conditions schema allowRaw model entries).Succeeds := by
  induction items with
  | nil => simp [disjuncts]
  | cons item rest ih =>
    rw [List.forall_mem_cons, ← ih, ← succeeds_conjunctionOf, disjuncts, Checked.succeeds_bind]
    simp only [Checked.succeeds_bind, Checked.succeeds_pure, and_true]
    exact exists_and_right

/-! ## Values at columns -/

/-- A value stands at a column: under the key of the column in a map for its model, or so in
what stands under a relationship to the model, or in a map of a list. -/
inductive StandsAt (schema : Schema ι) (col : Column) (value : Value) : ι → Value → Prop
  | column {model : ι} {key : Value} {entries : List (Value × Value)}
      (there : (key, value) ∈ entries) (named : columnOf? (schema model) key = some col) :
      StandsAt schema col value model (.map entries)
  | related {model : ι} {key below : Value} {entries : List (Value × Value)}
      {r : Relationship ι} (there : (key, below) ∈ entries)
      (leads : relationshipOf? (schema model) key = some r)
      (deeper : StandsAt schema col value r.target below) :
      StandsAt schema col value model (.map entries)
  | item {model : ι} {item : Value} {items : List Value} (there : item ∈ items)
      (deeper : StandsAt schema col value model item) :
      StandsAt schema col value model (.list items)

/-- What stands at a column of a predicate occurs in it. -/
theorem StandsAt.occurs {predicate : Value} (stands : StandsAt schema col value model predicate) :
    Value.Occurs value predicate := by
  induction stands with
  | column there _ => exact .within (Value.value_mem_parts there) .here
  | related there _ _ ih => exact .within (Value.value_mem_parts there) ih
  | item there _ ih => exact .within there ih

/-- A test occurs in a condition. -/
inductive Clause.Has (test : Test) : Clause ι → Prop
  | column {model : ι} {col : Column} : Has test (.column model col test)
  | all {part : Clause ι} {parts : List (Clause ι)} (there : part ∈ parts)
      (deeper : Has test part) : Has test (.all parts)
  | any {part : Clause ι} {parts : List (Clause ι)} (there : part ∈ parts)
      (deeper : Has test part) : Has test (.any parts)
  | related {model : ι} {r : Relationship ι} {inner : Clause ι} (deeper : Has test inner) :
      Has test (.related model r inner)

theorem Clause.exists_has_of_conjunction (has : (conjunction parts).Has test) :
    ∃ part ∈ parts, part.Has test := by
  rw [conjunction.eq_def] at has
  split at has
  · cases has
  · next part => exact ⟨part, List.mem_cons_self, has⟩
  · cases has with
    | all there deeper => exact ⟨_, there, deeper⟩

theorem Clause.exists_has_of_disjunction (has : (disjunction parts).Has test) :
    ∃ part ∈ parts, part.Has test := by
  unfold disjunction at has
  split at has
  · cases has
  · split at has
    · next part _ => exact ⟨part, List.mem_cons_self, has⟩
    · cases has with
      | any there deeper => exact ⟨_, there, deeper⟩

/-- What stands on the right of related lists is related to something on the left. -/
theorem exists_of_mem_right {α β : Type} {R : α → β → Prop} {xs : List α} {ys : List β}
    (related : List.Forall₂ R xs ys) {y : β} (there : y ∈ ys) : ∃ x ∈ xs, R x y := by
  induction related with
  | nil => cases there
  | cons here _ ih =>
    rcases List.mem_cons.1 there with rfl | later
    · exact ⟨_, List.mem_cons_self, here⟩
    · obtain ⟨x, among, matching⟩ := ih later
      exact ⟨x, List.mem_cons_of_mem _ among, matching⟩

/-- Every test in a condition is the test for a value that stands at a column. -/
theorem IsBody.exists_standsAt_of_has {predicate : Value} :
    ∀ {model : ι} {clause : Clause ι}, IsBody schema allowRaw model predicate clause →
      clause.Has test → ∃ col value, StandsAt schema col value model predicate ∧
        (columnTest allowRaw col value).outcome.value = .ok test := by
  induction predicate using Value.inside_induction with
  | step predicate ih =>
    intro model clause body has
    cases body with
    | map done =>
      obtain ⟨part, among, deeper⟩ := Clause.exists_has_of_conjunction has
      obtain ⟨⟨key, below⟩, there, here⟩ := exists_of_mem_right (conditions_eq_ok_iff.1 done) among
      cases leads : relationshipOf? (schema model) key with
      | some r =>
        obtain ⟨inner, rfl, ⟨-, rfl⟩ | nested⟩ := (condition_related_eq_ok_iff leads).1 here
        · -- nothing is asked of the related row
          cases deeper with
          | related deepest => cases deepest
        · cases deeper with
          | related deepest =>
            have inside := Value.Inside.of_part (Value.value_mem_parts there)
            obtain ⟨col, value, stands, tested⟩ := ih below inside nested deepest
            exact ⟨col, value, .related there leads stands, tested⟩
      | none =>
        obtain ⟨col, test', named, tested, rfl⟩ := (condition_column_eq_ok_iff leads).1 here
        cases deeper
        exact ⟨col, below, .column there named, tested⟩
    | @list items _ filled done =>
      obtain ⟨part, among, deeper⟩ := Clause.exists_has_of_disjunction has
      obtain ⟨item, there, here⟩ := exists_of_mem_right (disjuncts_eq_ok_iff.1 done) among
      obtain ⟨entries, parts, rfl, mapped, rfl⟩ := conjunctionOf_eq_ok_iff.1 here
      have inside : (Value.map entries).Inside (.list items) := .of_part there
      obtain ⟨col, value, stands, tested⟩ := ih _ inside (.map mapped) deeper
      exact ⟨col, value, .item there stands, tested⟩

/-! ## An example -/

/-- Notes, each of which may answer another one. -/
def notes : Schema Unit := fun _ =>
  { name := "Note"
    table := "notes"
    columns := [⟨"id", "id", .integer, true, false⟩, ⟨"title", "title", .string, false, false⟩,
      ⟨"stars", "stars", .integer, false, false⟩, ⟨"parentId", "parent_id", .integer, false, true⟩]
    relationships := [⟨"parent", (), false, "parent_id", "id", true⟩,
      ⟨"answers", (), true, "id", "parent_id", false⟩] }

end ListQuery.Sql
