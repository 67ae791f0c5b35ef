import ListQuery.Filter.Compile

/-!
# What filters and compiled predicates mean

A store decides which rows satisfy a condition on a field and which rows a relation
leads to. Such a reading of the leaves gives every filter and every compiled predicate
a meaning, row by row, and the two meanings are defined apart: a filter joins its
groups and all operators of an operator object, a predicate is a conjunction of tests
or a disjunction of such conjunctions.

A disjunction without branches is the one place where readings differ, so a reading
says what it makes of it.

## Main definitions

* `Reading` interprets the leaves.
* `Reading.Holds` is the meaning of a filter, `Reading.FieldHolds` that of the condition
  on one field.
* `Reading.Passes` is the meaning of a compiled predicate, `Reading.TestPasses` that of
  one of its tests.
-/

namespace ListQuery.Filter

universe u

/-- An interpretation of the leaves of filters over rows of any kind. -/
structure Reading (Row : Type u) where
  /-- Which rows satisfy a condition, by the key of the field and the plain value or test. -/
  leaf : Value → Value → Row → Prop
  /-- Which rows a relation leads to from a row. -/
  related : Value → Row → Row → Prop
  /-- Whether a disjunction without branches holds. -/
  void : Prop

namespace Reading

/-- The reading in which a row is the list of the leaves that hold of it, every relation leads
back to the row, and an empty disjunction restricts nothing. -/
def listed : Reading (List (Value × Value)) where
  leaf key value row := (key, value) ∈ row
  related _ row other := other = row
  void := True

variable {Row : Type u} (I : Reading Row)

/-! ## Compiled predicates -/

mutual

/-- Whether a row passes the test that a compiled predicate puts on a field: a map tests
some row that the relation leads to. -/
def TestPasses (key : Value) : Value → Row → Prop
  | .map tests, row => ∃ other, I.related key row other ∧ TestsPass tests other
  | value, row => I.leaf key value row

/-- Whether a row passes all tests of a conjunction. -/
def TestsPass : List (Value × Value) → Row → Prop
  | [], _ => True
  | (key, value) :: rest, row => TestPasses key value row ∧ TestsPass rest row

end

/-- Whether a row passes one branch of a disjunction. -/
def BranchPasses : Value → Row → Prop
  | .map tests, row => I.TestsPass tests row
  | _, _ => False

/-- Whether a row passes a compiled predicate. -/
def Passes : Value → Row → Prop
  | .list branches, row =>
    (branches = [] ∧ I.void) ∨ ∃ branch ∈ branches, I.BranchPasses branch row
  | conjunction, row => I.BranchPasses conjunction row

/-! ## Filters -/

mutual

/-- Whether a row satisfies the condition that a filter puts on a field: an operator
object holds where all its operators do, any other map where some row that the relation
leads to satisfies it. -/
def FieldHolds (key : Value) : Value → Row → Prop
  | .map entries, row =>
    if isOperatorObject entries then
      ∀ entry ∈ entries, I.leaf key ((OperatorName.ofKey entry.1).apply entry.2).value row
    else ∃ other, I.related key row other ∧ FieldsHold entries other
  | value, row => I.leaf key value row

/-- Whether a row satisfies all conditions of a map of fields. -/
def FieldsHold : List (Value × Value) → Row → Prop
  | [], _ => True
  | (key, value) :: rest, row => FieldHolds key value row ∧ FieldsHold rest row

end

mutual

/-- Whether a row satisfies a filter. No filter at all restricts nothing, nor does an
empty list; any other list is a disjunction. -/
def Holds : Value → Row → Prop
  | .null, _ => True
  | .list items, row => items = [] ∨ SomeHolds items row
  | .tuple items, row => items = [] ∨ SomeHolds items row
  | .map entries, row => EntriesHold entries row
  | _, _ => False

/-- Whether a row satisfies one of some filters. -/
def SomeHolds : List Value → Row → Prop
  | [], _ => False
  | item :: rest, row => Holds item row ∨ SomeHolds rest row

/-- Whether a row satisfies all of some filters. -/
def EveryHolds : List Value → Row → Prop
  | [], _ => True
  | item :: rest, row => Holds item row ∧ EveryHolds rest row

/-- Whether a row satisfies every entry of a map: a group by its combinator, and any other
entry as the condition on a field. -/
def EntriesHold : List (Value × Value) → Row → Prop
  | [], _ => True
  | (key, .list children) :: rest, row =>
    (if key = .text Combinator.any.word then
      (children = [] ∧ I.void) ∨ SomeHolds children row
    else if key = .text Combinator.all.word then EveryHolds children row
    else I.FieldHolds key (.list children) row) ∧ EntriesHold rest row
  | (key, .tuple children) :: rest, row =>
    (if key = .text Combinator.any.word then
      (children = [] ∧ I.void) ∨ SomeHolds children row
    else if key = .text Combinator.all.word then EveryHolds children row
    else I.FieldHolds key (.tuple children) row) ∧ EntriesHold rest row
  | (key, value) :: rest, row => I.FieldHolds key value row ∧ EntriesHold rest row

end

/-! ## The meanings, item by item -/

theorem testsPass_iff {tests : List (Value × Value)} {row : Row} :
    I.TestsPass tests row ↔ ∀ test ∈ tests, I.TestPasses test.1 test.2 row := by
  induction tests with
  | nil => simp [TestsPass]
  | cons test rest ih => simp [TestsPass, ih]

theorem fieldsHold_iff {entries : List (Value × Value)} {row : Row} :
    I.FieldsHold entries row ↔ ∀ entry ∈ entries, I.FieldHolds entry.1 entry.2 row := by
  induction entries with
  | nil => simp [FieldsHold]
  | cons entry rest ih => simp [FieldsHold, ih]

theorem someHolds_iff {items : List Value} {row : Row} :
    I.SomeHolds items row ↔ ∃ item ∈ items, I.Holds item row := by
  induction items with
  | nil => simp [SomeHolds]
  | cons item rest ih => simp [SomeHolds, ih]

theorem everyHolds_iff {items : List Value} {row : Row} :
    I.EveryHolds items row ↔ ∀ item ∈ items, I.Holds item row := by
  induction items with
  | nil => simp [EveryHolds]
  | cons item rest ih => simp [EveryHolds, ih]

/-- A test by anything but a map is a leaf. -/
theorem testPasses_of_plain {key value : Value} (plain : value.entries? = none) {row : Row} :
    I.TestPasses key value row ↔ I.leaf key value row := by
  cases value with
  | map tests => simp [Value.entries?] at plain
  | _ => simp [TestPasses]

/-- A condition by anything but a map is a leaf. -/
theorem fieldHolds_of_plain {key value : Value} (plain : value.entries? = none) {row : Row} :
    I.FieldHolds key value row ↔ I.leaf key value row := by
  cases value with
  | map entries => simp [Value.entries?] at plain
  | _ => simp [FieldHolds]

/-- A sequence of filters is a disjunction, and restricts nothing where it is empty. -/
theorem holds_of_members {node : Value} {items : List Value}
    (sequence : node.members? = some items) {row : Row} :
    I.Holds node row ↔ items = [] ∨ ∃ item ∈ items, I.Holds item row := by
  cases node <;> simp_all [Value.members?, Holds, someHolds_iff]

/-- An `OR` group is a disjunction. -/
theorem holds_any {children : Value} {items : List Value}
    (sequence : children.members? = some items) {row : Row} :
    I.Holds (.map [(.text Combinator.any.word, children)]) row ↔
      (items = [] ∧ I.void) ∨ ∃ item ∈ items, I.Holds item row := by
  cases children <;> simp_all [Value.members?, Holds, EntriesHold, someHolds_iff]

/-- An `AND` group is a conjunction. -/
theorem holds_all {children : Value} {items : List Value}
    (sequence : children.members? = some items) {row : Row} :
    I.Holds (.map [(.text Combinator.all.word, children)]) row ↔
      ∀ item ∈ items, I.Holds item row := by
  have apart : Combinator.all.word ≠ Combinator.any.word := by decide
  cases children <;> simp_all [Value.members?, Holds, EntriesHold, everyHolds_iff]

/-- A map without groups is the conjunction of its conditions. -/
theorem holds_fields {entries : List (Value × Value)}
    (plain : ∀ entry ∈ entries, isCombinatorKey entry.1 = false) {row : Row} :
    I.Holds (.map entries) row ↔ ∀ entry ∈ entries, I.FieldHolds entry.1 entry.2 row := by
  rw [Holds]
  induction entries with
  | nil => simp [EntriesHold]
  | cons entry rest ih =>
    obtain ⟨key, value⟩ := entry
    have noWord : ¬(key = .text Combinator.all.word) ∧ ¬(key = .text Combinator.any.word) := by
      simpa [isCombinatorKey] using plain (key, value) List.mem_cons_self
    have later := ih fun entry there => plain entry (List.mem_cons_of_mem _ there)
    -- lists and tuples are read as children only under the words of combinators
    cases value <;> simp [EntriesHold, noWord, later]

end Reading

end ListQuery.Filter
