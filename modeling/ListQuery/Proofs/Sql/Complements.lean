import ListQuery.Proofs.Filter.Regular
import ListQuery.Proofs.Sql.Described
import ListQuery.Proofs.Sql.Meaning

/-!
# Opposite operators are complements

Three pairs of operators say the opposite of each other: equality and its negation, membership
and its negation, and the two answers to whether a cell is missing. They do not come to opposite
tests in one way. A value stands for itself, nothing for a missing cell, a comparator for a
comparison, and the negation of each is made at a place of its own. Still, wherever one filter of
a pair is accepted for a column so is the other, and the two conditions have opposite truth values
for every row: where the one is unknown, so is the other.

A sequence under a column asks for one of its items. So what is opposite to equality with a
sequence is not to be among its items; the negation of equality compares with the sequence as a
whole.

## Main definitions

* `Opposite` relates an operator with its operand to the opposite one with its operand.
* `Clause.IsComplement` says that two conditions have opposite truth values throughout.

## Main results

* `whereClause_single_eq_ok_some_iff`: when a single operator on a column is accepted.
* `columnTest_opposite`: opposite operators come to opposite tests.
* `isComplement_of_opposite`: filters by opposite operators are complements.
* `not_isComplement_listed`: equality with a sequence and its negation are not.
-/

namespace ListQuery.Sql

open ListQuery.Filter (Settings single compile)

variable {ι : Type}

/-- Operators that say opposite things of a column. -/
inductive Opposite : Operator → Value → Operator → Value → Prop
  /-- Equality with what is no sequence. -/
  | equality {operand : Value} (alone : operand.members? = none)
      (plain : ∀ comparator inner, operand ≠ .test comparator inner) :
      Opposite .eq operand .ne operand
  /-- Equality with a sequence asks for one of its items. -/
  | sequence {operand : Value} {items : List Value} (members : operand.members? = some items) :
      Opposite .eq operand .notAmong operand
  | membership (operand : Value) : Opposite .among operand .notAmong operand
  | missing {asked denied : Value} (yes : asked.truthy = true) (no : denied.truthy = false) :
      Opposite .isNull asked .isNull denied

/-- Of two conditions the second has the opposite truth value of the first, in every engine, on
any data and for any rows at hand. -/
def Clause.IsComplement [DecidableEq ι] (first second : Clause ι) : Prop :=
  ∀ (Cell : Type) (engine : Engine ι Cell) (db : Database ι Cell) (rows : ι → Row Cell),
    second.value engine db rows = (first.value engine db rows).not

variable {schema : Schema ι} {allowRaw : Bool} {model : ι} {col : Column} {s : Settings}
  {clause : Clause ι} {test : Test} {op op' : Operator} {operand operand' value : Value}

/-! ## A single operator on a column -/

/-- A map with one entry under a column is accepted where the test for the entry is. -/
theorem whereClause_column_eq_ok_some_iff (mapped : (schema model).IsMapped)
    (there : col ∈ (schema model).columns) :
    (whereClause schema allowRaw model (.map [(.text col.key, value)])).outcome.value =
        .ok (some clause) ↔
      ∃ test, (columnTest allowRaw col value).outcome.value = .ok test ∧
        clause = .column model col test := by
  have apart : relationshipOf? (schema model) (.text col.key) = none :=
    mapped.relationship?_key there
  have named : columnOf? (schema model) (.text col.key) = some col := mapped.column?_key there
  rw [whereClause_eq_ok_some_iff]
  constructor
  · rintro ⟨-, body⟩
    cases body with
    | map done =>
      obtain ⟨part, _, here, rest, rfl⟩ :=
        List.forall₂_cons_left_iff.1 (conditions_eq_ok_iff.1 done)
      obtain rfl := List.forall₂_nil_left_iff.1 rest
      obtain ⟨col', test, same, tested, rfl⟩ := (condition_column_eq_ok_iff apart).1 here
      obtain rfl := Option.some.inj (named.symm.trans same)
      exact ⟨test, tested, rfl⟩
  · rintro ⟨test, tested, rfl⟩
    have here := (condition_column_eq_ok_iff apart).2 ⟨col, test, named, tested, rfl⟩
    exact ⟨nofun, .map (conditions_eq_ok_iff.2 (.cons here .nil))⟩

/-- A filter by a single operator on a column is accepted where it is compiled, where the key of
the column is not taken for a group, and where the test for the operator is accepted. -/
theorem whereClause_single_eq_ok_some_iff (mapped : (schema model).IsMapped)
    (there : col ∈ (schema model).columns) :
    (whereClause schema allowRaw model
        (compile s (single col.key op operand)).value).outcome.value = .ok (some clause) ↔
      s.maxDepth.admits 0 = true ∧ isCombinatorKey (.text col.key) = false ∧
        ∃ test, (columnTest allowRaw col (op.apply operand).value).outcome.value = .ok test ∧
          clause = .column model col test := by
  have noGroup : Filter.groupOf? [(.text col.key, .map [(.text op.name, operand)])] = none := by
    simp [Filter.groupOf?, Filter.childrenOf?, Value.members?]
  have object : isOperatorObject [(.text op.name, operand)] = true := by
    simp [isOperatorObject, isOperatorKey, operatorOfKey?]
  rw [compile, single, Filter.compileAt_entries, noGroup]
  by_cases within : s.maxDepth.admits ((0 : Nat) : Int) = true
  · rw [if_pos within, Logged.value_map, Filter.value_compileFields]
    cases word : isCombinatorKey (.text col.key) with
    | true =>
      -- the entry is left out, and there is nothing to make a condition of
      simp [Filter.fieldsOf, word, whereClause]
    | false =>
      have applied : ∀ path, (Filter.convertAt s 0 path (.map [(.text op.name, operand)])).value =
          (op.apply operand).value := by
        intro path
        rw [Filter.convertAt_operators object, Filter.value_applyFirst]
        simp [OperatorName.ofKey, operatorOfKey?, OperatorName.apply]
      have kept : Filter.fieldsOf [(.text col.key, .map [(.text op.name, operand)])] =
          [(.text col.key, .map [(.text op.name, operand)])] := by simp [Filter.fieldsOf, word]
      rw [kept, List.map_singleton, applied, whereClause_column_eq_ok_some_iff mapped there]
      simpa using fun _ _ _ => within
  · rw [if_neg within]
    -- what is not compiled is left an operator object, which is no test
    have refused : ∀ clause, (whereClause schema allowRaw model
        (.map [(.text col.key, .map [(.text op.name, operand)])])).outcome.value ≠
          .ok (some clause) := by
      intro clause done
      obtain ⟨test, tested, -⟩ := (whereClause_column_eq_ok_some_iff mapped there).1 done
      cases tested
    constructor
    · intro done
      exact absurd done (refused clause)
    · rintro ⟨admitted, -⟩
      exact absurd admitted within

/-! ## Opposite tests -/

/-- What is plain and no sequence is compared with for equality. -/
theorem eq_equals_of_columnTest (alone : operand.members? = none)
    (plain : ∀ comparator inner, operand ≠ .test comparator inner)
    (done : (columnTest allowRaw col operand).outcome.value = .ok test) :
    test = equals (coerce col.type operand) := by
  cases operand with
  | list items => cases alone
  | tuple items => cases alone
  | map entries => cases done
  | test comparator inner => exact absurd rfl (plain comparator inner)
  | _ => exact (Except.ok.inj done).symm

/-- The negation of a plain value is the negation of equality with it. -/
theorem testOf_negation (plain : ∀ comparator inner, operand ≠ .test comparator inner) :
    testOf allowRaw col .negation operand = pure (equals (coerce col.type operand)).negate := by
  rcases testOf_cases .negation operand with ⟨inner, below, -, rfl⟩ | raw | ⟨-, compared⟩
  · exact absurd rfl (plain inner below)
  · cases raw
  · exact compared allowRaw col

/-- The test for what is asked by membership is a list of cells to be among. -/
theorem memberOf_eq_among (operand : Value) : ∃ values, memberOf operand = .among false values := by
  cases operand <;> exact ⟨_, rfl⟩

/-- Where the test for an operator is accepted, that for the opposite one is its negation. -/
theorem columnTest_opposite (opposite : Opposite op operand op' operand')
    (done : (columnTest allowRaw col (op.apply operand).value).outcome.value = .ok test) :
    (∀ expression, test ≠ .raw expression) ∧
      (columnTest allowRaw col (op'.apply operand').value).outcome.value = .ok test.negate := by
  -- what is no member of some values, in whatever way these were given
  have notAmong {values : List Value} (same : memberOf (coerce col.type operand) =
      .among false values) : (columnTest allowRaw col
        (Operator.notAmong.apply operand).value).outcome.value = .ok (.among true values) := by
    have inner : testOf allowRaw col .membership operand = pure (.among false values) := by
      rw [testOf, same]
    simp only [Operator.apply, Logged.value_pure, columnTest, testOf, inner]
    rfl
  cases opposite with
  | equality alone plain =>
    obtain rfl := eq_equals_of_columnTest alone plain done
    refine ⟨fun _ => equals_ne_raw _, ?_⟩
    simp only [Operator.apply, Logged.value_pure, columnTest, testOf_negation plain]
    rfl
  | @sequence _ items members =>
    have among : test = .among false (coerceAll col.type items) := by
      cases operand <;> cases members <;> exact (Except.ok.inj done).symm
    subst among
    refine ⟨by simp, notAmong ?_⟩
    cases operand <;> cases members <;> simp only [coerce, memberOf]
  | membership operand =>
    obtain ⟨values, same⟩ := memberOf_eq_among (coerce col.type operand)
    have among : test = .among false values := by
      simp only [Operator.apply, Logged.value_pure, columnTest, testOf, same] at done
      exact (Except.ok.inj done).symm
    subst among
    exact ⟨by simp, notAmong same⟩
  | missing yes no =>
    simp only [Operator.apply, yes, if_true] at done
    have asked : test = .isNull false := (Except.ok.inj done).symm
    subst asked
    refine ⟨by simp, ?_⟩
    simp only [Operator.apply, no, Bool.false_eq_true, if_false]
    rfl

/-! ## Opposite filters -/

/-- Filters of a column by opposite operators are complements. Wherever the first is compiled and
becomes a condition so does the second, and the second condition has the opposite truth value of
the first. -/
theorem isComplement_of_opposite [DecidableEq ι] (mapped : (schema model).IsMapped)
    (there : col ∈ (schema model).columns) (opposite : Opposite op operand op' operand')
    (accepted : (whereClause schema allowRaw model
      (compile s (single col.key op operand)).value).outcome.value = .ok (some clause)) :
    ∃ other, (whereClause schema allowRaw model
        (compile s (single col.key op' operand')).value).outcome.value = .ok (some other) ∧
      clause.IsComplement other := by
  obtain ⟨within, noWord, test, tested, rfl⟩ :=
    (whereClause_single_eq_ok_some_iff mapped there).1 accepted
  obtain ⟨notRaw, negated⟩ := columnTest_opposite opposite tested
  refine ⟨.column model col test.negate, ?_, fun Cell engine db rows => ?_⟩
  · exact (whereClause_single_eq_ok_some_iff mapped there).2 ⟨within, noWord, _, negated, rfl⟩
  · rw [Clause.value, Clause.value, Test.value_negate notRaw]

/-- Notes that have so many stars, and notes that have not. -/
theorem isComplement_of_opposite_notes :
    ∃ equal other,
      (whereClause notes false ()
        (compile .standard (single "stars" .eq (.text "3"))).value).outcome.value =
          .ok (some equal) ∧
      (whereClause notes false ()
        (compile .standard (single "stars" .ne (.text "3"))).value).outcome.value =
          .ok (some other) ∧
      [some 2, some 3, none].map (fun stars => other.value wholeNumbers (fun _ => [])
        fun _ => noteRow 1 none stars) = [.yes, .no, .unknown] := by
  have opposite : Opposite .eq (.text "3") .ne (.text "3") := .equality rfl nofun
  have mapped : (notes ()).IsMapped := ⟨by decide, by decide⟩
  have there : ⟨"stars", "stars", .integer, false, false⟩ ∈ (notes ()).columns := by decide
  have accepted : (whereClause notes false ()
      (compile .standard (single "stars" .eq (.text "3"))).value).outcome.value =
        .ok (some (.column () ⟨"stars", "stars", .integer, false, false⟩
          (.compare .eq (.int 3)))) := rfl
  obtain ⟨other, done, complement⟩ := isComplement_of_opposite mapped there opposite accepted
  refine ⟨_, other, accepted, done, ?_⟩
  simp only [complement Int wholeNumbers]
  rfl

/-- Equality with a sequence and its negation are no complements: the first asks for one of the
items, the second compares with the sequence as a whole, which is no cell. -/
theorem not_isComplement_listed :
    ∃ among other,
      (whereClause notes false ()
        (compile .standard (single "stars" .eq (.list [.int 1, .int 2]))).value).outcome.value =
          .ok (some among) ∧
      (whereClause notes false ()
        (compile .standard (single "stars" .ne (.list [.int 1, .int 2]))).value).outcome.value =
          .ok (some other) ∧
      ¬ among.IsComplement other := by
  refine ⟨_, _, rfl, rfl, fun complement => ?_⟩
  have values := complement Int wholeNumbers (fun _ => []) fun _ => noteRow 1 none (some 1)
  exact absurd values (by decide)

end ListQuery.Sql
