import ListQuery.Proofs.Sql.Evaluation
import ListQuery.Proofs.Sql.Translation

/-!
# What predicates mean

A compiled predicate says of a row how its columns compare with operands of their types, and
what related rows there must be. This can be read off the predicate, without a condition or a
query: all entries of a map hold, some map of a list does, nothing under a column asks for a
missing cell, a sequence for one of its items and any other value for equality. A condition
means the same: evaluated for any rows at hand, it has the truth value that the predicate has
for the row of the model, on any data and whatever the engine makes of operands.

## Main definitions

* `columnMeaning` is the truth value of what stands under a column, `meaning` that of a
  predicate.

## Main results

* `value_columnTest`: a test of a column means what stands under the column.
* `IsBody.value_eq_meaning`: a condition means the predicate that it was made for.
* `whereClause_preserves_meaning` says so of whole predicates, and when there is no condition.
-/

namespace ListQuery.Sql

open Checked (value_bind_eq_ok_iff)

variable {ι Cell : Type}

/-! ## The meaning of a column -/

section Columns

variable (engine : Engine ι Cell) (type : ColumnType) (cell : Option Cell)

/-- A cell compares with an operand that is brought to the type of the column first. -/
def comparesTo (op : Relop) (operand : Value) : Truth :=
  engine.compare op cell (engine.bind type (coerce type operand))

/-- A cell is in the range between the first two items of an operand; nothing is said of it if
there are none. -/
def isWithin (operand : Value) : Truth :=
  match boundsOf (coerce type operand) with
  | .ok (low, high) => engine.between cell (engine.bind type low) (engine.bind type high)
  | .error _ => .unknown

/-- A cell is one of some operands; an operand that is no sequence stands for itself alone. -/
def isAmong (operand : Value) : Truth :=
  match operand.members? with
  | some items => engine.among type cell (coerceAll type items)
  | none => comparesTo engine type cell .eq operand

/-- What a comparator and its operand say of a cell. Nothing is said by a raw expression. -/
def operatorMeaning : Comparator → Value → Truth
  | .negation, .test comparator operand => (operatorMeaning comparator operand).not
  | .negation, .null => (missing cell).not
  | .negation, operand => comparesTo engine type cell .ne operand
  | .membership, operand => isAmong engine type cell operand
  | .moreThan, operand => comparesTo engine type cell .gt operand
  | .moreThanOrEqual, operand => comparesTo engine type cell .ge operand
  | .lessThan, operand => comparesTo engine type cell .lt operand
  | .lessThanOrEqual, operand => comparesTo engine type cell .le operand
  | .like, operand => engine.like cell (engine.bind type (coerce type operand))
  | .ilike, operand =>
    engine.like (cell.map engine.lower)
      ((engine.bind type (coerce type operand)).map engine.lower)
  | .between, operand => isWithin engine type cell operand
  | .isNull, _ => missing cell
  | .raw, _ => .unknown

/-- What a value that stands under a column says of the cell of the column. -/
def columnMeaning : Value → Truth
  | .test comparator operand => operatorMeaning engine type cell comparator operand
  | .null => missing cell
  | .list items => engine.among type cell (coerceAll type items)
  | .tuple items => engine.among type cell (coerceAll type items)
  | operand => comparesTo engine type cell .eq operand

end Columns

/-! ## The meaning of a predicate -/

section Predicates

variable (engine : Engine ι Cell) (db : Database ι Cell) (schema : Schema ι)

/-- What a key that names no relationship and the value under it say of a row. -/
def cellMeaning (model : ι) (row : Row Cell) (key value : Value) : Truth :=
  match columnOf? (schema model) key with
  | some col => columnMeaning engine col.type (row col.name) value
  | none => .unknown

mutual

/-- What a predicate says of a row of a model: a map that all its entries hold, a list that some
item does. -/
def meaning (model : ι) (row : Row Cell) : Value → Truth
  | .map entries => allHold model row entries
  | .list items => someHolds model row items
  | _ => .unknown

/-- All entries of a map hold. Under a relationship, there is a related row of which the value
holds, and an empty list holds of any row. -/
def allHold (model : ι) (row : Row Cell) : List (Value × Value) → Truth
  | [] => .yes
  | (key, value) :: rest =>
    let entry : Truth := match relationshipOf? (schema model) key with
      | some r => .ofBool ((db r.target).any fun other =>
          r.joins engine row other && (value = .list [] || meaning r.target other value = .yes))
      | none => cellMeaning engine schema model row key value
    entry.and (allHold model row rest)

/-- Some item of a list holds. -/
def someHolds (model : ι) (row : Row Cell) : List Value → Truth
  | [] => .no
  | item :: rest => (meaning model row item).or (someHolds model row rest)

end

/-- What an entry of a map says of a row. -/
def entryMeaning (model : ι) (row : Row Cell) (entry : Value × Value) : Truth :=
  match relationshipOf? (schema model) entry.1 with
  | some r => .ofBool ((db r.target).any fun other => r.joins engine row other &&
      (entry.2 = .list [] || meaning engine db schema r.target other entry.2 = .yes))
  | none => cellMeaning engine schema model row entry.1 entry.2

variable {engine db schema}

theorem meaning_map (model : ι) (row : Row Cell) (entries : List (Value × Value)) :
    meaning engine db schema model row (.map entries) =
      .allOf (entries.map (entryMeaning engine db schema model row)) := by
  rw [meaning]
  induction entries with
  | nil => rw [allHold, List.map_nil, Truth.allOf]
  | cons entry rest ih => rw [allHold, List.map_cons, Truth.allOf, ih]; rfl

theorem meaning_list (model : ι) (row : Row Cell) (items : List Value) :
    meaning engine db schema model row (.list items) =
      .anyOf (items.map (meaning engine db schema model row)) := by
  rw [meaning]
  induction items with
  | nil => rw [someHolds, List.map_nil, Truth.anyOf]
  | cons item rest ih => rw [someHolds, List.map_cons, Truth.anyOf, ih]

end Predicates

/-! ## Tests -/

section Tests

variable {engine : Engine ι Cell} {col : Column} {type : ColumnType} {rows : ι → Row Cell}
  {cell : Option Cell} {value operand : Value} {comparator : Comparator} {test : Test}

/-- What is there does not become nothing by being brought to a type. -/
theorem coerce_ne_null (there : value ≠ .null) : coerce type value ≠ .null := by
  cases value with
  | null => exact absurd rfl there
  | text s =>
    rw [coerce]
    apply coerceText_induction (motive := (· ≠ .null)) <;> simp
  | float x =>
    rw [coerce]
    apply coerceFloat_induction (motive := (· ≠ .null)) <;> simp
  | _ => simp [coerce]

/-- What is no sequence does not become a list by being brought to a type. -/
theorem coerce_ne_list {items : List Value} (single : value.members? = none) :
    coerce type value ≠ .list items := by
  cases value with
  | list items => cases single
  | tuple items => cases single
  | text s =>
    rw [coerce]
    apply coerceText_induction (motive := (· ≠ .list items)) <;> simp
  | float x =>
    rw [coerce]
    apply coerceFloat_induction (motive := (· ≠ .list items)) <;> simp
  | _ => simp [coerce]

/-- Equality with a value that is there is a comparison with it. -/
theorem value_equals (there : operand ≠ .null) :
    (equals operand).value engine type rows cell =
      engine.compare .eq cell (engine.bind type operand) := by
  cases operand with
  | null => exact absurd rfl there
  | _ => rfl

theorem eq_of_ordered {make : Value → Test} (done : ordered make operand = .ok test) :
    test = make operand := by
  unfold ordered at done
  split at done
  · cases done
  · cases done
  · exact (Except.ok.inj done).symm

theorem value_memberOf (operand : Value) :
    (memberOf (coerce type operand)).value engine type rows cell =
      isAmong engine type cell operand := by
  cases members : operand.members? with
  | some items =>
    have sequence : coerce type operand = .list (coerceAll type items) := by
      cases operand with
      | list _ => cases members; rw [coerce]
      | tuple _ => cases members; rw [coerce]
      | _ => cases members
    rw [sequence, isAmong, members]
    rfl
  | none =>
    have alone : memberOf (coerce type operand) = .among false [coerce type operand] := by
      unfold memberOf
      split
      · next items same => exact absurd same (coerce_ne_list members)
      · rfl
    rw [alone, isAmong, members]
    exact Truth.or_no _

/-- To differ from a value that is there is to compare unequal. -/
theorem value_negate_equals (there : operand ≠ .null) :
    (equals operand).negate.value engine type rows cell =
      engine.compare .ne cell (engine.bind type operand) := by
  rw [Test.value_negate fun _ => equals_ne_raw operand, value_equals there]
  exact (engine.compare_negate .eq _ _).symm

/-- A test that comes from comparing means what its comparator and its operand say. -/
theorem value_comparison
    (plain : comparator = .negation → ∀ inner below, operand ≠ .test inner below)
    (done : comparison comparator (coerce type operand) = .ok test) :
    test.value engine type rows cell = operatorMeaning engine type cell comparator operand := by
  cases comparator with
  | negation =>
    rw [← Except.ok.inj done]
    by_cases null : operand = .null
    · rw [null]
      rfl
    · rw [value_negate_equals (coerce_ne_null null), operatorMeaning]
      · rfl
      · exact plain rfl
      · exact null
  | membership =>
    rw [← Except.ok.inj done, operatorMeaning]
    exact value_memberOf operand
  | isNull =>
    rw [← Except.ok.inj done, operatorMeaning]
    rfl
  | raw => cases done
  | between =>
    rw [operatorMeaning, isWithin]
    rw [comparison] at done
    cases bounds : boundsOf (coerce type operand) with
    | error e =>
      rw [bounds] at done
      cases done
    | ok both =>
      rw [bounds] at done
      rw [← Except.ok.inj done]
      rfl
  | _ =>
    rw [eq_of_ordered done, operatorMeaning]
    rfl

/-- A test means what the value that it was made for says of the cell. -/
theorem value_testOf (done : (testOf false col comparator operand).outcome.value = .ok test) :
    test.value engine col.type rows cell =
      operatorMeaning engine col.type cell comparator operand := by
  induction operand using Value.inside_induction generalizing comparator test with
  | step operand ih =>
    rcases testOf_cases comparator operand with ⟨inner, below, rfl, rfl⟩ | rfl | ⟨plain, compared⟩
    · rw [testOf] at done
      obtain ⟨test', within, last⟩ := value_bind_eq_ok_iff.1 done
      have inside : below.Inside (.test inner below) := .of_part List.mem_cons_self
      -- the tests that can be negated are no raw expressions
      have negated : (∀ expression, test' ≠ .raw expression) ∧ test = test'.negate := by
        cases test' with
        | raw expression => cases last
        | _ => exact ⟨by simp, (Except.ok.inj last).symm⟩
      rw [negated.2, Test.value_negate negated.1, ih below inside within, operatorMeaning]
    · simp [testOf, rawTest] at done
    · rw [compared] at done
      exact value_comparison plain done

theorem value_columnTest (done : (columnTest false col value).outcome.value = .ok test) :
    test.value engine col.type rows cell = columnMeaning engine col.type cell value := by
  cases value with
  | test comparator operand => exact value_testOf done
  | null =>
    cases done
    rfl
  | list items =>
    cases done
    rfl
  | tuple items =>
    cases done
    rfl
  | map entries => cases done
  | _ =>
    rw [← Except.ok.inj done]
    exact value_equals (coerce_ne_null (by simp))

end Tests

/-! ## Predicates -/

section Bodies

variable [DecidableEq ι] {engine : Engine ι Cell} {db : Database ι Cell} {schema : Schema ι}

/-- Lists whose items have the same values have the same values. -/
theorem map_eq_map_of_forall₂ {α β γ : Type} {R : α → β → Prop} {f : α → γ} {g : β → γ}
    {xs : List α} {ys : List β} (related : List.Forall₂ R xs ys)
    (same : ∀ x ∈ xs, ∀ y, R x y → g y = f x) : ys.map g = xs.map f := by
  induction related with
  | nil => rfl
  | cons here _ ih =>
    obtain ⟨first, rest⟩ := List.forall_mem_cons.1 same
    rw [List.map_cons, List.map_cons, first _ here, ih rest]

/-- A condition means the map, or the list of maps, that it was made for: evaluated for any rows
at hand, it has the value that the predicate has for the row of the model. -/
theorem IsBody.value_eq_meaning {predicate : Value} :
    ∀ {model : ι} {clause : Clause ι}, IsBody schema false model predicate clause →
      ∀ rows : ι → Row Cell, clause.value engine db rows =
        meaning engine db schema model (rows model) predicate := by
  induction predicate using Value.inside_induction with
  | step predicate ih =>
    intro model clause body rows
    cases body with
    | @map entries parts done =>
      rw [Clause.value_conjunction, meaning_map]
      refine congrArg Truth.allOf (map_eq_map_of_forall₂ (conditions_eq_ok_iff.1 done) ?_)
      rintro ⟨key, below⟩ there part here
      cases leads : relationshipOf? (schema model) key with
      | some r =>
        obtain ⟨inner, rfl, asked⟩ := (condition_related_eq_ok_iff leads).1 here
        simp only [entryMeaning, leads, Clause.value]
        refine congrArg Truth.ofBool (congrArg (List.any _) (funext fun other => ?_))
        refine congrArg (r.joins engine (rows model) other && ·) ?_
        rcases asked with ⟨rfl, rfl⟩ | nested
        · simp [Clause.value]
        · have inside : below.Inside (.map entries) := .of_part (Value.value_mem_parts there)
          have filled : below ≠ .list [] := by
            rintro rfl
            cases nested with
            | list filled _ => exact filled rfl
          have same := ih below inside nested (bindRow rows r.target other)
          rw [bindRow_self] at same
          simp [same, filled]
      | none =>
        obtain ⟨col, test, named, tested, rfl⟩ := (condition_column_eq_ok_iff leads).1 here
        simp only [entryMeaning, leads, cellMeaning, named, Clause.value]
        exact value_columnTest tested
    | @list items parts filled done =>
      rw [Clause.value_disjunction, meaning_list]
      refine congrArg Truth.anyOf (map_eq_map_of_forall₂ (disjuncts_eq_ok_iff.1 done) ?_)
      intro item there part here
      obtain ⟨entries, parts, rfl, mapped, rfl⟩ := conjunctionOf_eq_ok_iff.1 here
      exact ih (.map entries) (.of_part there) (.map mapped) rows

/-- Conditions mean the predicates that they are made for: where raw expressions are not allowed
and there is a condition, it has the truth value of the predicate, for any data, any rows at
hand and any engine. There is none exactly for a predicate that is missing or empty. -/
theorem whereClause_preserves_meaning (engine : Engine ι Cell) (db : Database ι Cell)
    (schema : Schema ι) (model : ι) (predicate : Value) :
    (∀ clause, (whereClause schema false model predicate).outcome.value = .ok (some clause) →
      ∀ rows : ι → Row Cell, clause.value engine db rows =
        meaning engine db schema model (rows model) predicate) ∧
    ((whereClause schema false model predicate).outcome.value = .ok none ↔
      predicate = .null ∨ predicate = .map [] ∨ predicate = .list []) :=
  ⟨fun _ done => (whereClause_eq_ok_some_iff.1 done).2.value_eq_meaning,
    whereClause_eq_ok_none_iff⟩

/-- An engine for whole numbers, which knows nothing of other operands. -/
def wholeNumbers : Engine ι Int where
  bind _ operand := match operand with
    | .int n => some n
    | _ => none
  order := Ord.compare
  isLike a b := a = b
  lower := id
  raw _ _ := .unknown

/-- A note with so many stars, if it has any, that answers another one. -/
def noteRow (id : Int) (parent stars : Option Int) : Row Int
  | "id" => some id
  | "parent_id" => parent
  | "stars" => stars
  | _ => none

/-- Notes that have not three stars, and answer one that has more than four. -/
def wellAnswered : Value :=
  .map [(.text "stars", .test .negation (.int 3)),
    (.text "parent", .map [(.text "stars", .test .moreThan (.int 4))])]

/-- Of three notes that answer another one, one with two stars meets a condition, one with three
does not, and of one without stars it is not known. -/
theorem whereClause_preserves_meaning_notes :
    ∃ clause, (whereClause notes false () wellAnswered).outcome.value = .ok (some clause) ∧
      [some 2, some 3, none].map (fun stars =>
        clause.value wholeNumbers (fun _ => [noteRow 1 none (some 5)])
          fun _ => noteRow 2 (some 1) stars) = [.yes, .no, .unknown] := by
  refine ⟨_, rfl, ?_⟩
  simp only [(whereClause_preserves_meaning wholeNumbers _ notes () wellAnswered).1 _ rfl]
  rfl

end Bodies

end ListQuery.Sql
