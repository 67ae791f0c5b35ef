import ListQuery.Proofs.Sql.Truth
import ListQuery.Sql.Clause

/-!
# Evaluating conditions

A condition is evaluated for the rows that are at hand: one for each model that is spoken of,
of which the innermost sub-query decides. A column has a cell in its row, or none, and
comparing nothing gives nothing known. A sub-query asks for a row of another table that is
joined to the row at hand and for which the inner condition is true; it is never unknown.

What the cells are, how an operand becomes one and how cells compare is left to the engine
that evaluates the condition. All that is assumed is that cells are ordered.

## Main definitions

* `Engine` is what a condition leaves to the engine, `Database` the rows of all tables.
* `Test.value` is the truth value of a test, `Clause.value` that of a condition.

## Main results

* `Test.value_negate`: the negation of a test has the opposite value.
* `Clause.value_conjunction` and `Clause.value_disjunction`: joined conditions have the joined
  values.
-/

namespace ListQuery.Sql

/-- A row of a table: the cells of its columns, by their names. A cell may be missing. -/
abbrev Row (Cell : Type) := String → Option Cell

/-- What is left to the engine that evaluates a condition. -/
structure Engine (ι Cell : Type) where
  /-- The cell that an operand becomes for a column of a type, if it becomes any. -/
  bind : ColumnType → Value → Option Cell
  order : Cell → Cell → Ordering
  /-- Whether a cell is like a pattern. -/
  isLike : Cell → Cell → Bool
  /-- A cell in small letters. -/
  lower : Cell → Cell
  /-- The value of a raw expression for the rows at hand. -/
  raw : String → (ι → Row Cell) → Truth

/-- The rows of all tables. -/
abbrev Database (ι Cell : Type) := ι → List (Row Cell)

/-- Whether a comparison holds between two things in a given order. -/
def Relop.holds : Relop → Ordering → Bool
  | .eq, o => o.isEq
  | .ne, o => o.isNe
  | .gt, o => o.isGT
  | .ge, o => o.isGE
  | .lt, o => o.isLT
  | .le, o => o.isLE

theorem Relop.holds_negate (op : Relop) (o : Ordering) : op.negate.holds o = !op.holds o := by
  cases op <;> cases o <;> rfl

section Evaluation

variable {ι Cell : Type}

namespace Engine

variable (engine : Engine ι Cell)

/-- The comparison of two cells that may be missing. -/
def compare (op : Relop) : Option Cell → Option Cell → Truth :=
  Truth.lift fun a b => op.holds (engine.order a b)

/-- The likeness of a cell and a pattern. -/
def like : Option Cell → Option Cell → Truth := Truth.lift engine.isLike

/-- Whether a cell is among those of some operands. -/
def among (type : ColumnType) (cell : Option Cell) (operands : List Value) : Truth :=
  Truth.anyOf (operands.map fun operand => engine.compare .eq cell (engine.bind type operand))

/-- Whether a cell is in a range. -/
def between (cell low high : Option Cell) : Truth :=
  (engine.compare .ge cell low).and (engine.compare .le cell high)

theorem compare_negate (op : Relop) (a b : Option Cell) :
    engine.compare op.negate a b = (engine.compare op a b).not :=
  Truth.lift_not (fun x y => op.holds_negate (engine.order x y)) a b

end Engine

/-- Whether a cell is missing. -/
def missing (cell : Option Cell) : Truth := Truth.ofBool cell.isNone

/-- The truth value of a test of a column, for its cell and the rows at hand. -/
def Test.value (engine : Engine ι Cell) (type : ColumnType) (rows : ι → Row Cell)
    (cell : Option Cell) : Test → Truth
  | .compare op operand => engine.compare op cell (engine.bind type operand)
  | .isTruth negated b =>
    Truth.negateIf negated (engine.compare .eq cell (engine.bind type (.bool b)))
  | .isNull negated => Truth.negateIf negated (missing cell)
  | .like negated pattern => Truth.negateIf negated (engine.like cell (engine.bind type pattern))
  | .ilike negated pattern =>
    Truth.negateIf negated
      (engine.like (cell.map engine.lower) ((engine.bind type pattern).map engine.lower))
  | .among negated operands => Truth.negateIf negated (engine.among type cell operands)
  | .between negated low high =>
    Truth.negateIf negated
      (engine.between cell (engine.bind type low) (engine.bind type high))
  | .raw expression => engine.raw expression rows

/-- The negation of a test has the opposite value, unless the test is a raw expression. -/
theorem Test.value_negate {test : Test} (notRaw : ∀ expression, test ≠ .raw expression)
    (engine : Engine ι Cell) (type : ColumnType) (rows : ι → Row Cell) (cell : Option Cell) :
    test.negate.value engine type rows cell = (test.value engine type rows cell).not := by
  cases test with
  | compare op operand => exact engine.compare_negate op _ _
  | raw expression => exact absurd rfl (notRaw expression)
  | _ => simp only [negate, value, Truth.negateIf_not]

/-- Two rows are joined by a relationship: their cells are there and equal. -/
def Relationship.joins (engine : Engine ι Cell) (r : Relationship ι) (row other : Row Cell) :
    Bool :=
  engine.compare .eq (row r.own) (other r.other) = .yes

/-- The rows at hand, with another one for a model. -/
def bindRow [DecidableEq ι] (rows : ι → Row Cell) (model : ι) (row : Row Cell) : ι → Row Cell :=
  fun other => if other = model then row else rows other

@[simp]
theorem bindRow_self [DecidableEq ι] (rows : ι → Row Cell) (model : ι) (row : Row Cell) :
    bindRow rows model row model = row := if_pos rfl

variable [DecidableEq ι] (engine : Engine ι Cell) (db : Database ι Cell)

namespace Clause

mutual

/-- The truth value of a condition for the rows at hand. -/
def value (rows : ι → Row Cell) : Clause ι → Truth
  | .column model col test => test.value engine col.type rows (rows model col.name)
  | .always => .yes
  | .all parts => .allOf (values rows parts)
  | .any parts => .anyOf (values rows parts)
  | .related model r inner =>
    .ofBool ((db r.target).any fun row =>
      r.joins engine (rows model) row && value (bindRow rows r.target row) inner = .yes)

/-- The truth values of some conditions. -/
def values (rows : ι → Row Cell) : List (Clause ι) → List Truth
  | [] => []
  | part :: rest => value rows part :: values rows rest

end

theorem values_eq_map (rows : ι → Row Cell) (parts : List (Clause ι)) :
    values engine db rows parts = parts.map (value engine db rows) := by
  induction parts with
  | nil => rw [values, List.map_nil]
  | cons part rest ih => rw [values, List.map_cons, ih]

variable {engine db}

theorem value_eq_yes_of_isAlways {clause : Clause ι} (always : clause.isAlways = true)
    (rows : ι → Row Cell) : clause.value engine db rows = .yes := by
  cases clause with
  | always => rw [value]
  | _ => cases always

/-- The conjunction of conditions is true where all are, and false where some is. -/
theorem value_conjunction (rows : ι → Row Cell) (parts : List (Clause ι)) :
    (conjunction parts).value engine db rows = .allOf (parts.map (value engine db rows)) := by
  rw [conjunction.eq_def]
  split
  · rw [value, List.map_nil, Truth.allOf]
  · rw [List.map_singleton, Truth.allOf, Truth.allOf, Truth.and_yes]
  · rw [value, values_eq_map]

/-- The disjunction of conditions is true where some is, and false where all are. -/
theorem value_disjunction (rows : ι → Row Cell) (parts : List (Clause ι)) :
    (disjunction parts).value engine db rows = .anyOf (parts.map (value engine db rows)) := by
  unfold disjunction
  split
  · next void =>
    -- the part that always holds decides
    obtain ⟨part, there, always⟩ := List.any_eq_true.1 void
    rw [value, Truth.anyOf_eq_yes_of_mem]
    exact List.mem_map.2 ⟨part, there, value_eq_yes_of_isAlways always rows⟩
  · split
    · rw [List.map_singleton, Truth.anyOf, Truth.anyOf, Truth.or_no]
    · rw [value, values_eq_map]

end Clause

end Evaluation

end ListQuery.Sql
