import ListQuery.Sql.Schema
import ListQuery.Value.Basic

/-!
# Conditions on rows

A condition on the rows of a model tests columns, follows relationships, and joins
such conditions by conjunction and disjunction. Every test but a raw expression can be
negated. Negating is part of the test, so that a negated test is never a nested one.

## Main definitions

* `Test` is a test of one column, `Clause` a condition on a row.
* `Test.negate` is the test that holds when another does not.
* `Clause.conjunction` and `Clause.disjunction` join conditions.
-/

namespace ListQuery.Sql

/-- A comparison with a value. -/
inductive Relop
  | eq
  | ne
  | gt
  | ge
  | lt
  | le
  deriving DecidableEq

/-- The comparison that holds when another does not. -/
def Relop.negate : Relop → Relop
  | .eq => .ne
  | .ne => .eq
  | .gt => .le
  | .ge => .lt
  | .lt => .ge
  | .le => .gt

/-- A test of one column. The tests other than comparisons and raw expressions come with a
flag that says whether they are negated. -/
inductive Test
  | compare (op : Relop) (operand : Value)
  /-- Equality with a truth value, which is written out. -/
  | isTruth (negated : Bool) (b : Bool)
  | isNull (negated : Bool)
  | like (negated : Bool) (pattern : Value)
  /-- Likeness in small letters. -/
  | ilike (negated : Bool) (pattern : Value)
  | among (negated : Bool) (values : List Value)
  | between (negated : Bool) (low high : Value)
  /-- An expression that is inserted as it is in place of a test. -/
  | raw (expression : String)
  deriving DecidableEq

/-- The test that holds when another does not. A raw expression, of whose sense nothing is
known, stays as it is. -/
def Test.negate : Test → Test
  | .compare op operand => .compare op.negate operand
  | .isTruth negated b => .isTruth (!negated) b
  | .isNull negated => .isNull (!negated)
  | .like negated pattern => .like (!negated) pattern
  | .ilike negated pattern => .ilike (!negated) pattern
  | .among negated values => .among (!negated) values
  | .between negated low high => .between (!negated) low high
  | .raw expression => .raw expression

/-- A condition on a row of a model. -/
inductive Clause (ι : Type)
  /-- A test of a column. -/
  | column (model : ι) (column : Column) (test : Test)
  /-- The condition that always holds. -/
  | always
  | all (parts : List (Clause ι))
  | any (parts : List (Clause ι))
  /-- Some related row satisfies a condition. -/
  | related (model : ι) (relationship : Relationship ι) (inner : Clause ι)

namespace Clause

variable {ι : Type}

/-- Whether a condition is the one that always holds. -/
def isAlways : Clause ι → Bool
  | .always => true
  | _ => false

/-- All of some conditions hold. -/
def conjunction : List (Clause ι) → Clause ι
  | [] => .always
  | [part] => part
  | parts => .all parts

/-- Some of some conditions hold. One that always holds makes the others void. -/
def disjunction (parts : List (Clause ι)) : Clause ι :=
  if parts.any isAlways then .always
  else match parts with
    | [part] => part
    | parts => .any parts

end Clause

@[simp]
theorem Relop.negate_negate (op : Relop) : op.negate.negate = op := by cases op <;> rfl

@[simp]
theorem Test.negate_negate (test : Test) : test.negate.negate = test := by
  cases test <;> simp [Test.negate]

end ListQuery.Sql
