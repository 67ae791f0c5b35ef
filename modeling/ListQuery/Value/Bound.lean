import ListQuery.Value.Key

/-!
# Bounds

A bound limits a whole number from above. It is given as a number of any sort: a
whole number, a double-precision number, or a truth value that stands for one or
zero. It is shown as it was given.

## Main definitions

* `Bound` is a bound, `Bound.ofValue?` reads one.
* `Bound.admits` holds of the whole numbers that do not exceed it,
  `Bound.exceededBy` of those that do.
* `Bound.positive` reads a bound that must be at least one.
-/

namespace ListQuery

/-- A limit on whole numbers, as it was given. -/
inductive Bound
  | int (n : Int)
  | bool (b : Bool)
  | float (x : Binary64)
  deriving DecidableEq

namespace Bound

/-- The bound that a value gives. -/
def ofValue? : Value → Option Bound
  | .int n => some (.int n)
  | .bool b => some (.bool b)
  | .float x => some (.float x)
  | _ => none

/-- The value that gives a bound. -/
def toValue : Bound → Value
  | .int n => .int n
  | .bool b => .bool b
  | .float x => .float x

/-- How the bound stands to a whole number; nothing when it is no number. -/
def compareInt : Bound → Int → Option Ordering
  | .int m, n => some (compare m n)
  | .bool b, n => some (compare (if b then 1 else 0) n)
  | .float x, n => x.compareInt n

/-- Whether a whole number is at most the bound. -/
def admits (bound : Bound) (n : Int) : Bool :=
  match bound.compareInt n with
  | some .lt | none => false
  | _ => true

/-- Whether a whole number is more than the bound. -/
def exceededBy (bound : Bound) (n : Int) : Bool := bound.compareInt n = some .lt

/-- A bound as it is shown. -/
def literal (bound : Bound) : String := bound.toValue.literal

/-- The whole part of a bound. -/
def toInt : Bound → Int
  | .int n => n
  | .bool b => if b then 1 else 0
  | .float x => x.truncate

@[simp]
theorem ofValue?_toValue (bound : Bound) : ofValue? bound.toValue = some bound := by
  cases bound <;> rfl

/-- Why a value is refused as a bound. -/
inductive Error
  | tooSmall (what : String) (bound : Bound)
  | notANumber (value : Value)
  deriving DecidableEq

/-- What is wrong with a bound. -/
def Error.message : Error → String
  | .tooSmall what bound => what ++ " must be >= 1, got " ++ bound.literal
  | .notANumber value =>
    "'<' not supported between instances of '" ++ value.sort ++ "' and 'int'"

/-- The bound that a value gives, which must not be less than one. -/
def positive (what : String) (value : Value) : Except Error Bound :=
  match ofValue? value with
  | none => .error (.notANumber value)
  | some bound => if bound.exceededBy 1 then .error (.tooSmall what bound) else .ok bound

theorem admits_int {m n : Int} : (Bound.int m).admits n = true ↔ n ≤ m := by
  rcases Int.lt_trichotomy m n with below | rfl | above
  · simp [admits, compareInt, compare, compareOfLessAndEq, below, Int.not_le.2 below]
  · simp [admits, compareInt, compare, compareOfLessAndEq]
  · simp [admits, compareInt, compare, compareOfLessAndEq, Int.lt_asymm above,
      Int.ne_of_gt above, Int.le_of_lt above]

/-- A bound that admits a number admits all lesser ones. -/
theorem admits_mono {bound : Bound} {low high : Int} (le : low ≤ high)
    (admitted : bound.admits high = true) : bound.admits low = true := by
  cases bound with
  | int n => exact admits_int.2 (Int.le_trans le (admits_int.1 admitted))
  | bool b =>
    have reread (n : Int) :
        (Bound.bool b).admits n = (Bound.int (if b then 1 else 0)).admits n := rfl
    rw [reread, admits_int] at admitted ⊢
    exact Int.le_trans le admitted
  | float x =>
    cases kind : x.kind with
    | nan => simp [admits, compareInt, Binary64.compareInt, kind] at admitted
    | infinite => simpa [admits, compareInt, Binary64.compareInt, kind] using admitted
    | finite =>
      -- a finite number admits what is at most as many units
      have reread (n : Int) : (Bound.float x).admits n =
          (Bound.int (if x.negative then -(x.units : Int) else x.units)).admits
            (n * Binary64.one) := by
        simp only [admits, compareInt, Binary64.compareInt, kind]
      rw [reread, admits_int] at admitted ⊢
      have units : (0 : Int) ≤ Binary64.one := Int.natCast_nonneg _
      exact Int.le_trans (Int.mul_le_mul_of_nonneg_right le units) admitted

theorem exceededBy_int {m n : Int} : (Bound.int m).exceededBy n = true ↔ m < n := by
  rcases Int.lt_trichotomy m n with below | rfl | above
  · simp [exceededBy, compareInt, compare, compareOfLessAndEq, below]
  · simp [exceededBy, compareInt, compare, compareOfLessAndEq]
  · simp [exceededBy, compareInt, compare, compareOfLessAndEq, Int.lt_asymm above,
      Int.ne_of_gt above]

end Bound

end ListQuery
