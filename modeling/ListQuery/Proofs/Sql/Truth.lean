import Mathlib.Tactic.TypeStar

/-!
# Three-valued truth

A comparison with what is missing is neither true nor false. Conditions in a query therefore
have one of three truth values: a conjunction takes the least value of its parts, a
disjunction the greatest, and a negation leaves the unknown as it is.

## Main definitions

* `Truth` is the type of truth values, with `Truth.not`, `Truth.and` and `Truth.or`.
* `Truth.allOf` and `Truth.anyOf` join any number of them.
* `Truth.lift` compares two things either of which may be missing.
-/

namespace ListQuery

/-- A truth value. -/
inductive Truth
  | no
  | unknown
  | yes
  deriving DecidableEq

namespace Truth

/-- The truth value of what is known. -/
def ofBool (b : Bool) : Truth := if b then yes else no

/-- Negation. What is unknown stays unknown. -/
def not : Truth → Truth
  | no => yes
  | unknown => unknown
  | yes => no

/-- Conjunction: the lesser value. -/
def and : Truth → Truth → Truth
  | no, _ => no
  | yes, t => t
  | unknown, no => no
  | unknown, _ => unknown

/-- Disjunction: the greater value. -/
def or : Truth → Truth → Truth
  | yes, _ => yes
  | no, t => t
  | unknown, yes => yes
  | unknown, _ => unknown

/-- A truth value, or its negation. -/
def negateIf (negated : Bool) (t : Truth) : Truth := if negated then t.not else t

/-- All of some truth values hold. -/
def allOf : List Truth → Truth
  | [] => yes
  | t :: rest => t.and (allOf rest)

/-- Some of some truth values hold. -/
def anyOf : List Truth → Truth
  | [] => no
  | t :: rest => t.or (anyOf rest)

/-- What holds of two things; nothing is known if either is missing. -/
def lift {α : Type*} (holds : α → α → Bool) : Option α → Option α → Truth
  | some a, some b => ofBool (holds a b)
  | _, _ => unknown

variable {t u : Truth}

@[simp] theorem not_not (t : Truth) : t.not.not = t := by cases t <;> rfl

@[simp] theorem ofBool_not (b : Bool) : ofBool (!b) = (ofBool b).not := by cases b <;> rfl

@[simp] theorem and_yes (t : Truth) : t.and yes = t := by cases t <;> rfl

@[simp] theorem or_no (t : Truth) : t.or no = t := by cases t <;> rfl

@[simp] theorem or_yes (t : Truth) : t.or yes = yes := by cases t <;> rfl

/-- The negation of a negated value undoes the negation. -/
@[simp] theorem negateIf_not (negated : Bool) (t : Truth) :
    negateIf (!negated) t = (negateIf negated t).not := by
  cases negated <;> simp [negateIf]

/-- Where the opposite holds of what is there, the lifted comparisons are opposite. -/
theorem lift_not {α : Type*} {holds fails : α → α → Bool}
    (opposite : ∀ a b, fails a b = !holds a b) (a b : Option α) :
    lift fails a b = (lift holds a b).not := by
  cases a with
  | none => rfl
  | some a =>
    cases b with
    | none => rfl
    | some b => simp only [lift, opposite, ofBool_not]

/-- What holds among some truth values makes the rest void. -/
theorem anyOf_eq_yes_of_mem {ts : List Truth} (there : yes ∈ ts) : anyOf ts = yes := by
  induction ts with
  | nil => cases there
  | cons t rest ih =>
    rcases List.mem_cons.1 there with rfl | later
    · rfl
    · rw [anyOf, ih later, or_yes]

end Truth

end ListQuery
