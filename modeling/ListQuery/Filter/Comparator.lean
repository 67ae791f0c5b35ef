/-!
# Comparators

A compiled predicate tests a field either for equality, by a plain value, or by a
comparator applied to an operand. The operand of a negation may be a test again.
-/

namespace ListQuery

/-- A way of testing a field against an operand. -/
inductive Comparator
  | negation
  | membership
  | moreThan
  | moreThanOrEqual
  | lessThan
  | lessThanOrEqual
  | like
  | ilike
  | between
  | isNull
  | raw
  deriving DecidableEq

namespace Comparator

/-- The name of a comparator. -/
def name : Comparator → String
  | .negation => "not"
  | .membership => "in"
  | .moreThan => "moreThan"
  | .moreThanOrEqual => "moreThanOrEqual"
  | .lessThan => "lessThan"
  | .lessThanOrEqual => "lessThanOrEqual"
  | .like => "like"
  | .ilike => "ilike"
  | .between => "between"
  | .isNull => "isNull"
  | .raw => "raw"

/-- All comparators. -/
def all : List Comparator :=
  [.negation, .membership, .moreThan, .moreThanOrEqual, .lessThan, .lessThanOrEqual, .like,
   .ilike, .between, .isNull, .raw]

/-- The comparator of a name. -/
def ofName? (s : String) : Option Comparator := all.find? fun c => c.name = s

end Comparator

end ListQuery
