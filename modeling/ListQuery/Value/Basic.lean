import ListQuery.Calendar.Moment
import ListQuery.Field.ScalarKind
import ListQuery.Filter.Comparator
import ListQuery.Number.Binary64
import ListQuery.Sort.Direction

/-!
# Dynamic values

Clients send filters, sort orders and page bounds as untyped data, and compiled
predicates are data of the same shape with tests in place of operator objects. A
map keeps the order of its entries and may have any value as a key. Besides plain
data a value may be the kind of a relation, or a mark: a scalar kind, a type name, a
sort direction, or the mark of an argument that was left out.

## Main definitions

* `Value` is the type of dynamic values, `Mark` that of its marks.
* `Value.truthy` says which values count as true where a truth value is wanted.
* `Value.members?` and `Value.entries?` view a value as a sequence or a map.
-/

namespace ListQuery

/-- The names of types that may stand for a kind. -/
inductive TypeName
  | string
  | int
  | float
  | bool
  | list
  deriving DecidableEq

/-- The word of a type name. -/
def TypeName.word : TypeName → String
  | .string => "str"
  | .int => "int"
  | .float => "float"
  | .bool => "bool"
  | .list => "list"

/-- A value that is not plain data. -/
inductive Mark
  | kind (kind : ScalarKind)
  | type (name : TypeName)
  | direction (d : SortDirection)
  | unset
  deriving DecidableEq

/-- A dynamic value. -/
inductive Value
  | null
  | bool (b : Bool)
  | int (n : Int)
  | float (x : Binary64)
  | text (s : String)
  | list (items : List Value)
  | tuple (items : List Value)
  | map (entries : List (Value × Value))
  | test (comparator : Comparator) (operand : Value)
  /-- The kind of a relation, by what it leads to. -/
  | relation (target : Value)
  | mark (m : Mark)
  | day (d : Date)
  | moment (m : Moment)

namespace Value

instance : Inhabited Value := ⟨.null⟩

mutual

/-- Equality of values is decidable, by recursion on the first. -/
def decEq : (a b : Value) → Decidable (a = b)
  | .null, b => by cases b <;> first | exact isTrue rfl | exact isFalse nofun
  | .bool x, b => match b with
    | .bool y => decidable_of_iff (x = y) (by simp)
    | .null | .int _ | .float _ | .text _ | .list _ | .tuple _ | .map _ | .test _ _ | .relation _
    | .mark _ | .day _ | .moment _ => isFalse nofun
  | .int x, b => match b with
    | .int y => decidable_of_iff (x = y) (by simp)
    | .null | .bool _ | .float _ | .text _ | .list _ | .tuple _ | .map _ | .test _ _ | .relation _
    | .mark _ | .day _ | .moment _ => isFalse nofun
  | .float x, b => match b with
    | .float y => decidable_of_iff (x = y) (by simp)
    | .null | .bool _ | .int _ | .text _ | .list _ | .tuple _ | .map _ | .test _ _ | .relation _
    | .mark _ | .day _ | .moment _ => isFalse nofun
  | .text x, b => match b with
    | .text y => decidable_of_iff (x = y) (by simp)
    | .null | .bool _ | .int _ | .float _ | .list _ | .tuple _ | .map _ | .test _ _ | .relation _
    | .mark _ | .day _ | .moment _ => isFalse nofun
  | .list x, b => match b with
    | .list y => @decidable_of_iff _ (x = y) (by simp) (decEqItems x y)
    | .null | .bool _ | .int _ | .float _ | .text _ | .tuple _ | .map _ | .test _ _ | .relation _
    | .mark _ | .day _ | .moment _ => isFalse nofun
  | .tuple x, b => match b with
    | .tuple y => @decidable_of_iff _ (x = y) (by simp) (decEqItems x y)
    | .null | .bool _ | .int _ | .float _ | .text _ | .list _ | .map _ | .test _ _ | .relation _
    | .mark _ | .day _ | .moment _ => isFalse nofun
  | .map x, b => match b with
    | .map y => @decidable_of_iff _ (x = y) (by simp) (decEqEntries x y)
    | .null | .bool _ | .int _ | .float _ | .text _ | .list _ | .tuple _ | .test _ _ | .relation _
    | .mark _ | .day _ | .moment _ => isFalse nofun
  | .test c x, b => match b with
    | .test d y =>
      @decidable_of_iff _ (c = d ∧ x = y) (by simp) (@instDecidableAnd _ _ _ (decEq x y))
    | .null | .bool _ | .int _ | .float _ | .text _ | .list _ | .tuple _ | .map _ | .relation _
    | .mark _ | .day _ | .moment _ => isFalse nofun
  | .relation x, b => match b with
    | .relation y => @decidable_of_iff _ (x = y) (by simp) (decEq x y)
    | .null | .bool _ | .int _ | .float _ | .text _ | .list _ | .tuple _ | .map _ | .test _ _
    | .mark _ | .day _ | .moment _ => isFalse nofun
  | .mark x, b => match b with
    | .mark y => decidable_of_iff (x = y) (by simp)
    | .null | .bool _ | .int _ | .float _ | .text _ | .list _ | .tuple _ | .map _ | .test _ _
    | .relation _ | .day _ | .moment _ => isFalse nofun
  | .day x, b => match b with
    | .day y => decidable_of_iff (x = y) (by simp)
    | .null | .bool _ | .int _ | .float _ | .text _ | .list _ | .tuple _ | .map _ | .test _ _
    | .relation _ | .mark _ | .moment _ => isFalse nofun
  | .moment x, b => match b with
    | .moment y => decidable_of_iff (x = y) (by simp)
    | .null | .bool _ | .int _ | .float _ | .text _ | .list _ | .tuple _ | .map _ | .test _ _
    | .relation _ | .mark _ | .day _ => isFalse nofun

/-- Equality of sequences of values. -/
def decEqItems : (xs ys : List Value) → Decidable (xs = ys)
  | [], [] => isTrue rfl
  | [], _ :: _ => isFalse nofun
  | _ :: _, [] => isFalse nofun
  | x :: xs, y :: ys =>
    @decidable_of_iff _ (x = y ∧ xs = ys) (by simp)
      (@instDecidableAnd _ _ (decEq x y) (decEqItems xs ys))

/-- Equality of lists of entries. -/
def decEqEntries : (xs ys : List (Value × Value)) → Decidable (xs = ys)
  | [], [] => isTrue rfl
  | [], _ :: _ => isFalse nofun
  | _ :: _, [] => isFalse nofun
  | (k, v) :: xs, (l, w) :: ys =>
    @decidable_of_iff _ ((k = l ∧ v = w) ∧ xs = ys) (by simp)
      (@instDecidableAnd _ _ (@instDecidableAnd _ _ (decEq k l) (decEq v w)) (decEqEntries xs ys))

end

instance : DecidableEq Value := decEq

/-- The values that count as true: all but nothing, false, zero, empty text, empty
containers and the mark of an argument left out. -/
def truthy : Value → Bool
  | .null => false
  | .bool b => b
  | .int n => n ≠ 0
  | .float x => !x.isZero
  | .text s => s ≠ ""
  | .list items => !items.isEmpty
  | .tuple items => !items.isEmpty
  | .map entries => !entries.isEmpty
  | .mark .unset => false
  | .test _ _ | .relation _ | .mark _ | .day _ | .moment _ => true

/-- The items of a list or a tuple. -/
def members? : Value → Option (List Value)
  | .list items => some items
  | .tuple items => some items
  | _ => none

/-- The entries of a map. -/
def entries? : Value → Option (List (Value × Value))
  | .map entries => some entries
  | _ => none

/-- The text that a value is; a scalar kind is the text of its name. -/
def text? : Value → Option String
  | .text s => some s
  | .mark (.kind kind) => some kind.name
  | _ => none

/-- The empty map. -/
def emptyMap : Value := .map []

end Value

end ListQuery
