import ListQuery.Filter.Compile

/-!
# Operator objects and what is made of them

Whether a map is an operator object is told by its keys, and what is made of it by its first entry:
a plain value or a test. Only two operators may leave a map. Equality leaves its operand as it is,
and a range that is not given by a pair stays an operator object, which is also all that applying an
operator ever reports.

## Main results

* `isOperatorObject_perm`: the keys decide what is an operator object.
* `Operator.entries?_apply` and `value_apply_between` say when an operator leaves a map.
* `eq_malformedRange_of_mem_apply`: what applying an operator reports.
-/

namespace ListQuery

namespace Filter

/-- Whether a map is an operator object is told by its keys, in whatever order they stand. -/
theorem isOperatorObject_perm {entries fields : List (Value × Value)}
    (same : (Ordered.keys entries).Perm (Ordered.keys fields)) :
    isOperatorObject entries = isOperatorObject fields := by
  have told (entries : List (Value × Value)) : isOperatorObject entries =
      (!(Ordered.keys entries).isEmpty && (Ordered.keys entries).all isOperatorKey) := by
    rw [isOperatorObject, Ordered.keys, List.all_map, List.isEmpty_map]
    rfl
  rw [told, told, same.isEmpty_eq, same.all_eq]

/-- The key of an operator object names an operator. -/
theorem exists_operator {entries : List (Value × Value)}
    (object : isOperatorObject entries = true) {entry : Value × Value} (there : entry ∈ entries) :
    ∃ op : Operator, entry.1 = .text op.name ∧ OperatorName.ofKey entry.1 = .known op := by
  have named : isOperatorKey entry.1 = true := by
    simp only [isOperatorObject, Bool.and_eq_true, List.all_eq_true] at object
    exact object.2 entry there
  obtain ⟨op, found⟩ := Option.isSome_iff_exists.1 named
  refine ⟨op, ?_, by simp [OperatorName.ofKey, found]⟩
  cases key : entry.1 with
  | text name =>
    rw [key] at found
    rw [Operator.name_of_ofName? found]
  | _ => simp [key, operatorOfKey?] at found

/-- An operator makes a plain value or a test of its operand, unless it is an equality with a
map or a range that is not given by a pair. -/
theorem Operator.entries?_apply {op : Operator} {operand : Value}
    (noMap : op = .eq → operand.entries? = none)
    (pair : op = .between → ∃ low high, operand.members? = some [low, high]) :
    (op.apply operand).value.entries? = none := by
  cases op with
  | eq => exact noMap rfl
  | between =>
    obtain ⟨low, high, members⟩ := pair rfl
    simp [Operator.apply, Operator.range, members, Value.entries?]
  | isNull =>
    cases truthy : operand.truthy <;>
      simp [Operator.apply, Operator.nullTest, truthy, Value.entries?]
  | _ => simp [Operator.apply, Value.entries?]

/-- A range that is not given by a pair stays an operator object. -/
theorem value_apply_between {operand : Value}
    (other : ∀ low high, operand.members? ≠ some [low, high]) :
    (Operator.between.apply operand).value = .map [(.text Operator.between.name, operand)] := by
  rw [Operator.apply, Operator.range.eq_def]
  split
  · next pair => exact absurd pair (other _ _)
  · rfl

/-- All that applying an operator may report is a range that is not given by a pair. -/
theorem eq_malformedRange_of_mem_apply (op : OperatorName) (operand : Value) :
    ∀ notice ∈ (op.apply operand).notices, notice = .malformedRange operand := by
  cases op with
  | unknown label => exact List.forall_mem_nil _
  | known op =>
    cases op with
    | between =>
      rw [OperatorName.apply, Operator.apply, Operator.range.eq_def]
      split
      · exact List.forall_mem_nil _
      · exact List.forall_mem_singleton.2 rfl
    | _ => exact List.forall_mem_nil _

end Filter

end ListQuery
