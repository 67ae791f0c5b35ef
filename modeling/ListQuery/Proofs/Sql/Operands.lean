import ListQuery.Proofs.Sql.Translation
import ListQuery.Sql.Describe

/-!
# Operands that columns accept

The operators that the kind of a field admits are chosen with the type of its column in mind:
only numbers, dates and texts are put in order or matched with patterns, and bringing an operand
to such a type leaves neither nothing nor a truth value behind, where there was neither before.
So the test for an operator that is admitted, with an operand that fits it, is accepted for the
column.

## Main definitions

* `Value.isScalar` holds of single values, `Operator.Fits` says which operands an operator
  takes.

## Main results

* `succeeds_columnTest_apply`: admitted operators with operands that fit are accepted.
-/

namespace ListQuery

/-- A value is single, and there. -/
def Value.isScalar : Value → Bool
  | .bool _ | .int _ | .float _ | .text _ | .day _ | .moment _ => true
  | _ => false

/-- An operand is one that an operator takes; `raw` takes none. -/
def Operator.Fits : Operator → Value → Prop
  | .eq, operand | .ne, operand => operand = .null ∨ operand.isScalar = true
  | .among, operand | .notAmong, operand =>
    ∃ items, operand.members? = some items ∧ ∀ item ∈ items, item.isScalar = true
  | .gt, operand | .gte, operand | .lt, operand | .lte, operand
  | .like, operand | .ilike, operand => operand.isScalar = true ∧ ∀ b, operand ≠ .bool b
  | .between, operand => ∃ low high, operand.members? = some [low, high] ∧
      low.isScalar = true ∧ high.isScalar = true
  | .isNull, _ => True
  | .raw, _ => False

namespace Sql

variable {col : Column} {type : ColumnType} {operand value : Value} {allowRaw : Bool}

/-! ## Ordering operands -/

/-- The operators that put the values of a column in order or match them with a pattern. -/
def ordering : List Operator := [.gt, .gte, .lt, .lte, .like, .ilike]

/-- No such operator is admitted for a column of truth values. -/
theorem type_ne_boolean {op : Operator} (orders : op ∈ ordering)
    (admitted : op ∈ col.kind.operators) : col.type ≠ .boolean := by
  intro truth
  rw [Column.kind, truth] at admitted
  split at admitted
  · revert op
    decide
  · revert op
    decide

/-- Bringing an operand to a type of no truth values leaves neither nothing nor a truth value
behind. -/
theorem ordered_coerce (scalar : value.isScalar = true) (noTruth : ∀ b, value ≠ .bool b)
    (ordinary : type ≠ .boolean) (make : Value → Test) :
    ordered make (coerce type value) = .ok (make (coerce type value)) := by
  cases value with
  | bool b => exact absurd rfl (noTruth b)
  | text s =>
    rw [coerce]
    apply coerceText_induction (motive := fun v => ordered make v = .ok (make v))
    case bool => exact fun truth => absurd truth ordinary
    all_goals intros; rfl
  | float x =>
    rw [coerce]
    apply coerceFloat_induction (motive := fun v => ordered make v = .ok (make v))
    all_goals intros; rfl
  | int n => rfl
  | day d => rfl
  | moment m => rfl
  | _ => cases scalar

/-! ## Accepted tests -/

/-- A comparison that makes a test is accepted. -/
theorem value_testOf_of_made {comparator : Comparator} {test : Test}
    (plain : comparator = .negation → ∀ inner below, operand ≠ .test inner below)
    (made : comparison comparator (coerce col.type operand) = .ok test) :
    (testOf allowRaw col comparator operand).outcome.value = .ok test := by
  rcases testOf_cases comparator operand with ⟨inner, below, same, nested⟩ | rfl | ⟨-, compared⟩
  · exact absurd nested (plain same inner below)
  · cases made
  · rw [compared]
    exact made

/-- The negation of a test that is no raw expression is accepted. -/
theorem succeeds_negation {comparator : Comparator} {test : Test}
    (made : (testOf allowRaw col comparator operand).outcome.value = .ok test)
    (notRaw : ∀ expression, test ≠ .raw expression) :
    (testOf allowRaw col .negation (.test comparator operand)).Succeeds := by
  rw [testOf, Checked.succeeds_bind]
  refine ⟨test, made, ?_⟩
  cases test with
  | raw expression => exact absurd rfl (notRaw expression)
  | _ => exact ⟨_, rfl⟩

theorem succeeds_columnTest_plain (plain : operand = .null ∨ operand.isScalar = true) :
    (columnTest allowRaw col operand).Succeeds := by
  rcases plain with rfl | scalar
  · exact ⟨_, rfl⟩
  · cases operand with
    | bool _ | int _ | float _ | text _ | day _ | moment _ => exact ⟨_, rfl⟩
    | _ => cases scalar

/-- An operator that the kind of a column admits is accepted with an operand that fits it. -/
theorem succeeds_columnTest_apply {op : Operator} (admitted : op ∈ col.kind.operators)
    (fits : op.Fits operand) : (columnTest allowRaw col (op.apply operand).value).Succeeds := by
  have orders (comparator : Comparator) (make : Value → Test) (ordering : op ∈ ordering)
      (fits : operand.isScalar = true ∧ ∀ b, operand ≠ .bool b)
      (comparing : ∀ v, comparison comparator v = ordered make v)
      (plain : comparator ≠ .negation) :
      (columnTest allowRaw col (.test comparator operand)).Succeeds := by
    have made := ordered_coerce fits.1 fits.2 (type_ne_boolean ordering admitted) make
    exact ⟨_, value_testOf_of_made (fun same => absurd same plain) ((comparing _).trans made)⟩
  cases op with
  | eq => exact succeeds_columnTest_plain fits
  | ne =>
    refine ⟨_, value_testOf_of_made (fun _ inner below => ?_) rfl⟩
    rcases fits with rfl | scalar
    · simp
    · rintro rfl
      cases scalar
  | among => exact ⟨_, value_testOf_of_made (by simp) rfl⟩
  | notAmong =>
    refine succeeds_negation (value_testOf_of_made (by simp) rfl) fun expression => ?_
    unfold memberOf
    split <;> simp
  | gt => exact orders .moreThan _ (by decide) fits (fun _ => rfl) (by decide)
  | gte => exact orders .moreThanOrEqual _ (by decide) fits (fun _ => rfl) (by decide)
  | lt => exact orders .lessThan _ (by decide) fits (fun _ => rfl) (by decide)
  | lte => exact orders .lessThanOrEqual _ (by decide) fits (fun _ => rfl) (by decide)
  | like => exact orders .like _ (by decide) fits (fun _ => rfl) (by decide)
  | ilike => exact orders .ilike _ (by decide) fits (fun _ => rfl) (by decide)
  | between =>
    obtain ⟨low, high, pair, -, -⟩ := fits
    have ranged : (Operator.between.apply operand).value = .test .between (.tuple [low, high]) := by
      rw [Operator.apply, Operator.range, pair]
      rfl
    rw [ranged]
    exact ⟨_, value_testOf_of_made (by simp) rfl⟩
  | isNull =>
    rw [Operator.apply, Logged.value_pure]
    split
    · exact ⟨_, value_testOf_of_made (by simp) rfl⟩
    · exact succeeds_negation (value_testOf_of_made (by simp) rfl) (by simp)
  | raw => exact fits.elim

end Sql

end ListQuery
