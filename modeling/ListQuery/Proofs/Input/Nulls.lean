import ListQuery.Proofs.Input.TypedOrder
import ListQuery.Proofs.Sort.Normal
import ListQuery.Proofs.Value.Parts

/-!
# Sort orders without nulls

Entries without a value are dropped from a sort order in two places. Where an input becomes a
sort order, all of them are left out beforehand, whether the field was left out, was given as
null, or is an entry of a map that is not typed. Where a sort order is normalized, those are
passed over whose keys the specification knows. The first is no more than the second: an order
that is accepted with its empty entries is accepted without them, and has the same normal form.

Both follow a map into the values of its entries. So it is the maps which are reached in this
way that have no empty entries afterwards.

## Main results

* `Input.bare_toValue`, `Value.bare_withoutNulls`: dropping entries leaves plain data plain.
* `Value.withoutNulls_ne_null`, `Value.Level.ne_null`: no empty entries are left.
* `SortSpec.Fits.withoutNulls` and `Value.normalOrder_withoutNulls`: orders fit without their
  empty entries, and have the same normal form.
* `Input.toOrder_agrees` puts them together.
-/

namespace ListQuery

namespace Value

/-! ## The maps of a value -/

variable {value : Value} {entries : List (Value × Value)}

theorem withoutNulls_eq_map_iff : value.withoutNulls = .map entries ↔
    ∃ given, value = .map given ∧ nonNullEntries given = entries := by
  cases value <;> simp [withoutNulls]

/-- A value does not become null by dropping null entries. -/
theorem withoutNulls_ne_null (filled : value ≠ .null) : value.withoutNulls ≠ .null := by
  cases value with
  | null => exact absurd rfl filled
  | _ => simp [withoutNulls]

/-- After null entries are dropped there are none, at any level. -/
theorem Level.ne_null (level : value.withoutNulls.Level entries) :
    ∀ entry ∈ entries, entry.2 ≠ .null := by
  generalize dropped : value.withoutNulls = order at level
  induction level generalizing value with
  | top entries =>
    obtain ⟨given, rfl, rfl⟩ := withoutNulls_eq_map_iff.1 dropped
    intro entry there
    obtain ⟨key, value, -, filled, rfl⟩ := mem_nonNullEntries.1 there
    exact withoutNulls_ne_null filled
  | nested there _ ih =>
    obtain ⟨given, rfl, rfl⟩ := withoutNulls_eq_map_iff.1 dropped
    obtain ⟨key, value, -, -, both⟩ := mem_nonNullEntries.1 there
    exact ih (Prod.mk.inj both).2.symm

mutual

/-- All null entries are dropped at once. -/
theorem withoutNulls_withoutNulls (value : Value) :
    value.withoutNulls.withoutNulls = value.withoutNulls := by
  cases value with
  | map entries => rw [withoutNulls, withoutNulls, nonNullEntries_nonNullEntries entries]
  | _ => simp [withoutNulls]

theorem nonNullEntries_nonNullEntries (entries : List (Value × Value)) :
    nonNullEntries (nonNullEntries entries) = nonNullEntries entries := by
  match entries with
  | [] => rw [nonNullEntries, nonNullEntries]
  | (key, value) :: rest =>
    have later := nonNullEntries_nonNullEntries rest
    by_cases null : value = .null
    · rw [nonNullEntries, if_pos null, later]
    · rw [nonNullEntries, if_neg null, nonNullEntries, if_neg (withoutNulls_ne_null null),
        withoutNulls_withoutNulls value, later]

end

/-! ## Plain data -/

mutual

/-- What was made plain data is plain. -/
theorem bare_bare (value : Value) : value.bare.bare = value.bare := by
  cases value with
  | list items => rw [bare, bare, bareItems_bareItems items]
  | tuple items => rw [bare, bare, bareItems_bareItems items]
  | map entries => rw [bare, bare, bareEntries_bareEntries entries]
  | test c operand =>
    have same := bare_bare operand
    by_cases unset : operand = .mark .unset <;> simp [bare, bareEntries, unset, same]
  | relation target =>
    have same := bare_bare target
    by_cases unset : target = .mark .unset <;> simp [bare, bareEntries, unset, same]
  | mark m => cases m <;> simp [bare, Mark.bare]
  | _ => simp [bare]

theorem bareItems_bareItems (items : List Value) :
    bareItems (bareItems items) = bareItems items := by
  cases items with
  | nil => rw [bareItems, bareItems]
  | cons item rest => rw [bareItems, bareItems, bare_bare item, bareItems_bareItems rest]

theorem bareEntries_bareEntries (entries : List (Value × Value)) :
    bareEntries (bareEntries entries) = bareEntries entries := by
  match entries with
  | [] => rw [bareEntries, bareEntries]
  | (key, value) :: rest =>
    rw [bareEntries, bareEntries, bare_bare value, bareEntries_bareEntries rest]

end

/-- A map is plain data if its values are. -/
theorem bareEntries_eq_self_iff :
    bareEntries entries = entries ↔ ∀ entry ∈ entries, entry.2.bare = entry.2 := by
  induction entries with
  | nil => simp [bareEntries]
  | cons entry rest ih =>
    obtain ⟨key, value⟩ := entry
    rw [bareEntries, List.forall_mem_cons, List.cons.injEq, Prod.mk.injEq, ih]
    simp

theorem bareItems_eq_self {items : List Value} (plain : ∀ item ∈ items, item.bare = item) :
    bareItems items = items := by
  induction items with
  | nil => rw [bareItems]
  | cons item rest ih =>
    obtain ⟨here, later⟩ := List.forall_mem_cons.1 plain
    rw [bareItems, here, ih later]

mutual

/-- What is left of plain data is plain. -/
theorem bare_withoutNulls {value : Value} (plain : value.bare = value) :
    value.withoutNulls.bare = value.withoutNulls := by
  cases value with
  | map entries =>
    have each : bareEntries entries = entries := map.inj ((bare.eq_3 entries).symm.trans plain)
    rw [withoutNulls, bare, bareEntries_nonNullEntries each]
  | _ => simpa [withoutNulls] using plain

theorem bareEntries_nonNullEntries {entries : List (Value × Value)}
    (plain : bareEntries entries = entries) :
    bareEntries (nonNullEntries entries) = nonNullEntries entries := by
  match entries with
  | [] => rw [nonNullEntries, bareEntries]
  | (key, value) :: rest =>
    obtain ⟨here, later⟩ := List.forall_mem_cons.1 (bareEntries_eq_self_iff.1 plain)
    have dropped := bareEntries_nonNullEntries (bareEntries_eq_self_iff.2 later)
    rw [nonNullEntries]
    split
    · exact dropped
    · rw [bareEntries, bare_withoutNulls here, dropped]

end

end Value

namespace Input

mutual

/-- An input becomes plain data. -/
theorem bare_toValue (input : Input) : input.toValue.bare = input.toValue := by
  cases input with
  | plain value => rw [toValue, Value.bare_bare]
  | list items => rw [toValue, Value.bare, Value.bareItems_eq_self (bare_toValues items)]
  | map entries =>
    rw [toValue, Value.bare, Value.bareEntries_eq_self_iff.2 (bare_entryValues entries)]
  | record fields =>
    rw [toValue, Value.bare, Value.bareEntries_eq_self_iff.2]
    -- every value in the map was written for a field
    rintro ⟨key, value⟩ there
    obtain ⟨-, other, written, -⟩ := Ordered.mem_ofEntries there
    exact bare_fieldValues fields (other, value) written

theorem bare_toValues (items : List Input) : ∀ value ∈ toValues items, value.bare = value := by
  cases items with
  | nil => rw [toValues]; exact List.forall_mem_nil _
  | cons item rest =>
    rw [toValues]
    exact List.forall_mem_cons.2 ⟨bare_toValue item, bare_toValues rest⟩

theorem bare_entryValues (entries : List (Value × Input)) :
    ∀ entry ∈ entryValues entries, entry.2.bare = entry.2 := by
  match entries with
  | [] => rw [entryValues]; exact List.forall_mem_nil _
  | (key, input) :: rest =>
    rw [entryValues]
    exact List.forall_mem_cons.2 ⟨bare_toValue input, bare_entryValues rest⟩

theorem bare_fieldValues (fields : List (Value × Input)) :
    ∀ entry ∈ fieldValues fields, entry.2.bare = entry.2 := by
  match fields with
  | [] => rw [fieldValues]; exact List.forall_mem_nil _
  | (name, input) :: rest =>
    rw [fieldValues]
    split
    · exact bare_fieldValues rest
    · exact List.forall_mem_cons.2 ⟨bare_toValue input, bare_fieldValues rest⟩

end

/-- A sort order is what it is as an input. -/
theorem toOrder_toOrder (input : Input) : (plain input.toOrder).toOrder = input.toOrder := by
  rw [toOrder, toValue, toOrder, Value.bare_withoutNulls input.bare_toValue,
    Value.withoutNulls_withoutNulls]

end Input

/-! ## Normal forms -/

mutual

/-- What is dropped beforehand would be dropped by normalization. -/
theorem Value.normalOrder_withoutNulls (value : Value) :
    value.withoutNulls.normalOrder = value.normalOrder := by
  cases value with
  | map entries => rw [withoutNulls, normalOrder, normalOrder, normalEntries_nonNullEntries entries]
  | _ => simp [withoutNulls]

theorem Value.normalEntries_nonNullEntries (entries : List (Value × Value)) :
    normalEntries (nonNullEntries entries) = normalEntries entries := by
  match entries with
  | [] => rw [nonNullEntries]
  | (key, value) :: rest =>
    have later := normalEntries_nonNullEntries rest
    by_cases null : value = .null
    · rw [nonNullEntries, normalEntries, if_pos null, if_pos null, later]
    · rw [nonNullEntries, normalEntries, if_neg null, if_neg null, normalEntries,
        if_neg (withoutNulls_ne_null null), normalOrder_withoutNulls value, later]

end

namespace SortSpec

variable {lookup : Value → Option SortSpec} {spec : SortSpec} {key value order : Value}

/-- What is left of an entry that fits does. -/
theorem Fits.withoutNulls (fits : Fits lookup spec key value) :
    Fits lookup spec key value.withoutNulls := by
  induction fits with
  | null known => simpa [Value.withoutNulls] using .null known
  | direction leaf named => simpa [Value.withoutNulls] using .direction leaf named
  | nested ref resolved each ih =>
    rw [Value.withoutNulls]
    refine .nested ref resolved fun entry there => ?_
    obtain ⟨key, value, among, -, rfl⟩ := Value.mem_nonNullEntries.1 there
    exact ih (key, value) among

/-- What is left of an order that conforms does. -/
theorem Conforms.withoutNulls (conforms : spec.Conforms lookup order) :
    spec.Conforms lookup order.withoutNulls := by
  rcases conforms with rfl | ⟨entries, rfl, each⟩
  · exact Or.inl (by simp [Value.withoutNulls])
  · refine Or.inr ⟨_, Value.withoutNulls.eq_1 entries, fun entry there => ?_⟩
    obtain ⟨key, value, among, -, rfl⟩ := Value.mem_nonNullEntries.1 there
    exact (each (key, value) among).withoutNulls

end SortSpec

/-- The sort order that an input becomes has no null entry in any of its maps. Taken as an input
again, it becomes itself. And wherever the plain data of the input is accepted as a sort order,
with its null entries, so is the sort order, and both have the same normal form. -/
theorem Input.toOrder_agrees (input : Input) :
    (∀ entries, input.toOrder.Level entries → ∀ entry ∈ entries, entry.2 ≠ .null) ∧
      (Input.plain input.toOrder).toOrder = input.toOrder ∧
      ∀ (lookup : Value → Option SortSpec) (spec : SortSpec) (normal : Value),
        spec.normalize lookup input.toValue = .ok normal →
          spec.normalize lookup input.toOrder = .ok normal := by
  refine ⟨fun entries level => level.ne_null, input.toOrder_toOrder,
    fun lookup spec normal accepted => ?_⟩
  obtain ⟨conforms, rfl⟩ := SortSpec.conforms_of_normalize accepted
  have left : spec.Conforms lookup input.toOrder := conforms.withoutNulls
  rw [SortSpec.normalize_eq, SortSpec.faults_eq_nil_iff.2 left, SortSpec.outcomeOf, toOrder,
    Value.normalOrder_withoutNulls]

/-- Customers are sorted by their names or by the customers who referred them. -/
def referralSort : SortSpec where
  entity := .text "Customer"
  slots := [(.text "name", .leaf (.scalar .string)), (.text "referrer", .ref (.text "Customer"))]

/-- An input that is a record, with a map in it that is not typed, and a record in that. -/
def referralOrder : Input :=
  .record [(.text "referrer", .map [(.text "name", .plain .null),
      (.text "referrer", .record [(.text "name", .plain (.text "asc")),
        (.text "referrer", .unset)])]),
    (.text "name", .plain (.mark (.direction .descending)))]

theorem Input.toOrder_agrees_referral :
    referralOrder.toValue = .map [(.text "referrer", .map [(.text "name", .null),
        (.text "referrer", .map [(.text "name", .text "asc")])]), (.text "name", .text "DESC")] ∧
      referralOrder.toOrder = .map [(.text "referrer", .map [
        (.text "referrer", .map [(.text "name", .text "asc")])]), (.text "name", .text "DESC")] ∧
      referralSort.normalize (fun _ => some referralSort) referralOrder.toOrder =
        .ok (.map [(.text "referrer", .map [
          (.text "referrer", .map [(.text "name", .text "ASC")])]),
          (.text "name", .text "DESC")]) :=
  ⟨rfl, rfl, referralOrder.toOrder_agrees.2.2 _ _ _ rfl⟩

end ListQuery
