import ListQuery.Proofs.Sort.Grammar

/-!
# Sort orders in normal form

What the normal form of a sort order looks like is told by the specification: a direction in
capitals under each key of a scalar, and a map under each key of a relation, whose entries look
alike for the specification that the relation leads to. Nothing is left of entries without a value.

## Main definitions

* `SortSpec.IsNormal` holds of the entries of orders in normal form.

## Main results

* `SortSpec.conforms_of_normalize`: normalization only accepts orders that conform.
* `SortSpec.isNormal_of_normalize`: what it returns is in normal form.
-/

namespace ListQuery

namespace SortSpec

variable {lookup : Value → Option SortSpec} {spec : SortSpec} {key value order : Value}

/-- The entries of sort orders in normal form: directions in capitals, and maps of such entries
for the specifications that relations lead to. -/
inductive IsNormal (lookup : Value → Option SortSpec) : SortSpec → Value → Value → Prop
  | direction {spec : SortSpec} {key : Value} {kind : FieldKind}
      (leaf : spec.slot? key = some (.leaf kind)) (direction : SortDirection) :
      IsNormal lookup spec key (.text direction.word)
  | nested {spec inner : SortSpec} {key target : Value} {entries : List (Value × Value)}
      (ref : spec.slot? key = some (.ref target)) (resolved : lookup target = some inner)
      (each : ∀ entry ∈ entries, IsNormal lookup inner entry.1 entry.2) :
      IsNormal lookup spec key (.map entries)

/-- An entry that fits has a normal form, unless it has no value. -/
theorem Fits.isNormal (fits : Fits lookup spec key value) (filled : value ≠ .null) :
    IsNormal lookup spec key value.normalOrder := by
  induction fits with
  | null known => exact absurd rfl filled
  | direction leaf named =>
    obtain ⟨d, -, word⟩ := exists_direction named
    rw [Value.normalOrder, ← word]
    exact .direction leaf d
  | nested ref resolved each ih =>
    rw [Value.normalOrder]
    refine .nested ref resolved fun entry there => ?_
    obtain ⟨key', value', among, filled', rfl⟩ := mem_normalEntries.1 there
    exact ih (key', value') among filled'

/-- Normalization returns the normal form of an order that conforms. -/
theorem conforms_of_normalize {normal : Value} (done : spec.normalize lookup order = .ok normal) :
    spec.Conforms lookup order ∧ normal = order.normalOrder := by
  rw [normalize_eq] at done
  cases faults : spec.faults lookup order with
  | cons first rest =>
    rw [faults] at done
    cases done
  | nil =>
    rw [faults] at done
    cases done
    exact ⟨faults_eq_nil_iff.1 faults, rfl⟩

/-- What normalization returns is nothing, or a map of entries in normal form. -/
theorem isNormal_of_normalize {normal : Value} (done : spec.normalize lookup order = .ok normal) :
    normal = .null ∨ ∃ entries, normal = .map entries ∧
      ∀ entry ∈ entries, IsNormal lookup spec entry.1 entry.2 := by
  obtain ⟨rfl | ⟨entries, rfl, each⟩, rfl⟩ := conforms_of_normalize done
  · exact Or.inl rfl
  · refine Or.inr ⟨_, rfl, fun entry there => ?_⟩
    obtain ⟨key, value, among, filled, rfl⟩ := mem_normalEntries.1 there
    exact (each (key, value) among).isNormal filled

end SortSpec

end ListQuery
