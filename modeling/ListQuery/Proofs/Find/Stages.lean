import ListQuery.Find.Assemble

/-!
# The stages of making find options

Find options are made in stages: the arguments are taken from the request, then the number of rows
to skip is resolved, the number of rows to take, and the order. Compiling the filter cannot fail,
and whatever it reports does not change what is made.

## Main definitions

* `relationKeys` are the relations that are inferred from the entries of an order.

## Main results

* `value_assemble` says what is made of a request, without the notices.
* `assemble_eq_ok_iff` and `assembleOne_eq_ok_iff`: find options are made where all stages succeed.
-/

namespace ListQuery

/-! ## Relations -/

/-- The keys of the entries of a sort order that name no direction. -/
def relationKeys (entries : List (Value × Value)) : List Value :=
  (entries.filter fun entry => !isDirectionWord entry.2).map Prod.fst

theorem relationKeys_append (first second : List (Value × Value)) :
    relationKeys (first ++ second) = relationKeys first ++ relationKeys second := by
  rw [relationKeys, List.filter_append, List.map_append]
  rfl

theorem inferRelations_map (entries : List (Value × Value)) :
    inferRelations (.map entries) = .ok (relationKeys entries) := by
  -- an empty order counts as false, but there is nothing in it either
  cases entries <;> rfl

/-! ## Stages -/

variable {config : Config} {graph : Option SortGraph} {request : Request} {args : QueryArgs}

theorem mapError_eq_ok_iff {ε δ α : Type} {f : ε → δ} {e : Except ε α} {x : α} :
    e.mapError f = .ok x ↔ e = .ok x := by
  cases e <;> constructor <;> intro done <;> cases done <;> rfl

theorem args_eq_ok_iff (asked : request.args? = some args) {given : QueryArgs} :
    request.args = .ok given ↔ args = given := by
  simp [Request.args, asked]

/-- What is made of a request depends on three stages that may fail, one after the other, and on
the relations of the order. -/
theorem value_assemble (asked : request.args? = some args) :
    (assemble config graph request).outcome.value = (do
      let skip ← (resolveSkip config args.skip).mapError .page
      let take ← (resolveTake config args.take).mapError .page
      let order ← resolveOrder graph args.order
      let relations ← inferRelations order
      pure ⟨skip, take, (Filter.compileWhere config.filterSettings args.filter).value, order,
        relations⟩) := by
  have given : request.args = .ok args := (args_eq_ok_iff asked).2 rfl
  simp only [assemble, Checked.value_outcome_bind, Checked.outcome_ofExcept,
    Checked.outcome_ofLogged, Checked.outcome_give, Checked.outcome_pure, given]
  rfl

/-- Find options are made where all stages succeed, and hold what these come to. -/
theorem assemble_eq_ok_iff (asked : request.args? = some args) {options : FindOptions} :
    (assemble config graph request).outcome.value = .ok options ↔
      resolveSkip config args.skip = .ok options.skip ∧
      resolveTake config args.take = .ok options.take ∧
      (Filter.compileWhere config.filterSettings args.filter).value = options.criteria ∧
      resolveOrder graph args.order = .ok options.order ∧
      inferRelations options.order = .ok options.relations := by
  constructor
  · intro done
    simp only [assemble, Checked.value_bind_eq_ok_iff, Checked.outcome_ofExcept,
      Checked.outcome_ofLogged, mapError_eq_ok_iff, args_eq_ok_iff asked] at done
    obtain ⟨_, rfl, skip, skipped, take, taken, order, ordered, _, compiled, relations, inferred,
      -, -, last⟩ := done
    cases compiled
    cases last
    exact ⟨skipped, taken, rfl, ordered, inferred⟩
  · rintro ⟨skipped, taken, compiled, ordered, inferred⟩
    rw [value_assemble asked, skipped, taken, compiled, ordered]
    change (inferRelations options.order >>= fun relations => pure _) = _
    rw [inferred]
    rfl

/-- For a single row only the order has to be resolved. -/
theorem assembleOne_eq_ok_iff (asked : request.args? = some args) {options : FindOneOptions} :
    (assembleOne config graph request).outcome.value = .ok options ↔
      (Filter.compileWhere config.filterSettings args.filter).value = options.criteria ∧
      resolveOrder graph args.order = .ok options.order := by
  simp only [assembleOne, Checked.value_bind_eq_ok_iff, Checked.outcome_ofExcept,
    Checked.outcome_ofLogged, args_eq_ok_iff asked]
  constructor
  · rintro ⟨_, rfl, _, compiled, order, ordered, last⟩
    cases compiled
    cases last
    exact ⟨rfl, ordered⟩
  · rintro ⟨compiled, ordered⟩
    exact ⟨_, rfl, _, rfl, _, ordered, by rw [compiled]; rfl⟩

end ListQuery
