import ListQuery.Proofs.Filter.Shape
import ListQuery.Proofs.Find.Stages
import ListQuery.Proofs.Sql.Translation

/-!
# The criteria of find options

The filter of a request becomes the criteria of find options: a flat predicate which, unlike
others, is never an empty list. Such criteria are all that a condition is ever made of, and they
have a shape that is understood. Where they are refused all the same, then because of an entry of
one of their conjunctions.

## Main definitions

* `Filter.IsCriteria` holds of plain conjunctions and of non-empty lists of them.
* `Sql.IsRawNotice` and `Sql.ClauseError.IsPartial` tell what a condition may report.

## Main results

* `isCriteria_assemble`, `isCriteria_assembleOne`: the criteria of find options have this shape.
* `Sql.exists_of_whereClause_error`: why criteria are refused.
* `Sql.within_condition`, `Sql.rawNotice_of_whereClause`: what is reported on the way.
* `criteria_wellFormed` puts them together, with the shape of compiled predicates.
-/

namespace ListQuery

open Checked (value_bind_eq_ok_iff value_bind_eq_error_iff value_map_eq_error_iff)
open ListQuery.Filter (Settings Placed IsPredicate groupOf? compile compileAt compileWhere)
open Filter.disjunction (branches)

/-! ## Criteria -/

/-- What a store is asked to match: a plain conjunction, or a list of them that is not empty. -/
inductive Filter.IsCriteria : Value → Prop
  | conjunction {value : Value} (plain : value.IsPlainConjunction) : IsCriteria value
  | disjunction {items : List Value} (filled : items ≠ [])
      (each : ∀ item ∈ items, item.IsPlainConjunction) : IsCriteria (.list items)

open ListQuery.Filter (IsCriteria)

theorem isCriteria_compileWhere {s : Settings} {node : Value} (placed : Placed s 0 node) :
    IsCriteria (compileWhere s node).value := by
  have flat : IsPredicate (compile s node).value := placed.isPredicate
  rw [compileWhere, Logged.value_map]
  split
  · exact .conjunction Value.isPlainConjunction_emptyMap
  · next filled =>
    generalize (compile s node).value = compiled at flat filled
    cases flat with
    | conjunction plain => exact .conjunction plain
    | disjunction each => exact .disjunction (fun none => filled (congrArg Value.list none)) each

section Options

variable {config : Config} {graph : Option SortGraph} {request : Request} {args : QueryArgs}

theorem isCriteria_assemble (asked : request.args? = some args)
    (placed : Placed config.filterSettings 0 args.filter) {options : FindOptions}
    (done : (assemble config graph request).outcome.value = .ok options) :
    IsCriteria options.criteria := by
  obtain ⟨-, -, compiled, -⟩ := (assemble_eq_ok_iff asked).1 done
  rw [← compiled]
  exact isCriteria_compileWhere placed

theorem isCriteria_assembleOne (asked : request.args? = some args)
    (placed : Placed config.filterSettings 0 args.filter) {options : FindOneOptions}
    (done : (assembleOne config graph request).outcome.value = .ok options) :
    IsCriteria options.criteria := by
  obtain ⟨compiled, -⟩ := (assembleOne_eq_ok_iff asked).1 done
  rw [← compiled]
  exact isCriteria_compileWhere placed

end Options

/-! ## Why criteria are refused -/

namespace Sql

variable {ι : Type} {schema : Schema ι} {allowRaw : Bool} {model : ι} {col : Column}
  {key value operand predicate : Value} {entries : List (Value × Value)} {items : List Value}
  {comparator : Comparator} {e : ClauseError}

theorem exists_of_conditions_error
    (failed : (conditions schema allowRaw model entries).outcome.value = .error e) :
    ∃ entry ∈ entries, (condition schema allowRaw model entry.1 entry.2).outcome.value =
      .error e := by
  induction entries with
  | nil => cases failed
  | cons entry rest ih =>
    rw [conditions] at failed
    rcases value_bind_eq_error_iff.1 failed with here | ⟨first, -, later⟩
    · exact ⟨entry, List.mem_cons_self, here⟩
    · rcases value_bind_eq_error_iff.1 later with there | ⟨others, -, impossible⟩
      · obtain ⟨found, among, fault⟩ := ih there
        exact ⟨found, List.mem_cons_of_mem _ among, fault⟩
      · cases impossible

theorem exists_of_disjuncts_error
    (failed : (disjuncts schema allowRaw model items).outcome.value = .error e) :
    ∃ item ∈ items, (conjunctionOf schema allowRaw model item).outcome.value = .error e := by
  induction items with
  | nil => cases failed
  | cons item rest ih =>
    rw [disjuncts] at failed
    rcases value_bind_eq_error_iff.1 failed with here | ⟨first, -, later⟩
    · exact ⟨item, List.mem_cons_self, here⟩
    · rcases value_bind_eq_error_iff.1 later with there | ⟨others, -, impossible⟩
      · obtain ⟨found, among, fault⟩ := ih there
        exact ⟨found, List.mem_cons_of_mem _ among, fault⟩
      · cases impossible

/-- A map of tests is refused because of one of its entries. -/
theorem exists_of_conjunctionOf_error
    (failed : (conjunctionOf schema allowRaw model (.map entries)).outcome.value = .error e) :
    ∃ entry ∈ entries, (condition schema allowRaw model entry.1 entry.2).outcome.value =
      .error e := by
  rw [conjunctionOf, value_map_eq_error_iff] at failed
  exact exists_of_conditions_error failed

/-- Criteria are refused because of an entry of one of their conjunctions. -/
theorem exists_of_whereClause_error {criteria : Value} (shape : IsCriteria criteria)
    (failed : (whereClause schema allowRaw model criteria).outcome.value = .error e) :
    ∃ entries, Value.map entries ∈ branches criteria ∧ ∃ entry ∈ entries,
      (condition schema allowRaw model entry.1 entry.2).outcome.value = .error e := by
  cases shape with
  | conjunction plain =>
    obtain ⟨entries, rfl, -⟩ := plain
    refine ⟨entries, List.mem_singleton_self _, ?_⟩
    cases entries with
    | nil => cases failed
    | cons first rest =>
      rw [whereClause, value_map_eq_error_iff] at failed
      · exact exists_of_conjunctionOf_error failed
      · simp
  | @disjunction items filled each =>
    cases items with
    | nil => exact absurd rfl filled
    | cons first rest =>
      rw [whereClause, value_map_eq_error_iff] at failed
      · obtain ⟨item, there, fault⟩ := exists_of_disjuncts_error failed
        obtain ⟨entries, rfl, -⟩ := each item there
        exact ⟨entries, there, exists_of_conjunctionOf_error fault⟩
      · simp

/-! ## What a condition may report -/

/-- The only notices on the way to a condition are about raw expressions. -/
def IsRawNotice (notice : Notice) : Prop := ∃ column, notice = .rawApplied column

/-- Errors about a part of a predicate, and not about the predicate as a whole. -/
def ClauseError.IsPartial (e : ClauseError) : Prop := ∀ predicate, e ≠ .unsupported predicate

theorem isPartial_ordered {make : Value → Test} (failed : ordered make operand = .error e) :
    e.IsPartial := by
  unfold ordered at failed
  split at failed <;> cases failed <;> simp [ClauseError.IsPartial]

theorem isPartial_boundAt {index : Nat} (failed : boundAt entries index = .error e) :
    e.IsPartial := by
  unfold boundAt at failed
  split at failed <;> cases failed
  simp [ClauseError.IsPartial]

theorem isPartial_boundsOf (failed : boundsOf operand = .error e) : e.IsPartial := by
  unfold boundsOf at failed
  split at failed
  · cases failed
  · cases failed
    simp [ClauseError.IsPartial]
  · next entries =>
    cases low : boundAt entries 0 with
    | error e =>
      rw [low] at failed
      cases failed
      exact isPartial_boundAt low
    | ok low =>
      cases high : boundAt entries 1 with
      | error e =>
        rw [low, high] at failed
        cases failed
        exact isPartial_boundAt high
      | ok high =>
        rw [low, high] at failed
        cases failed
  · split at failed <;> cases failed <;> simp [ClauseError.IsPartial]

theorem isPartial_comparison (failed : comparison comparator operand = .error e) :
    e.IsPartial := by
  cases comparator with
  | between =>
    rw [comparison] at failed
    cases bounds : boundsOf operand with
    | error e =>
      rw [bounds] at failed
      cases failed
      exact isPartial_boundsOf bounds
    | ok bounds =>
      rw [bounds] at failed
      cases failed
  | raw =>
    cases failed
    simp [ClauseError.IsPartial]
  | negation => cases failed
  | membership => cases failed
  | isNull => cases failed
  | _ => exact isPartial_ordered failed

theorem within_testOf (operand : Value) : ∀ comparator,
    (testOf allowRaw col comparator operand).Within IsRawNotice ClauseError.IsPartial := by
  induction operand using Value.inside_induction with
  | step operand ih =>
    intro comparator
    rcases testOf_cases comparator operand with ⟨inner, below, rfl, rfl⟩ | rfl | ⟨-, compared⟩
    · rw [testOf]
      refine (ih below (.of_part List.mem_cons_self) inner).bind fun test => ?_
      refine Checked.within_ofExcept fun e failed => ?_
      cases test <;> cases failed
      simp [ClauseError.IsPartial]
    · rw [testOf, rawTest]
      split
      · exact (Checked.within_give ⟨_, rfl⟩).bind fun _ => Checked.within_pure _
      · refine Checked.within_ofExcept fun e failed => ?_
        cases failed
        simp [ClauseError.IsPartial]
    · rw [compared]
      exact Checked.within_ofExcept fun e => isPartial_comparison

theorem within_columnCondition :
    (columnCondition schema allowRaw model key value).Within IsRawNotice
      ClauseError.IsPartial := by
  rw [columnCondition]
  split
  · refine Checked.Within.map ?_
    cases value with
    | test comparator operand => exact within_testOf operand comparator
    | map entries =>
      refine Checked.within_ofExcept fun e failed => ?_
      cases failed
      simp [ClauseError.IsPartial]
    | _ => exact Checked.within_pure _
  · refine Checked.within_ofExcept fun e failed => ?_
    cases failed
    simp [ClauseError.IsPartial]

theorem within_conditions (each : ∀ entry ∈ entries,
      (condition schema allowRaw model entry.1 entry.2).Within IsRawNotice
        ClauseError.IsPartial) :
    (conditions schema allowRaw model entries).Within IsRawNotice ClauseError.IsPartial := by
  induction entries with
  | nil =>
    rw [conditions]
    exact Checked.within_pure _
  | cons entry rest ih =>
    obtain ⟨here, later⟩ := List.forall_mem_cons.1 each
    rw [conditions]
    exact here.bind fun _ => (ih later).bind fun _ => Checked.within_pure _

theorem within_disjuncts (each : ∀ item ∈ items,
      (conjunctionOf schema allowRaw model item).Within IsRawNotice ClauseError.IsPartial) :
    (disjuncts schema allowRaw model items).Within IsRawNotice ClauseError.IsPartial := by
  induction items with
  | nil =>
    rw [disjuncts]
    exact Checked.within_pure _
  | cons item rest ih =>
    obtain ⟨here, later⟩ := List.forall_mem_cons.1 each
    rw [disjuncts]
    exact here.bind fun _ => (ih later).bind fun _ => Checked.within_pure _

theorem within_conjunctionOf (each : ∀ entries, value = .map entries → ∀ entry ∈ entries,
      (condition schema allowRaw model entry.1 entry.2).Within IsRawNotice
        ClauseError.IsPartial) :
    (conjunctionOf schema allowRaw model value).Within IsRawNotice ClauseError.IsPartial := by
  cases value with
  | map entries =>
    rw [conjunctionOf]
    exact (within_conditions (each entries rfl)).map
  | _ =>
    rw [conjunctionOf]
    · refine Checked.within_ofExcept fun e failed => ?_
      cases failed
      simp [ClauseError.IsPartial]
    · simp

/-- The condition for an entry, whatever stands under its key. -/
theorem within_condition (value : Value) : ∀ (model : ι) (key : Value),
    (condition schema allowRaw model key value).Within IsRawNotice ClauseError.IsPartial := by
  induction value using Value.inside_induction with
  | step value ih =>
    intro model key
    have mapped (target : ι) {entries : List (Value × Value)}
        (inside : Value.Inside (.map entries) value ∨ value = .map entries) :
        ∀ entry ∈ entries, (condition schema allowRaw target entry.1 entry.2).Within IsRawNotice
          ClauseError.IsPartial := by
      intro entry there
      have part : entry.2.Inside (.map entries) := .of_part (Value.value_mem_parts there)
      rcases inside with inside | rfl
      · exact ih entry.2 (.deeper (.of_inside part) inside) target entry.1
      · exact ih entry.2 part target entry.1
    cases leads : relationshipOf? (schema model) key with
    | none =>
      rw [condition_of_no_relationship leads]
      exact within_columnCondition
    | some rel =>
      cases value with
      | map entries =>
        simp only [condition, leads]
        exact (within_conditions (mapped rel.target (Or.inr rfl))).map
      | list items =>
        simp only [condition, leads]
        split
        · exact Checked.within_pure _
        · refine (within_disjuncts fun item there => within_conjunctionOf ?_).map
          rintro entries rfl
          exact mapped rel.target (Or.inl (.of_part there))
      | _ =>
        simp only [condition, leads]
        refine Checked.within_ofExcept fun e failed => ?_
        cases failed
        simp [ClauseError.IsPartial]

/-- The way to a condition gives no notices but those about raw expressions. -/
theorem rawNotice_of_whereClause (predicate : Value) :
    ∀ notice ∈ (whereClause schema allowRaw model predicate).outcome.notices,
      IsRawNotice notice := by
  have single (value : Value) :
      (conjunctionOf schema allowRaw model value).Within IsRawNotice ClauseError.IsPartial :=
    within_conjunctionOf fun _ _ entry _ => within_condition entry.2 model entry.1
  cases predicate with
  | list items =>
    cases items with
    | nil => exact List.forall_mem_nil _
    | cons first rest =>
      rw [whereClause]
      · exact (within_disjuncts fun item _ => single item).map.notices
      · simp
  | map entries =>
    cases entries with
    | nil => exact List.forall_mem_nil _
    | cons first rest =>
      rw [whereClause]
      · exact (single _).map.notices
      · simp
  | _ => exact List.forall_mem_nil _

end Sql

/-- What is compiled is flat, if something that can be compiled stands wherever a node is
expected: it is a plain conjunction or a list of such, and an `OR` group gives one conjunction
for each child that does not compile to the empty list, in their order. The criteria of find
options have this shape, too, and are never the empty list. They are supported by any schema: if
they are refused, then because of an entry of one of their conjunctions. -/
theorem criteria_wellFormed :
    (∀ (s : Settings) (node : Value), Placed s 0 node →
      IsPredicate (compile s node).value) ∧
    (∀ (s : Settings) (depth : Nat) (entries : List (Value × Value)) (items : List Value),
      Placed s depth (.map entries) → groupOf? entries = some (.any, items) →
      ∃ parts, (compileAt s depth (.map entries)).value = .list parts ∧
        (∀ part ∈ parts, part.IsPlainConjunction) ∧
        List.Forall₂ (fun child part =>
            (branches (compileAt s (depth + 1) child).value).head? = some part)
          (items.filter fun child => (compileAt s (depth + 1) child).value ≠ .list []) parts) ∧
    (∀ (config : Config) (graph : Option SortGraph) (request : Request) (args : QueryArgs),
      request.args? = some args → Placed config.filterSettings 0 args.filter →
      (∀ options, (assemble config graph request).outcome.value = .ok options →
        IsCriteria options.criteria) ∧
      ∀ options, (assembleOne config graph request).outcome.value = .ok options →
        IsCriteria options.criteria) ∧
    ∀ (ι : Type) (schema : Sql.Schema ι) (allowRaw : Bool) (model : ι) (criteria : Value),
      IsCriteria criteria → ∀ e,
      (Sql.whereClause schema allowRaw model criteria).outcome.value = .error e →
      (∀ predicate, e ≠ .unsupported predicate) ∧
      ∃ entries, Value.map entries ∈ branches criteria ∧ ∃ entry ∈ entries,
        (Sql.condition schema allowRaw model entry.1 entry.2).outcome.value = .error e := by
  refine ⟨fun s node placed => placed.isPredicate,
    fun s depth entries items placed group => placed.exists_parts group,
    fun config graph request args asked placed =>
      ⟨fun options => isCriteria_assemble asked placed,
        fun options => isCriteria_assembleOne asked placed⟩,
    fun ι schema allowRaw model criteria shape e failed => ?_⟩
  obtain ⟨entries, there, entry, among, fault⟩ := Sql.exists_of_whereClause_error shape failed
  have part := (Sql.within_condition entry.2 model entry.1).errors e fault
  exact ⟨part, entries, there, entry, among, fault⟩

/-- Disjunctions within a disjunction: a list that ends in a group, an empty group, and a child
that restricts nothing. -/
def nestedAlternatives : Value :=
  let numbered (id : Int) : Value := .map [(.text "id", .int id)]
  let anyOf (children : List Value) : Value := .map [(.text "OR", .list children)]
  anyOf [.list [numbered 1, anyOf [numbered 2, numbered 3]], anyOf [], .null]

theorem criteria_wellFormed_nested :
    Placed .standard 0 nestedAlternatives ∧
    (compile .standard nestedAlternatives).value =
      .list [.map [(.text "id", .int 1)], Value.emptyMap] ∧
    IsPredicate (compile .standard nestedAlternatives).value ∧
    ∃ options, (assemble .standard none
        (.named ⟨.int 0, .null, .null, nestedAlternatives⟩)).outcome.value = .ok options ∧
      IsCriteria options.criteria := by
  have placed : Placed .standard 0 nestedAlternatives := by
    refine .map rfl fun c items group => ?_
    cases group
    simp only [List.forall_mem_cons]
    refine ⟨.sequence rfl rfl ?_, .map rfl ?_, .null, nofun⟩
    · simp only [List.forall_mem_cons]
      refine ⟨.map rfl nofun, .map rfl fun c items group => ?_, nofun⟩
      cases group
      simp only [List.forall_mem_cons]
      exact ⟨.map rfl nofun, .map rfl nofun, nofun⟩
    · intro c items group
      cases group
      exact List.forall_mem_nil _
  obtain ⟨flat, -, criteria, -⟩ := criteria_wellFormed
  exact ⟨placed, rfl, flat _ _ placed, _, rfl,
    (criteria .standard none (.named ⟨.int 0, .null, .null, nestedAlternatives⟩) _ rfl placed).1 _
      rfl⟩

end ListQuery
