import ListQuery.Proofs.Filter.Origin
import ListQuery.Proofs.Sql.Translation

/-!
# The gate for raw expressions

Raw expressions go into a statement as they are, so they are let through only where they are
allowed. Where they are not, no condition holds one, and a predicate that asks for one at any
column, however many relationships away and however often it is negated, is refused. A
predicate that asks for none is treated the same whether they are allowed or not.

Where they are allowed, a negated raw expression is refused still, so that the text in a
condition is the text of an operand of the predicate; and if the predicate was compiled from
plain data, that operand stands under a `raw` that begins an operator object.

## Main definitions

* `asksRaw` says that a value of a column asks for a raw expression, `RawFree` that none in a
  predicate does.

## Main results

* `exists_occurs_of_has_raw`: where a raw expression in a condition comes from.
* `not_succeeds_of_standsAt`: a predicate that asks for one is refused.
* `whereClause_eq_of_rawFree`: one that asks for none is treated the same.
* `whereClause_gates_raw` puts them together, with where compiled predicates have theirs from.
-/

namespace ListQuery.Sql

open Checked (value_bind_eq_ok_iff value_map_eq_ok_iff)

/-- A value of a column asks for a raw expression, by itself or under negations. -/
def asksRaw : Value → Bool
  | .test .raw _ => true
  | .test .negation operand => asksRaw operand
  | _ => false

variable {ι : Type} {schema : Schema ι} {allowRaw : Bool} {col : Column} {model : ι}
  {value operand : Value} {entries : List (Value × Value)} {items : List Value}
  {comparator : Comparator} {test : Test} {expression : String}

/-! ## Tests of columns -/

theorem memberOf_ne_raw (operand : Value) : memberOf operand ≠ .raw expression := by
  unfold memberOf
  split <;> exact nofun

theorem ordered_ne_raw {make : Value → Test} (proper : ∀ operand, make operand ≠ .raw expression) :
    ordered make operand ≠ .ok (.raw expression) := by
  unfold ordered
  split
  · exact nofun
  · exact nofun
  · exact fun done => proper _ (Except.ok.inj done)

theorem negate_ne_raw (proper : test ≠ .raw expression) : test.negate ≠ .raw expression := by
  intro same
  have back := congrArg Test.negate same
  rw [Test.negate_negate] at back
  exact proper back

/-- What is negated is no raw expression, nor is what comes of it. -/
theorem negated_ne_raw : negated test ≠ .ok (.raw expression) := by
  cases test with
  | raw text => exact nofun
  | _ => exact fun done => nomatch Except.ok.inj done

theorem comparison_ne_raw : comparison comparator operand ≠ .ok (.raw expression) := by
  cases comparator with
  | negation => exact fun done => negate_ne_raw (equals_ne_raw _) (Except.ok.inj done)
  | membership => exact fun done => memberOf_ne_raw _ (Except.ok.inj done)
  | between =>
    rw [comparison]
    intro done
    cases bounds : boundsOf operand <;> rw [bounds] at done <;> cases done
  | isNull => simp [comparison]
  | raw => simp [comparison]
  | _ => exact ordered_ne_raw (by simp)

/-- A raw expression in place of a test is the text of an operand, and allowed. -/
theorem raw_of_testOf
    (done : (testOf allowRaw col comparator operand).outcome.value = .ok (.raw expression)) :
    allowRaw = true ∧ comparator = .raw ∧ expression = operand.label := by
  rcases testOf_cases comparator operand with ⟨inner, below, rfl, rfl⟩ | rfl | ⟨-, compared⟩
  · rw [testOf] at done
    obtain ⟨test, -, last⟩ := value_bind_eq_ok_iff.1 done
    exact absurd last negated_ne_raw
  · cases allowRaw with
    | false => simp [testOf, rawTest] at done
    | true =>
      simp only [testOf, rawTest, if_true] at done
      cases done
      exact ⟨rfl, rfl, rfl⟩
  · rw [compared] at done
    exact absurd done comparison_ne_raw

theorem raw_of_columnTest
    (done : (columnTest allowRaw col value).outcome.value = .ok (.raw expression)) :
    allowRaw = true ∧ ∃ operand, value = .test .raw operand ∧ expression = operand.label := by
  cases value with
  | test comparator operand =>
    obtain ⟨allowed, rfl, same⟩ := raw_of_testOf done
    exact ⟨allowed, operand, rfl, same⟩
  | list items => cases done
  | tuple items => cases done
  | map entries => cases done
  | _ => exact absurd (Except.ok.inj done) (equals_ne_raw _)

/-- Where raw expressions are not allowed, a value that asks for one is refused. -/
theorem not_succeeds_of_asksRaw (asks : asksRaw value = true) :
    ¬ (columnTest false col value).Succeeds := by
  fun_induction asksRaw value with
  | case1 operand => simp [columnTest, testOf, rawTest]
  | case2 operand ih =>
    -- the operand is itself a test, and would have to be accepted first
    cases operand with
    | test inner below =>
      rw [columnTest, testOf, Checked.succeeds_bind]
      rintro ⟨test, done, -⟩
      exact ih asks ⟨test, done⟩
    | _ => cases asks
  | case3 => cases asks

/-- A value that asks for no raw expression is treated the same whether they are allowed. -/
theorem columnTest_eq_of_not_asksRaw (free : asksRaw value = false) :
    columnTest false col value = columnTest true col value := by
  fun_induction asksRaw value with
  | case1 operand => cases free
  | case2 operand ih =>
    rcases testOf_cases .negation operand with ⟨inner, below, -, rfl⟩ | raw | ⟨-, compared⟩
    · have inside : testOf false col inner below = testOf true col inner below := ih free
      simp only [columnTest, testOf, inside]
    · cases raw
    · simp only [columnTest, compared]
  | case3 value notRaw notNegated =>
    cases value with
    | test comparator operand =>
      rcases testOf_cases comparator operand with ⟨inner, below, rfl, rfl⟩ | rfl | ⟨-, compared⟩
      · exact absurd rfl (notNegated _)
      · exact absurd rfl (notRaw _)
      · simp only [columnTest, compared]
    | _ => rfl

/-! ## Predicates -/

/-- Where raw expressions are not allowed, no condition comes of a predicate that asks for one
at a column. -/
theorem not_isBody_of_standsAt {predicate : Value} {clause : Clause ι}
    (stands : StandsAt schema col value model predicate) (asks : asksRaw value = true) :
    ¬ IsBody schema false model predicate clause := by
  induction stands generalizing clause with
  | @column model key entries there named =>
    rintro ⟨done⟩
    obtain ⟨part, here⟩ := succeeds_conditions.1 ⟨_, done⟩ _ there
    cases leads : relationshipOf? (schema model) key with
    | some r =>
      -- what asks for a raw expression is no condition on related rows
      obtain ⟨inner, -, ⟨rfl, -⟩ | nested⟩ := (condition_related_eq_ok_iff leads).1 here
      · cases asks
      · cases nested <;> cases asks
    | none =>
      obtain ⟨_, test, found, tested, -⟩ := (condition_column_eq_ok_iff leads).1 here
      exact not_succeeds_of_asksRaw asks ⟨test, tested⟩
  | related there leads deeper ih =>
    rintro ⟨done⟩
    obtain ⟨part, here⟩ := succeeds_conditions.1 ⟨_, done⟩ _ there
    obtain ⟨inner, -, ⟨rfl, -⟩ | nested⟩ := (condition_related_eq_ok_iff leads).1 here
    · cases deeper with
      | item among _ => cases among
    · exact ih nested
  | item there deeper ih =>
    intro body
    cases body with
    | list filled done =>
      obtain ⟨entries, rfl, parts, mapped⟩ := succeeds_disjuncts.1 ⟨_, done⟩ _ there
      exact ih (.map mapped)

/-- Where raw expressions are not allowed, a predicate that asks for one at a column is
refused. -/
theorem not_succeeds_of_standsAt {predicate : Value}
    (stands : StandsAt schema col value model predicate) (asks : asksRaw value = true) :
    ¬ (whereClause schema false model predicate).Succeeds := by
  rintro ⟨_ | clause, done⟩
  · rcases whereClause_eq_ok_none_iff.1 done with rfl | rfl | rfl
    · cases stands
    · cases stands with
      | column there _ => cases there
      | related there _ _ => cases there
    · cases stands with
      | item there _ => cases there
  · exact not_isBody_of_standsAt stands asks (whereClause_eq_ok_some_iff.1 done).2

theorem conditions_congr {allowed : Bool}
    (each : ∀ entry ∈ entries, condition schema allowRaw model entry.1 entry.2 =
      condition schema allowed model entry.1 entry.2) :
    conditions schema allowRaw model entries = conditions schema allowed model entries := by
  induction entries with
  | nil => rw [conditions, conditions]
  | cons entry rest ih =>
    obtain ⟨here, later⟩ := List.forall_mem_cons.1 each
    rw [conditions, conditions, here, ih later]

theorem disjuncts_congr {allowed : Bool}
    (each : ∀ item ∈ items, conjunctionOf schema allowRaw model item =
      conjunctionOf schema allowed model item) :
    disjuncts schema allowRaw model items = disjuncts schema allowed model items := by
  induction items with
  | nil => rw [disjuncts, disjuncts]
  | cons item rest ih =>
    obtain ⟨here, later⟩ := List.forall_mem_cons.1 each
    rw [disjuncts, disjuncts, here, ih later]

/-- No value at a column of a predicate asks for a raw expression. -/
def RawFree (schema : Schema ι) (model : ι) (predicate : Value) : Prop :=
  ∀ col value, StandsAt schema col value model predicate → asksRaw value = false

/-- What asks for no raw expression gets the same conditions whether they are allowed. -/
theorem pieces_eq_of_rawFree (predicate : Value) : ∀ model, RawFree schema model predicate →
    (∀ entries, predicate = .map entries →
      conditions schema false model entries = conditions schema true model entries) ∧
    ∀ items, predicate = .list items →
      disjuncts schema false model items = disjuncts schema true model items := by
  induction predicate using Value.inside_induction with
  | step predicate ih =>
    intro model free
    constructor
    · rintro entries rfl
      refine conditions_congr fun ⟨key, below⟩ there => ?_
      cases leads : relationshipOf? (schema model) key with
      | some r =>
        have inside : below.Inside (.map entries) := .of_part (Value.value_mem_parts there)
        obtain ⟨mapped, listed⟩ := ih below inside r.target fun col value deeper =>
          free col value (.related there leads deeper)
        cases below with
        | map nested => simp only [condition, leads, mapped nested rfl]
        | list items => simp only [condition, leads, listed items rfl]
        | _ => simp only [condition, leads]
      | none =>
        rw [condition_of_no_relationship leads, condition_of_no_relationship leads,
          columnCondition, columnCondition]
        cases named : columnOf? (schema model) key with
        | none => rfl
        | some col =>
          simp only [columnTest_eq_of_not_asksRaw (free col below (.column there named))]
    · rintro items rfl
      refine disjuncts_congr fun item there => ?_
      cases item with
      | map entries =>
        have inside : (Value.map entries).Inside (.list items) := .of_part there
        have mapped := (ih _ inside model fun col value deeper =>
          free col value (.item there deeper)).1 entries rfl
        rw [conjunctionOf, conjunctionOf, mapped]
      | _ => simp only [conjunctionOf]

/-- A predicate that asks for no raw expression is treated the same whether they are
allowed. -/
theorem whereClause_eq_of_rawFree {predicate : Value} (free : RawFree schema model predicate) :
    whereClause schema false model predicate = whereClause schema true model predicate := by
  obtain ⟨mapped, listed⟩ := pieces_eq_of_rawFree predicate model free
  cases predicate with
  | map entries =>
    cases entries with
    | nil => rw [whereClause, whereClause]
    | cons first rest => simp only [whereClause, conjunctionOf, mapped _ rfl]
  | list items =>
    cases items with
    | nil => rw [whereClause, whereClause]
    | cons first rest => simp only [whereClause, listed _ rfl]
  | _ => simp only [whereClause]

/-- A raw expression in a condition is allowed, and is the text of the operand of a test for a
raw expression in the predicate. -/
theorem exists_occurs_of_has_raw {predicate : Value} {clause : Clause ι}
    (done : (whereClause schema allowRaw model predicate).outcome.value = .ok (some clause))
    (has : clause.Has (.raw expression)) :
    allowRaw = true ∧ ∃ operand, Value.Occurs (.test .raw operand) predicate ∧
      expression = operand.label := by
  have body := (whereClause_eq_ok_some_iff.1 done).2
  obtain ⟨col, value, stands, tested⟩ := body.exists_standsAt_of_has has
  obtain ⟨allowed, operand, rfl, same⟩ := raw_of_columnTest tested
  exact ⟨allowed, operand, stands.occurs, same⟩

open ListQuery.Filter (Settings IsRawOperand) in
/-- The gate: a condition that was made where raw expressions are not allowed holds none; a
predicate that asks for one at a column is refused there, and one that asks for none is
treated the same as where they are allowed. What is compiled from plain data asks only for
operands of operator objects that begin with `raw`, and no other text gets into a condition. -/
theorem whereClause_gates_raw (schema : Schema ι) (model : ι) (predicate : Value) :
    (∀ clause expression,
      (whereClause schema false model predicate).outcome.value = .ok (some clause) →
        ¬ clause.Has (.raw expression)) ∧
    ((∃ col value, StandsAt schema col value model predicate ∧ asksRaw value = true) →
      ∃ error, (whereClause schema false model predicate).outcome.value = .error error) ∧
    ((¬ ∃ col value, StandsAt schema col value model predicate ∧ asksRaw value = true) →
      whereClause schema false model predicate = whereClause schema true model predicate) ∧
    ∀ (s : Settings) (node : Value), node.IsTestless →
      (∀ operand, Value.Occurs (.test .raw operand) (Filter.compile s node).value →
        IsRawOperand node operand) ∧
      ∀ allowRaw clause expression,
        (whereClause schema allowRaw model (Filter.compile s node).value).outcome.value =
            .ok (some clause) →
          clause.Has (.raw expression) →
            ∃ operand, IsRawOperand node operand ∧ expression = operand.label := by
  refine ⟨fun clause expression done has => ?_, ?_, fun none => ?_, fun s node testless => ?_⟩
  · exact Bool.noConfusion (exists_occurs_of_has_raw done has).1
  · rintro ⟨col, value, stands, asks⟩
    exact Checked.not_succeeds_iff.1 (not_succeeds_of_standsAt stands asks)
  · refine whereClause_eq_of_rawFree fun col value stands => ?_
    exact Bool.eq_false_iff.2 fun asks => none ⟨col, value, stands, asks⟩
  · have origin : ∀ operand, Value.Occurs (.test .raw operand) (Filter.compile s node).value →
        IsRawOperand node operand := Filter.rawsAmong_compileAt testless node 0 .here
    refine ⟨origin, fun allowRaw clause expression done has => ?_⟩
    obtain ⟨-, operand, occurs, same⟩ := exists_occurs_of_has_raw done has
    exact ⟨operand, origin operand occurs, same⟩

/-- A filter of notes by raw expressions: one that comes later, for the title, and one that
comes first, for the title of what a note answers. -/
def rawNotes : Value :=
  .map [(.text "title", .map [(.text "eq", .text "a"), (.text "raw", .text "1 = 1")]),
    (.text "parent", .map [(.text "title", .map [(.text "raw", .text "2 = 2")])])]

open ListQuery.Filter (IsRawOperand) in
/-- Of two raw expressions in a filter, the one that comes first is refused where none are
allowed, and gets into the condition where they are. -/
theorem whereClause_gates_raw_notes :
    (∀ expression, ¬ (Clause.column () ⟨"title", "title", .string, false, false⟩
      (.compare .eq (.text "a"))).Has (.raw expression)) ∧
    (∃ error,
      (whereClause notes false () (Filter.compile .standard rawNotes).value).outcome.value =
        .error error) ∧
    whereClause notes false () (.map [(.text "title", .text "a")]) =
      whereClause notes true () (.map [(.text "title", .text "a")]) ∧
    ∃ operand, IsRawOperand rawNotes operand ∧ "2 = 2" = operand.label := by
  refine ⟨fun expression => ?_, ?_, ?_, ?_⟩
  · exact (whereClause_gates_raw notes () (.map [(.text "title", .text "a")])).1 _ expression rfl
  · have parent : relationshipOf? (notes ()) (.text "parent") =
        some ⟨"parent", (), false, "parent_id", "id", true⟩ := rfl
    refine (whereClause_gates_raw notes () (Filter.compile .standard rawNotes).value).2.1
      ⟨⟨"title", "title", .string, false, false⟩, .test .raw (.text "2 = 2"), ?_, rfl⟩
    exact .related (.tail _ (.head _)) parent (.column (.head _) rfl)
  · refine (whereClause_gates_raw notes () (.map [(.text "title", .text "a")])).2.2.1 ?_
    rintro ⟨col, value, stands, asks⟩
    cases stands with
    | column there _ =>
      obtain ⟨-, rfl⟩ := Prod.mk.inj (List.mem_singleton.1 there)
      cases asks
    | related there leads _ =>
      obtain ⟨rfl, -⟩ := Prod.mk.inj (List.mem_singleton.1 there)
      cases leads
  · refine ((whereClause_gates_raw notes () .null).2.2.2 .standard rawNotes ?_).2
      true _ "2 = 2" rfl ?_
    · simp [rawNotes]
    · exact .all (.tail _ (.head _)) (.related .column)

end ListQuery.Sql
