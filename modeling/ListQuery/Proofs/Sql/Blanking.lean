import ListQuery.Proofs.Filter.Origin
import ListQuery.Proofs.Sql.Outline
import ListQuery.Proofs.Sql.Translation

/-!
# Texts that clients compare with

The texts that columns are compared with come from clients, and do not get into the text of a
statement. To say so, such texts are blanked: two predicates that are the same when they are
blank are the same but for those texts. Bringing a text to the type of its column may make it a
number or a date, but that decides nothing about the test, so blanking keeps the outline of a
condition, and whether there is one at all.

Truth values are written out, and so the texts that columns of truth values are compared with
are not blanked. And a text that is itself to hold the bounds of a range counts, as its first two
characters are the bounds. No filter of plain data makes such a range.

## Main definitions

* `Value.blank` blanks the texts in a value of a column, `blank` those in a predicate.
* `SameTreatment` relates values that are compared with in the same way.
* `SameText` says that two conditions are written in the same way, or neither is there.
* `ProperRanges` holds where no text holds the bounds of a range.

## Main results

* `outline_testOf`, `outline_condition` and `outline_whereClause`: blanking keeps outlines.
* `sameText_of_blank_eq`: predicates that are the same when blank come to the same text.
* `not_sameText_titleRange`: texts that hold the bounds of a range are an exception.
-/

namespace ListQuery

/-! ## Blanked values -/

mutual

/-- A value that a column is compared with, with all texts in it blank. A text that is itself to
hold the bounds of a range is left as it is unless `ranges` says otherwise. -/
def Value.blank (ranges : Bool) : Value → Value
  -- a scalar kind is the text of its name
  | .text _ | .mark (.kind _) => .text ""
  | .list items => .list (blankItems ranges items)
  | .tuple items => .tuple (blankItems ranges items)
  | .test comparator operand =>
    if comparator = .between && operand.text?.isSome && !ranges then .test comparator operand
    else .test comparator (Value.blank ranges operand)
  | value => value

/-- Items with all texts in them blank. -/
def Value.blankItems (ranges : Bool) : List Value → List Value
  | [] => []
  | item :: rest => Value.blank ranges item :: blankItems ranges rest

end

theorem Value.blankItems_eq_map (ranges : Bool) (items : List Value) :
    blankItems ranges items = items.map (blank ranges) := by
  induction items with
  | nil => rfl
  | cons item rest ih => rw [blankItems, ih, List.map_cons]

namespace Sql

section Predicates

variable {ι : Type}

/-- The value of a column in a predicate with all texts blank, unless it is a column of truth
values, or no column at all. -/
def blankColumn (m : Model ι) (ranges : Bool) (key value : Value) : Value :=
  match columnOf? m key with
  | some col => if col.type = .boolean then value else value.blank ranges
  | none => value

mutual

/-- A predicate in which the texts that columns are compared with are blank, as far as they are
no columns of truth values. -/
def blank (schema : Schema ι) (ranges : Bool) (model : ι) : Value → Value
  | .map entries => .map (blankEntries schema ranges model entries)
  | .list items => .list (blankAll schema ranges model items)
  | value => value

/-- The items of a predicate with blank texts. -/
def blankAll (schema : Schema ι) (ranges : Bool) (model : ι) : List Value → List Value
  | [] => []
  | item :: rest => blank schema ranges model item :: blankAll schema ranges model rest

/-- The entries of a predicate with blank texts. -/
def blankEntries (schema : Schema ι) (ranges : Bool) (model : ι) :
    List (Value × Value) → List (Value × Value)
  | [] => []
  | (key, value) :: rest =>
    (key, match relationshipOf? (schema model) key with
      | some r => blank schema ranges r.target value
      | none => blankColumn (schema model) ranges key value) ::
      blankEntries schema ranges model rest

end

/-- What stands under a key of a predicate, with blank texts. -/
def blankUnder (schema : Schema ι) (ranges : Bool) (model : ι) (key value : Value) : Value :=
  match relationshipOf? (schema model) key with
  | some r => blank schema ranges r.target value
  | none => blankColumn (schema model) ranges key value

theorem blankEntries_eq_map (schema : Schema ι) (ranges : Bool) (model : ι)
    (entries : List (Value × Value)) : blankEntries schema ranges model entries =
      entries.map fun entry => (entry.1, blankUnder schema ranges model entry.1 entry.2) := by
  induction entries with
  | nil => rfl
  | cons entry rest ih =>
    rw [blankEntries, ih, List.map_cons]
    rfl

theorem blankAll_eq_map (schema : Schema ι) (ranges : Bool) (model : ι) (items : List Value) :
    blankAll schema ranges model items = items.map (blank schema ranges model) := by
  induction items with
  | nil => rfl
  | cons item rest ih => rw [blankAll, ih, List.map_cons]

end Predicates

/-! ## Comparing with blanked values -/

variable {ι : Type} {schema : Schema ι} {model : ι} {type : ColumnType} {col : Column}
  {comparator : Comparator} {key value operand : Value}

/-- A value that is compared with as a whole, and is neither missing nor a truth value. -/
inductive IsScalar : Value → Prop
  | int (n : Int) : IsScalar (.int n)
  | float (x : Binary64) : IsScalar (.float x)
  | text (s : String) : IsScalar (.text s)
  | mark (m : Mark) : IsScalar (.mark m)
  | day (d : Date) : IsScalar (.day d)
  | moment (m : Moment) : IsScalar (.moment m)
  | test (comparator : Comparator) (operand : Value) : IsScalar (.test comparator operand)

theorem isScalar_coerceText (apart : type ≠ .boolean) (s : String) :
    IsScalar (type.coerceText s) :=
  coerceText_induction (.text s) .moment .day .int .float fun same => absurd same apart

/-- Two values are treated the same when they are compared with: they are the same, or scalars,
or lists. -/
inductive SameTreatment : Value → Value → Prop
  | same (value : Value) : SameTreatment value value
  | scalars {a b : Value} (left : IsScalar a) (right : IsScalar b) : SameTreatment a b
  | lists (xs ys : List Value) : SameTreatment (.list xs) (.list ys)

/-- For columns other than those of truth values, blanking does not change how a value is
treated. -/
theorem sameTreatment_blank (apart : type ≠ .boolean) (ranges : Bool) (value : Value) :
    SameTreatment (coerce type value) (coerce type (value.blank ranges)) := by
  cases value with
  | text s => exact .scalars (isScalar_coerceText apart s) (isScalar_coerceText apart "")
  | mark m =>
    cases m with
    -- only the blank text that takes the place of a kind is brought to the type
    | kind kind => exact .scalars (.mark _) (isScalar_coerceText apart "")
    | _ => exact .same _
  | list items => exact .lists _ _
  | tuple items => exact .lists _ _
  | test comparator operand =>
    rw [Value.blank]
    split
    · exact .same _
    · exact .scalars (.test _ _) (.test _ _)
  | _ => exact .same _

theorem outline_equals {a b : Value} (same : SameTreatment a b) :
    (equals a).outline = (equals b).outline := by
  cases same with
  | same => rfl
  | scalars left right => cases left <;> cases right <;> rfl
  | lists => rfl

theorem outline_memberOf (a b : Value) : (memberOf a).outline = (memberOf b).outline := by
  cases a <;> cases b <;> rfl

theorem outline_ordered {make : Value → Test} {a b : Value} (same : SameTreatment a b)
    (outlined : ∀ x y, (make x).outline = (make y).outline) :
    (ordered make a).toOption.map Test.outline = (ordered make b).toOption.map Test.outline := by
  cases same with
  | same => rfl
  | scalars left right =>
    cases left <;> cases right <;> exact congrArg some (outlined _ _)
  | lists => exact congrArg some (outlined _ _)

/-- Blanking what holds the bounds of a range, unless it is a text itself, leaves as many. -/
theorem outline_between (plain : operand.text? = none) :
    (comparison .between (coerce type operand)).toOption.map Test.outline =
      (comparison .between (coerce type (operand.blank false))).toOption.map Test.outline := by
  cases operand with
  | text s => cases plain
  | mark m =>
    cases m with
    | kind kind => cases plain
    | _ => rfl
  -- whether there are bounds depends on the number of items only
  | list items => rcases items with _ | ⟨low, _ | ⟨high, rest⟩⟩ <;> rfl
  | tuple items => rcases items with _ | ⟨low, _ | ⟨high, rest⟩⟩ <;> rfl
  | test comparator operand =>
    rw [Value.blank]
    split <;> rfl
  | _ => rfl

/-- Comparing with a blanked operand gives the same test but for the operand, or none as well. -/
theorem outline_comparison (apart : type ≠ .boolean)
    (plain : comparator = .between → operand.text? = none) :
    (comparison comparator (coerce type operand)).toOption.map Test.outline =
      (comparison comparator (coerce type (operand.blank false))).toOption.map Test.outline := by
  have same := sameTreatment_blank apart false operand
  cases comparator with
  | between => exact outline_between (plain rfl)
  | negation =>
    have negated : (equals (coerce type operand)).negate.outline =
        (equals (coerce type (operand.blank false))).negate.outline := by
      rw [Test.outline_negate, Test.outline_negate, outline_equals same]
    exact congrArg some negated
  | membership => exact congrArg some (outline_memberOf _ _)
  | isNull => rfl
  | raw => rfl
  | _ => exact outline_ordered same fun _ _ => rfl

/-! ## Tests of columns -/

theorem negated_outline (test : Test) :
    (negated test).toOption.map Test.outline = (negated test.outline).toOption := by
  cases test <;> rfl

theorem testOf_of_plain {allowRaw : Bool} (noRaw : comparator ≠ .raw)
    (noTest : comparator = .negation → ∀ inner below, operand ≠ .test inner below) :
    testOf allowRaw col comparator operand =
      .ofExcept (comparison comparator (coerce col.type operand)) := by
  rcases testOf_cases comparator operand with ⟨inner, below, same, rfl⟩ | raw | ⟨-, compared⟩
  · exact absurd rfl (noTest same inner below)
  · exact absurd raw noRaw
  · exact compared allowRaw col

theorem blank_ne_test {ranges : Bool} (noTest : ∀ inner below, operand ≠ .test inner below) :
    ∀ inner below, operand.blank ranges ≠ .test inner below := by
  intro inner below
  cases operand with
  | test c o => exact absurd rfl (noTest c o)
  | mark m => cases m <;> exact nofun
  | _ => exact nofun

theorem outline_testOf (apart : col.type ≠ .boolean) (operand : Value) :
    ∀ comparator, (comparator = .between → operand.text? = none) →
      (testOf false col comparator operand).result?.map Test.outline =
        (testOf false col comparator (operand.blank false)).result?.map Test.outline := by
  induction operand using Value.inside_induction with
  | step operand ih =>
    intro comparator plain
    by_cases raw : comparator = .raw
    · -- raw expressions are refused, whatever they are
      subst raw
      simp only [testOf, rawTest]
      rfl
    · by_cases nested : comparator = .negation ∧ ∃ inner below, operand = .test inner below
      · -- what is negated is the test for an operand one level down
        obtain ⟨rfl, inner, below, rfl⟩ := nested
        rw [Value.blank]
        split
        · rfl
        · next proper =>
          have within := ih below (.of_part List.mem_cons_self) inner (by simpa using proper)
          have outlined (result : Option Test) :
              (result.bind fun test => (negated test).toOption).map Test.outline =
                (result.map Test.outline).bind fun test => (negated test).toOption := by
            cases result with
            | none => rfl
            | some test => exact negated_outline test
          simp only [testOf, Checked.result?_bind, Checked.result?_ofExcept, outlined, within]
      · -- blanking makes no test of what is none, so the operand is compared with on both sides
        have noTest (same : comparator = .negation) (inner : Comparator) (below : Value) :
            operand ≠ .test inner below :=
          fun test => nested ⟨same, inner, below, test⟩
        rw [testOf_of_plain raw noTest, testOf_of_plain raw fun same => blank_ne_test (noTest same)]
        exact outline_comparison apart plain

/-- The test for a blanked value of a column is the same but for operands, or none as well. -/
theorem outline_columnTest (apart : col.type ≠ .boolean) (value : Value) :
    (columnTest false col value).result?.map Test.outline =
      (columnTest false col (value.blank false)).result?.map Test.outline := by
  have equal := congrArg some (outline_equals (sameTreatment_blank apart false value))
  cases value with
  | test comparator operand =>
    rw [Value.blank]
    split
    · rfl
    · next proper => exact outline_testOf apart operand comparator (by simpa using proper)
  | list items => rfl
  | tuple items => rfl
  | map entries => rfl
  | mark m =>
    cases m with
    | kind kind => exact equal
    | _ => rfl
  | text s => exact equal
  | _ => rfl

/-! ## Conditions -/

variable {entries : List (Value × Value)} {items : List Value}

/-- What is done to a thing that is made of a result may be done before it is made. -/
theorem map_map_comm {α β : Type} {f : α → α} {g : β → β} {make : α → β}
    (comm : ∀ x, g (make x) = make (f x)) (result : Option α) :
    (result.map make).map g = (result.map f).map make := by
  rw [Option.map_map, Option.map_map]
  exact congrArg (Option.map · result) (funext comm)

/-- What is done to all items of a list may be done to one result after the other. -/
theorem map_bind_cons {α : Type} (f : α → α) (first : Option α) (others : Option (List α)) :
    (first.bind fun x => others.bind fun xs => some (x :: xs)).map (List.map f) =
      (first.map f).bind fun x => (others.map (List.map f)).bind fun xs => some (x :: xs) := by
  cases first <;> cases others <;> rfl

theorem outline_conditions
    (each : ∀ entry ∈ entries,
      (condition schema false model entry.1 entry.2).result?.map Clause.outline =
        (condition schema false model entry.1
          (blankUnder schema false model entry.1 entry.2)).result?.map Clause.outline) :
    (conditions schema false model entries).result?.map (List.map Clause.outline) =
      (conditions schema false model (blankEntries schema false model entries)).result?.map
        (List.map Clause.outline) := by
  rw [blankEntries_eq_map]
  induction entries with
  | nil => rfl
  | cons entry rest ih =>
    obtain ⟨here, later⟩ := List.forall_mem_cons.1 each
    simp only [List.map_cons, conditions, Checked.result?_bind, Checked.result?_pure,
      map_bind_cons, here, ih later]

theorem outline_disjuncts (schema : Schema ι) (model : ι) (items : List Value)
    (each : ∀ item ∈ items, (conjunctionOf schema false model item).result?.map Clause.outline =
      (conjunctionOf schema false model (blank schema false model item)).result?.map
        Clause.outline) :
    (disjuncts schema false model items).result?.map (List.map Clause.outline) =
      (disjuncts schema false model (blankAll schema false model items)).result?.map
        (List.map Clause.outline) := by
  rw [blankAll_eq_map]
  induction items with
  | nil => rfl
  | cons item rest ih =>
    obtain ⟨here, later⟩ := List.forall_mem_cons.1 each
    simp only [List.map_cons, disjuncts, Checked.result?_bind, Checked.result?_pure,
      map_bind_cons, here, ih later]

theorem outline_columnCondition :
    (columnCondition schema false model key value).result?.map Clause.outline =
      (columnCondition schema false model key
        (blankColumn (schema model) false key value)).result?.map Clause.outline := by
  rw [blankColumn, columnCondition, columnCondition]
  cases columnOf? (schema model) key with
  | none => rfl
  | some col =>
    dsimp only
    split
    · rfl
    · next apart =>
      have outlined (test : Test) :
          (Clause.column model col test).outline = .column model col test.outline := rfl
      rw [Checked.result?_map, Checked.result?_map, map_map_comm outlined, map_map_comm outlined,
        outline_columnTest apart value]

theorem outline_conjunctionOf (schema : Schema ι) (model : ι) (value : Value)
    (each : ∀ entries, value = .map entries → ∀ entry ∈ entries,
      (condition schema false model entry.1 entry.2).result?.map Clause.outline =
        (condition schema false model entry.1
          (blankUnder schema false model entry.1 entry.2)).result?.map Clause.outline) :
    (conjunctionOf schema false model value).result?.map Clause.outline =
      (conjunctionOf schema false model (blank schema false model value)).result?.map
        Clause.outline := by
  cases value with
  | map entries =>
    rw [blank, conjunctionOf, conjunctionOf, Checked.result?_map, Checked.result?_map,
      map_map_comm Clause.outline_conjunction, map_map_comm Clause.outline_conjunction,
      outline_conditions (each entries rfl)]
  | _ => rfl

/-- The condition for an entry with blank texts is the same but for operands, or none as well. -/
theorem outline_condition (value : Value) : ∀ model key,
    (condition schema false model key value).result?.map Clause.outline =
      (condition schema false model key (blankUnder schema false model key value)).result?.map
        Clause.outline := by
  induction value using Value.inside_induction with
  | step value ih =>
    intro model key
    rw [blankUnder]
    cases leads : relationshipOf? (schema model) key with
    | none =>
      rw [condition_of_no_relationship leads, condition_of_no_relationship leads]
      exact outline_columnCondition
    | some r =>
      -- what stands under the name of a relationship is a predicate for the related rows
      cases value with
      | map entries =>
        have each := outline_conditions fun entry there =>
          ih entry.2 (.of_part (Value.value_mem_parts there)) r.target entry.1
        have joined (parts : List (Clause ι)) :
            (Clause.related model r (Clause.conjunction parts)).outline =
              .related model r (Clause.conjunction (parts.map Clause.outline)) :=
          congrArg (Clause.related model r) (Clause.outline_conjunction parts)
        simp only [blank, condition, leads, Checked.result?_map, map_map_comm joined, each]
      | list items =>
        have deeper {entries : List (Value × Value)} {entry : Value × Value}
            (there : .map entries ∈ items) (among : entry ∈ entries) :
            entry.2.Inside (.list items) :=
          .deeper (.of_inside (.of_part (Value.value_mem_parts among))) (.of_part there)
        have each := outline_disjuncts schema r.target items fun item there =>
          outline_conjunctionOf schema r.target item fun entries same entry among =>
            ih entry.2 (deeper (same ▸ there) among) r.target entry.1
        have joined (parts : List (Clause ι)) :
            (Clause.related model r (Clause.disjunction parts)).outline =
              .related model r (Clause.disjunction (parts.map Clause.outline)) :=
          congrArg (Clause.related model r) (Clause.outline_disjunction parts)
        have none_left : (blankAll schema false r.target items).isEmpty = items.isEmpty := by
          rw [blankAll_eq_map, List.isEmpty_map]
        simp only [blank, condition, leads, none_left]
        split
        · rfl
        · rw [Checked.result?_map, Checked.result?_map, map_map_comm joined, map_map_comm joined,
            each]
      | _ => simp only [blank, condition, leads]

/-- The condition for a predicate with blank texts is the same but for operands, or none as
well. -/
theorem outline_whereClause (predicate : Value) :
    (whereClause schema false model predicate).result?.map (Option.map Clause.outline) =
      (whereClause schema false model (blank schema false model predicate)).result?.map
        (Option.map Clause.outline) := by
  have each (value : Value) := outline_conjunctionOf schema model value
    fun entries _ entry _ => outline_condition entry.2 model entry.1
  cases predicate with
  | map entries =>
    -- an empty map restricts nothing and is no conjunction here
    cases entries with
    | nil => rfl
    | cons first rest =>
      have outlined (clause : Clause ι) :
          (some clause).map Clause.outline = some clause.outline := rfl
      have conjoined := each (.map (first :: rest))
      rw [blank, blankEntries] at conjoined ⊢
      simp only [whereClause, Checked.result?_map, map_map_comm outlined, conjoined]
  | list items =>
    cases items with
    | nil => rfl
    | cons first rest =>
      have outlined (parts : List (Clause ι)) :
          (some (Clause.disjunction parts)).map Clause.outline =
            some (Clause.disjunction (parts.map Clause.outline)) :=
        congrArg some (Clause.outline_disjunction parts)
      have disjoined := outline_disjuncts schema model (first :: rest) fun item _ => each item
      rw [blank]
      rw [blankAll] at disjoined ⊢
      simp only [whereClause, Checked.result?_map, map_map_comm outlined, disjoined]
  | _ => rfl

/-! ## The text of a condition -/

/-- Two computations of a condition, for all that is seen in a statement: both fail or both
succeed, and what they succeed with is written with the same text and the same names of
parameters, whatever stands before and after it. -/
structure SameText (schema : Schema ι) (first second : Checked ClauseError (Option (Clause ι))) :
    Prop where
  succeeds : first.Succeeds ↔ second.Succeeds
  isSome_eq : ∀ clause clause', first.outcome.value = .ok clause →
    second.outcome.value = .ok clause' → clause.isSome = clause'.isSome
  text : ∀ clause clause', first.outcome.value = .ok clause →
    second.outcome.value = .ok clause' → ∀ before after : Fragment,
      Rendered.outline <$> (before ++ conditionFragment schema clause ++ after).render =
        Rendered.outline <$> (before ++ conditionFragment schema clause' ++ after).render

theorem sameText_of_outline {first second : Checked ClauseError (Option (Clause ι))}
    (same : first.result?.map (Option.map Clause.outline) =
      second.result?.map (Option.map Clause.outline)) : SameText schema first second := by
  have results {clause clause' : Option (Clause ι)} (done : first.outcome.value = .ok clause)
      (done' : second.outcome.value = .ok clause') :
      clause.map Clause.outline = clause'.map Clause.outline := by
    rw [Checked.result?_eq_some_iff.2 done, Checked.result?_eq_some_iff.2 done'] at same
    exact Option.some.inj same
  refine ⟨?_, fun clause clause' done done' => ?_, fun clause clause' done done' before after => ?_⟩
  · have either := congrArg Option.isSome same
    rw [Option.isSome_map, Option.isSome_map] at either
    rw [Checked.succeeds_iff_isSome, Checked.succeeds_iff_isSome, either]
  · have either := congrArg Option.isSome (results done done')
    rwa [Option.isSome_map, Option.isSome_map] at either
  · exact Fragment.outline_render_congr (outline_conditionFragment schema (results done done'))
      before after

/-! ## Ranges -/

/-- No text in a value is itself to hold the bounds of a range. -/
def ProperRanges (value : Value) : Prop :=
  ∀ operand, Value.Occurs (.test .between operand) value → operand.text? = none

theorem ProperRanges.of_part {part : Value} (proper : ProperRanges value)
    (held : part ∈ value.parts) : ProperRanges part :=
  fun operand deeper => proper operand (.within held deeper)

theorem ProperRanges.blank_eq {value : Value} (proper : ProperRanges value) :
    value.blank false = value.blank true := by
  induction value using Value.inside_induction with
  | step value ih =>
    have each (part : Value) (held : part ∈ value.parts) : part.blank false = part.blank true :=
      ih part (.of_part held) (proper.of_part held)
    cases value with
    | list items =>
      rw [Value.blank, Value.blank, Value.blankItems_eq_map, Value.blankItems_eq_map]
      exact congrArg Value.list (List.map_congr_left each)
    | tuple items =>
      rw [Value.blank, Value.blank, Value.blankItems_eq_map, Value.blankItems_eq_map]
      exact congrArg Value.tuple (List.map_congr_left each)
    | test comparator operand =>
      have apart : (decide (comparator = .between) && operand.text?.isSome) = false := by
        by_cases range : comparator = .between
        · subst range
          rw [proper operand .here]
          rfl
        · rw [decide_eq_false range, Bool.false_and]
      simp only [Value.blank, apart, each operand List.mem_cons_self, Bool.false_and]
    | mark m => cases m <;> rfl
    | _ => rfl

theorem ProperRanges.blank_predicate_eq {predicate : Value} (proper : ProperRanges predicate) :
    ∀ model, blank schema false model predicate = blank schema true model predicate := by
  induction predicate using Value.inside_induction with
  | step predicate ih =>
    intro model
    have each (part : Value) (held : part ∈ predicate.parts) (model : ι) :
        blank schema false model part = blank schema true model part :=
      ih part (.of_part held) (proper.of_part held) model
    cases predicate with
    | map entries =>
      rw [blank, blank, blankEntries_eq_map, blankEntries_eq_map]
      refine congrArg Value.map (List.map_congr_left fun ⟨key, value⟩ there => ?_)
      have held := Value.value_mem_parts there
      rw [blankUnder, blankUnder]
      cases relationshipOf? (schema model) key with
      | some r => exact congrArg (Prod.mk key) (each value held r.target)
      | none =>
        dsimp only
        rw [blankColumn, blankColumn, (proper.of_part held).blank_eq]
    | list items =>
      rw [blank, blank, blankAll_eq_map, blankAll_eq_map]
      exact congrArg Value.list (List.map_congr_left fun item there => each item there model)
    | _ => rfl

/-- A filter of plain data makes no text hold the bounds of a range. -/
theorem properRanges_compile {s : Filter.Settings} {node : Value} (testless : node.IsTestless) :
    ProperRanges (Filter.compile s node).value := by
  intro operand occurs
  obtain ⟨low, high, rfl⟩ := Filter.exists_pair_of_compileAt testless node 0 .here occurs
  rfl

/-! ## Predicates that differ in texts only -/

/-- The text of a condition does not depend on the texts that columns are compared with, those of
truth values apart. Of any two predicates that are the same but for such texts, none of which is
itself to hold the bounds of a range, both are refused or both become a condition, and these are
written in the same way, with the same names of parameters. For what is compiled from plain data
there is no exception. -/
theorem sameText_of_blank_eq (schema : Schema ι) (model : ι) :
    (∀ predicate predicate' : Value,
      blank schema false model predicate = blank schema false model predicate' →
        SameText schema (whereClause schema false model predicate)
          (whereClause schema false model predicate')) ∧
    ∀ (s s' : Filter.Settings) (node node' : Value), node.IsTestless → node'.IsTestless →
      blank schema true model (Filter.compile s node).value =
          blank schema true model (Filter.compile s' node').value →
        SameText schema (whereClause schema false model (Filter.compile s node).value)
          (whereClause schema false model (Filter.compile s' node').value) := by
  have general (predicate predicate' : Value)
      (same : blank schema false model predicate = blank schema false model predicate') :
      SameText schema (whereClause schema false model predicate)
        (whereClause schema false model predicate') := by
    refine sameText_of_outline ?_
    rw [outline_whereClause predicate, same, ← outline_whereClause predicate']
  refine ⟨general, fun s s' node node' plain plain' same => general _ _ ?_⟩
  rw [(properRanges_compile plain).blank_predicate_eq, same,
    (properRanges_compile plain').blank_predicate_eq]

/-- A search for notes with a certain number of stars, by the pattern of the title and by the
range of titles of what they answer. -/
def noteSearch (pattern stars low high : String) : Value :=
  .map [(.text "title", .map [(.text "like", .text pattern)]), (.text "stars", .text stars),
    (.text "parent", .map [(.text "title",
      .map [(.text "between", .list [.text low, .text high])])])]

theorem isTestless_noteSearch (pattern stars low high : String) :
    (noteSearch pattern stars low high).IsTestless := by
  have bounds : (Value.list [.text low, .text high]).IsTestless :=
    Value.isTestless_of_parts nofun (by simp [Value.parts])
  simp [noteSearch, bounds]

/-- Searches of notes are written in the same way, whether or not the stars are a number. -/
theorem sameText_of_blank_eq_notes :
    (whereClause notes false ()
      (Filter.compile .standard (noteSearch "a%" "3" "b" "c")).value).Succeeds ∧
    SameText notes
      (whereClause notes false () (Filter.compile .standard (noteSearch "a%" "3" "b" "c")).value)
      (whereClause notes false () (Filter.compile .standard (noteSearch "" "x" "1" "2")).value) ∧
    SameText notes (whereClause notes false () (.map [(.text "title", .text "1 = 1")]))
      (whereClause notes false () (.map [(.text "title", .text "a")])) := by
  refine ⟨⟨_, rfl⟩, ?_, ?_⟩
  · exact (sameText_of_blank_eq notes ()).2 .standard .standard _ _ (isTestless_noteSearch _ _ _ _)
      (isTestless_noteSearch _ _ _ _) rfl
  · exact (sameText_of_blank_eq notes ()).1 _ _ rfl

/-- A filter of notes by the title, with the bounds of the range in a text. -/
def titleRange (bounds : String) : Value := .map [(.text "title", .test .between (.text bounds))]

/-- A text that is itself to hold the bounds of a range does matter: its first two characters are
the bounds, and a text of one character is refused. -/
theorem not_sameText_titleRange :
    blank notes true () (Filter.compile .standard (titleRange "ab")).value =
        blank notes true () (Filter.compile .standard (titleRange "a")).value ∧
      ¬ SameText notes
        (whereClause notes false () (Filter.compile .standard (titleRange "ab")).value)
        (whereClause notes false () (Filter.compile .standard (titleRange "a")).value) := by
  refine ⟨rfl, fun same => ?_⟩
  obtain ⟨clause, done⟩ := same.succeeds.1 ⟨_, rfl⟩
  have refused : (whereClause notes false ()
      (Filter.compile .standard (titleRange "a")).value).outcome.value =
        .error (.tooShort "string") := rfl
  rw [refused] at done
  cases done

end Sql

end ListQuery
