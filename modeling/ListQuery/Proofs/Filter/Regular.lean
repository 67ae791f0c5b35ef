import ListQuery.Proofs.Filter.Compiled

/-!
# Regular filters

A filter is regular if every node that compiling visits is nothing, a sequence or a map,
if a group stands alone in its map and lists its children, if the maps of relations hold
no groups, if equality is asked of no map, and if no key is contributed twice to an `AND`
group. Only what lies within the depth bound is visited, so nothing is asked of what lies
beyond.

How much more is asked differs: whether an `OR` group may be empty, whether containers may
lie beyond the bound at all, and what an operator object may hold.

## Main definitions

* `Demands` says what is asked besides, `Demands.lenient` and `Demands.exact` are the two
  cases in use.
* `Regular` holds of regular filters, `RegularField` of the values of their fields.

## Main results

* `Regular.isConjunction`: a regular filter within the bound compiles to conjunctions.
* `Regular.mayBeEmpty`: it compiles to none of them only where an `OR` group is empty.
-/

namespace ListQuery.Filter

open disjunction (branches)

/-- What is asked of a regular filter besides the place of its groups. -/
structure Demands where
  /-- Whether an `OR` group may be empty. -/
  mayBeEmpty : Prop
  /-- Whether a container may lie beyond the depth bound. -/
  mayBeDeep : Prop
  /-- What an operator object may hold. -/
  operators : List (Value × Value) → Prop

/-- A single operator, whose operand is a pair where it is a range. -/
def IsSingleOperator (entries : List (Value × Value)) : Prop :=
  ∃ key operand, entries = [(key, operand)] ∧
    (key = .text Operator.between.name → ∃ low high, operand.members? = some [low, high])

/-- `OR` groups are not empty, and that is all. -/
def Demands.lenient : Demands := ⟨False, True, fun _ => True⟩

/-- Nothing lies beyond the bound, and every operator object is a single operator. -/
def Demands.exact (mayBeEmpty : Prop) : Demands := ⟨mayBeEmpty, False, IsSingleOperator⟩

/-- The values of the fields of a regular filter, in a map that is nested so deep. -/
inductive RegularField (s : Settings) (d : Demands) : Nat → Value → Prop
  | plain {depth : Nat} {value : Value} (plain : value.entries? = none) :
      RegularField s d depth value
  | operators {depth : Nat} {entries : List (Value × Value)}
      (object : isOperatorObject entries = true) (demanded : d.operators entries)
      (noMap : ∀ entry ∈ entries, entry.1 = .text Operator.eq.name → entry.2.entries? = none) :
      RegularField s d depth (.map entries)
  | beyond {depth : Nat} {entries : List (Value × Value)}
      (nested : isOperatorObject entries = false) (allowed : d.mayBeDeep)
      (beyond : s.maxDepth.admits (depth + 1) = false) : RegularField s d depth (.map entries)
  | nested {depth : Nat} {entries : List (Value × Value)}
      (nested : isOperatorObject entries = false)
      (within : s.maxDepth.admits (depth + 1) = true)
      (noGroup : ∀ entry ∈ entries, isCombinatorKey entry.1 = false)
      (each : ∀ entry ∈ entries, RegularField s d (depth + 1) entry.2) :
      RegularField s d depth (.map entries)

/-- The regular filters, nested so deep. -/
inductive Regular (s : Settings) (d : Demands) : Nat → Value → Prop
  | null {depth : Nat} : Regular s d depth .null
  | beyond {depth : Nat} {node : Value}
      (container : node.members?.isSome ∨ node.entries?.isSome) (allowed : d.mayBeDeep)
      (beyond : s.maxDepth.admits depth = false) : Regular s d depth node
  | sequence {depth : Nat} {node : Value} {items : List Value}
      (sequence : node.members? = some items) (within : s.maxDepth.admits depth = true)
      (each : ∀ item ∈ items, Regular s d (depth + 1) item) : Regular s d depth node
  | any {depth : Nat} {children : Value} {items : List Value}
      (sequence : children.members? = some items) (within : s.maxDepth.admits depth = true)
      (filled : items = [] → d.mayBeEmpty)
      (each : ∀ item ∈ items, Regular s d (depth + 1) item) :
      Regular s d depth (.map [(.text Combinator.any.word, children)])
  | all {depth : Nat} {children : Value} {items : List Value}
      (sequence : children.members? = some items) (within : s.maxDepth.admits depth = true)
      (each : ∀ item ∈ items, Regular s d (depth + 1) item)
      (apart : Ordered.Distinct
        (items.flatMap fun item => contribution (compileAt s (depth + 1) item).value)) :
      Regular s d depth (.map [(.text Combinator.all.word, children)])
  | fields {depth : Nat} {entries : List (Value × Value)}
      (within : s.maxDepth.admits depth = true)
      (noGroup : ∀ entry ∈ entries, isCombinatorKey entry.1 = false)
      (each : ∀ entry ∈ entries, RegularField s d depth entry.2) :
      Regular s d depth (.map entries)

variable {s : Settings} {p : Prop} {depth : Nat}

/-- The filter that applies one operator to one field. -/
def single (field : String) (op : Operator) (operand : Value) : Value :=
  .map [(.text field, .map [(.text op.name, operand)])]

/-- One operator on one field is regular, unless the field is named like a group. -/
theorem Regular.single {d : Demands} {field : String} {op : Operator} {operand : Value}
    (within : s.maxDepth.admits depth = true)
    (noGroup : isCombinatorKey (.text field) = false)
    (demanded : d.operators [(.text op.name, operand)]) (noMap : operand.entries? = none) :
    Regular s d depth (single field op operand) := by
  refine .fields within (by simpa using noGroup) fun entry there => ?_
  rw [List.mem_singleton.1 there]
  refine .operators ?_ demanded (by simp [noMap])
  simp [isOperatorObject, isOperatorKey, operatorOfKey?]

section Lists

variable {d : Demands} {items : List Value}

theorem Regular.list (within : s.maxDepth.admits depth = true)
    (each : ∀ item ∈ items, Regular s d (depth + 1) item) : Regular s d depth (.list items) :=
  .sequence rfl within each

theorem Regular.anyList (within : s.maxDepth.admits depth = true)
    (filled : items = [] → d.mayBeEmpty)
    (each : ∀ item ∈ items, Regular s d (depth + 1) item) :
    Regular s d depth (.map [(.text Combinator.any.word, .list items)]) :=
  .any rfl within filled each

theorem Regular.allList (within : s.maxDepth.admits depth = true)
    (each : ∀ item ∈ items, Regular s d (depth + 1) item)
    (apart : Ordered.Distinct
      (items.flatMap fun item => contribution (compileAt s (depth + 1) item).value)) :
    Regular s d depth (.map [(.text Combinator.all.word, .list items)]) :=
  .all rfl within each apart

end Lists

/-! ## Branches of compiled filters -/

theorem branches_sequence {node : Value} {items : List Value}
    (sequence : node.members? = some items) (within : s.maxDepth.admits depth = true)
    (filled : items ≠ [])
    (maps : ∀ item ∈ items, ∀ branch ∈ branches (compileAt s (depth + 1) item).value,
      branch.IsConjunction) :
    branches (compileAt s depth node).value =
      items.flatMap fun item => branches (compileAt s (depth + 1) item).value := by
  rw [compileAt_of_members sequence within, Logged.value_map, value_compileEach,
    branches_disjunction (by simpa using filled), List.flatMap_map]
  intro branch there
  rw [List.flatMap_map] at there
  obtain ⟨item, among, here⟩ := List.mem_flatMap.1 there
  exact branches_of_isConjunction (maps item among branch here)

theorem value_compileAt_any {children : Value} {items : List Value}
    (sequence : children.members? = some items) (within : s.maxDepth.admits depth = true) :
    (compileAt s depth (.map [(.text Combinator.any.word, children)])).value =
      .list (items.flatMap fun item =>
        (branches (compileAt s (depth + 1) item).value).take 1) := by
  rw [compileAt_group .any sequence within, Logged.value_map, value_compileChildren]
  simp only [value_reduce, Combinator.join]

theorem value_compileAt_all {children : Value} {items : List Value}
    (sequence : children.members? = some items) (within : s.maxDepth.admits depth = true)
    (apart : Ordered.Distinct
      (items.flatMap fun item => contribution (compileAt s (depth + 1) item).value)) :
    (compileAt s depth (.map [(.text Combinator.all.word, children)])).value =
      .map (items.flatMap fun item => contribution (compileAt s (depth + 1) item).value) := by
  rw [compileAt_group .all sequence within, Logged.value_map, value_compileChildren, join_all,
    List.flatMap_assoc]
  simp only [value_reduce]
  exact congrArg Value.map (Ordered.ofEntries_of_distinct apart)

theorem value_compileAt_fields {entries : List (Value × Value)}
    (noGroup : ∀ entry ∈ entries, isCombinatorKey entry.1 = false)
    (within : s.maxDepth.admits depth = true) :
    (compileAt s depth (.map entries)).value = .map (entries.map fun entry =>
      (entry.1, (convertAt s depth (fieldPath none entry.1) entry.2).value)) := by
  rw [compileAt_fields noGroup within, Logged.value_map, value_compileFields,
    fieldsOf_of_plain noGroup]

/-- A regular filter within the bound compiles to conjunctions. -/
theorem Regular.isConjunction {node : Value} (regular : Regular s (.exact p) depth node) :
    ∀ branch ∈ branches (compileAt s depth node).value, branch.IsConjunction := by
  induction regular with
  | null =>
    intro branch there
    exact ⟨[], by simpa [compileAt, Value.emptyMap] using there⟩
  | beyond _ allowed _ => exact allowed.elim
  | @sequence depth node items sequence within each ih =>
    intro branch there
    cases items with
    | nil =>
      -- nothing is spliced together here: an empty sequence compiles to the empty map
      rw [compileAt_of_members sequence within] at there
      exact ⟨[], by simpa [compileEach, disjunction, Value.emptyMap] using there⟩
    | cons first rest =>
      rw [branches_sequence sequence within (List.cons_ne_nil _ _) ih] at there
      obtain ⟨item, among, here⟩ := List.mem_flatMap.1 there
      exact ih item among branch here
  | any sequence within _ _ ih =>
    intro branch there
    rw [value_compileAt_any sequence within, branches_list] at there
    obtain ⟨item, among, here⟩ := List.mem_flatMap.1 there
    exact ih item among branch (List.mem_of_mem_take here)
  | all sequence within _ apart _ =>
    intro branch there
    rw [value_compileAt_all sequence within apart] at there
    exact ⟨_, by simpa using there⟩
  | fields within noGroup _ =>
    intro branch there
    rw [value_compileAt_fields noGroup within] at there
    exact ⟨_, by simpa using there⟩

/-- Where a regular filter within the bound compiles to no branches at all, there is an empty
`OR` group in it. -/
theorem Regular.mayBeEmpty {node : Value} (regular : Regular s (.exact p) depth node)
    (none : branches (compileAt s depth node).value = []) : p := by
  induction regular with
  | null => simp [compileAt, Value.emptyMap] at none
  | beyond _ allowed _ => exact allowed.elim
  | @sequence depth node items sequence within each ih =>
    cases items with
    | nil =>
      rw [compileAt_of_members sequence within] at none
      simp [compileEach, disjunction, Value.emptyMap] at none
    | cons first rest =>
      rw [branches_sequence sequence within (List.cons_ne_nil _ _)
        fun item there => (each item there).isConjunction] at none
      exact ih first List.mem_cons_self (List.flatMap_eq_nil_iff.1 none first List.mem_cons_self)
  | @any depth children items sequence within filled _ ih =>
    rw [value_compileAt_any sequence within, branches_list] at none
    cases items with
    | nil => exact filled rfl
    | cons first rest =>
      -- the first child has no branches either, so the empty group is inside it
      have cut := List.flatMap_eq_nil_iff.1 none first List.mem_cons_self
      exact ih first List.mem_cons_self (by simpa using cut)
  | all sequence within _ apart _ =>
    -- a conjunction has itself as a branch, even if all its children were dropped
    rw [value_compileAt_all sequence within apart, branches_map] at none
    exact absurd none (List.cons_ne_nil _ _)
  | fields within noGroup _ =>
    rw [value_compileAt_fields noGroup within, branches_map] at none
    exact absurd none (List.cons_ne_nil _ _)

end ListQuery.Filter
