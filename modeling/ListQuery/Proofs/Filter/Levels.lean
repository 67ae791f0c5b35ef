import ListQuery.Proofs.Filter.Regular
import ListQuery.Proofs.Filter.Visits

/-!
# Filters within the depth bound

The containers of a node stand on the level of the node and on those below. Where the depth bound
admits all these levels, nothing is left as it is, and the level of the node no longer matters: the
node compiles to the same, with the same notices, on its own level and on every level above. So
what is taken out of a filter and put in at a higher place compiles there as it did before.

## Main definitions

* `Admitted` says that the bound admits the levels of all containers of a node, `AdmittedField`
  says so of the value of a field.

## Main results

* `admitted_of_members`, `admitted_group` and `admitted_fields`: a container is admitted if its
  level is and what is in it.
* `Admitted.above`: a node within the bound compiles to the same on every level above.
-/

namespace ListQuery

namespace Filter

variable {s : Settings} {depth low high : Nat} {entries : List (Value × Value)}

/-- The depth bound admits the levels of all containers of a node. -/
def Admitted (s : Settings) (depth : Nat) (node : Value) : Prop :=
  ∀ visit ∈ containersAt depth node, s.maxDepth.admits visit.level = true

/-- The depth bound admits the levels of all containers in the value of a field. -/
def AdmittedField (s : Settings) (depth : Nat) (value : Value) : Prop :=
  ∀ visit ∈ containersWithin depth value, s.maxDepth.admits visit.level = true

theorem admitted_of_members {node : Value} {items : List Value}
    (members : node.members? = some items) : Admitted s depth node ↔
      s.maxDepth.admits depth = true ∧ ∀ item ∈ items, Admitted s (depth + 1) item := by
  rw [Admitted, containersAt_of_members members, List.forall_mem_cons, List.forall_mem_flatMap]
  rfl

theorem admitted_group {c : Combinator} {children : List Value}
    (group : groupOf? entries = some (c, children)) : Admitted s depth (.map entries) ↔
      s.maxDepth.admits depth = true ∧ ∀ child ∈ children, Admitted s (depth + 1) child := by
  rw [Admitted, containersAt_map, group, List.forall_mem_cons, List.forall_mem_flatMap]
  rfl

theorem admitted_fields (plain : groupOf? entries = none) : Admitted s depth (.map entries) ↔
      s.maxDepth.admits depth = true ∧ ∀ field ∈ fieldsOf entries,
        AdmittedField s depth field.2 := by
  rw [Admitted, containersAt_map, plain, List.forall_mem_cons, List.forall_mem_flatMap]
  rfl

theorem admittedField_nested (nested : isOperatorObject entries = false) :
    AdmittedField s depth (.map entries) ↔ s.maxDepth.admits ((depth + 1 : Nat) : Int) = true ∧
      ∀ field ∈ fieldsOf entries, AdmittedField s (depth + 1) field.2 := by
  rw [AdmittedField, containersWithin_map, nested, if_neg Bool.false_ne_true, List.forall_mem_cons,
    List.forall_mem_flatMap]
  rfl

theorem admittedField_operators (object : isOperatorObject entries = true) :
    AdmittedField s depth (.map entries) := by
  rw [AdmittedField, containersWithin_map, object, if_pos rfl]
  exact List.forall_mem_nil _

/-- A single operator on a field is admitted where its map is. -/
theorem admitted_single (within : s.maxDepth.admits depth = true) (field : String) (op : Operator)
    (operand : Value) : Admitted s depth (single field op operand) := by
  have noGroup : groupOf? [(.text field, .map [(.text op.name, operand)])] = none := by
    simp [groupOf?, childrenOf?, Value.members?]
  have object : isOperatorObject [(.text op.name, operand)] = true := by
    simp [isOperatorObject, isOperatorKey, operatorOfKey?]
  refine (admitted_fields noGroup).2 ⟨within, fun entry there => ?_⟩
  rw [List.mem_singleton.1 (List.mem_filter.1 there).1]
  exact admittedField_operators object

/-! ## Moving up -/

/-- What is no container compiles to the same on all levels. -/
theorem compileAt_leaf {node : Value} (alone : node.members? = none) (plain : node.entries? = none)
    (low high : Nat) : compileAt s low node = compileAt s high node := by
  cases node with
  | list items => cases alone
  | tuple items => cases alone
  | map entries => cases plain
  | _ => simp [compileAt]

theorem compileEach_congr {items : List Value}
    (same : ∀ item ∈ items, compileAt s low item = compileAt s high item) :
    compileEach s low items = compileEach s high items := by
  induction items with
  | nil => rw [compileEach, compileEach]
  | cons item rest ih =>
    obtain ⟨first, later⟩ := List.forall_mem_cons.1 same
    rw [compileEach, compileEach, first, ih later]

theorem compileChildren_congr (c : Combinator) {children : List Value}
    (same : ∀ child ∈ children, compileAt s low child = compileAt s high child) :
    compileChildren s low c children = compileChildren s high c children := by
  induction children with
  | nil => rw [compileChildren, compileChildren]
  | cons child rest ih =>
    obtain ⟨first, later⟩ := List.forall_mem_cons.1 same
    rw [compileChildren, compileChildren, first, ih later]

theorem compileFields_congr (path : Option String) {entries : List (Value × Value)}
    (same : ∀ field ∈ fieldsOf entries, ∀ path,
      convertAt s low path field.2 = convertAt s high path field.2) :
    compileFields s low path entries = compileFields s high path entries := by
  induction entries with
  | nil => rw [compileFields, compileFields]
  | cons entry rest ih =>
    obtain ⟨key, value⟩ := entry
    rw [compileFields, compileFields]
    by_cases word : isCombinatorKey key = true
    · rw [fieldsOf_cons, if_pos word] at same
      rw [if_pos word, if_pos word, ih same]
    · rw [fieldsOf_cons, if_neg word, List.forall_mem_cons] at same
      rw [if_neg word, if_neg word, same.1, ih same.2]

/-- The value of a field within the bound converts to the same on every level above. -/
theorem AdmittedField.above {value : Value} (admitted : AdmittedField s high value)
    (le : low ≤ high) : AdmittedField s low value ∧
      ∀ path, convertAt s low path value = convertAt s high path value := by
  induction value using field_induction generalizing low high with
  | nested entries nested ih =>
    rw [admittedField_nested nested] at admitted ⊢
    obtain ⟨within, each⟩ := admitted
    have further : low + 1 ≤ high + 1 := Nat.succ_le_succ le
    have above := Bound.admits_mono (Int.ofNat_le.2 further) within
    have fields (field : Value × Value) (there : field ∈ fieldsOf entries) :=
      ih field there (each field there) further
    refine ⟨⟨above, fun field there => (fields field there).1⟩, fun path => ?_⟩
    rw [convertAt_nested nested above, convertAt_nested nested within,
      compileFields_congr path fun field there => (fields field there).2]
  | operators entries object =>
    -- the level of an operator object is not looked at
    refine ⟨admittedField_operators object, fun path => ?_⟩
    rw [convertAt_operators object, convertAt_operators object]
  | plain value plain =>
    rw [AdmittedField, containersWithin_of_plain plain]
    refine ⟨List.forall_mem_nil _, fun path => ?_⟩
    rw [convertAt_of_plain plain, convertAt_of_plain plain]

/-- A node within the bound compiles to the same on every level above. -/
theorem Admitted.above {node : Value} (admitted : Admitted s high node) (le : low ≤ high) :
    Admitted s low node ∧ compileAt s low node = compileAt s high node := by
  induction node using node_induction generalizing low high with
  | sequence node items members ih =>
    rw [admitted_of_members members] at admitted ⊢
    obtain ⟨within, each⟩ := admitted
    have above := Bound.admits_mono (Int.ofNat_le.2 le) within
    have items (item : Value) (there : item ∈ items) :=
      ih item there (each item there) (Nat.succ_le_succ le)
    refine ⟨⟨above, fun item there => (items item there).1⟩, ?_⟩
    rw [compileAt_of_members members above, compileAt_of_members members within,
      compileEach_congr fun item there => (items item there).2]
  | group entries c children found ih =>
    rw [admitted_group found] at admitted ⊢
    obtain ⟨within, each⟩ := admitted
    have above := Bound.admits_mono (Int.ofNat_le.2 le) within
    have children (child : Value) (there : child ∈ children) :=
      ih child there (each child there) (Nat.succ_le_succ le)
    refine ⟨⟨above, fun child there => (children child there).1⟩, ?_⟩
    rw [compileAt_map above, compileAt_map within, found]
    dsimp only
    rw [compileChildren_congr c fun child there => (children child there).2]
  | fields entries plain =>
    rw [admitted_fields plain] at admitted ⊢
    obtain ⟨within, each⟩ := admitted
    have above := Bound.admits_mono (Int.ofNat_le.2 le) within
    have fields (field : Value × Value) (there : field ∈ fieldsOf entries) :=
      (each field there).above le
    refine ⟨⟨above, fun field there => (fields field there).1⟩, ?_⟩
    rw [compileAt_map above, compileAt_map within, plain]
    dsimp only
    rw [compileFields_congr none fun field there => (fields field there).2]
  | leaf node alone plain =>
    rw [Admitted, containersAt_of_leaf alone plain]
    exact ⟨List.forall_mem_nil _, compileAt_leaf alone plain low high⟩

end Filter

end ListQuery
