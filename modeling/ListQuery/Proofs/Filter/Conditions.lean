import ListQuery.Proofs.Filter.Visits

/-!
# The conditions of a filter

A map of fields puts a condition on each of its fields: an operator object, a plain value, or
the map of a relation, which holds conditions in turn. A condition is found by its path, the keys
that lead to it from the map of fields at the level of groups. Every group and every list starts
anew, so the path does not tell where in a group a condition stands.

Like the containers of a filter its conditions are a matter of the filter alone. The depth bound
comes in by their levels: a condition stands on the level of the map that holds it, and compiling
comes upon it if the bound admits this level.

## Main definitions

* `conditionsAt` lists the conditions of a node at a level, `conditionsWithin` that on a field
  and those inside it, in the order in which compiling without any bound would come upon them.
* `reached` lists the conditions of a filter that compiling comes upon.

## Main results

* `le_of_mem_conditionsWithin` and `le_of_mem_conditionsAt`: no condition of a node stands above it.
-/

namespace ListQuery.Filter

/-- A condition on a field: the level of the map that holds it, the keys that lead to it, and what
stands under the last of them. -/
structure Condition where
  level : Nat
  path : List Value
  value : Value

/-- The condition on a field in a map at a level, and the conditions inside it. -/
def conditionsWithin (level : Nat) (path : List Value) (value : Value) : List Condition :=
  ⟨level, path, value⟩ ::
    match value with
    | .map entries =>
      -- what stands in an operator object is applied, and is no condition of its own
      if isOperatorObject entries then []
      else (fieldsOf entries).attach.flatMap fun field =>
        conditionsWithin (level + 1) (path ++ [field.1.1]) field.1.2
    | _ => []
termination_by sizeOf value
decreasing_by
  have among := (List.mem_filter.1 field.2).1
  exact Value.sizeOf_lt_of_mem_parts (Value.value_mem_parts among)

/-- The conditions of a node at a level. -/
def conditionsAt (level : Nat) (node : Value) : List Condition :=
  match node with
  | .list items => items.flatMap fun item => conditionsAt (level + 1) item
  | .tuple items => items.flatMap fun item => conditionsAt (level + 1) item
  | .map entries =>
    -- where there is a group, the other entries are not looked at
    match group : groupOf? entries with
    | some (_, children) => children.attach.flatMap fun child => conditionsAt (level + 1) child.1
    | none => (fieldsOf entries).flatMap fun field => conditionsWithin level [field.1] field.2
  | _ => []
termination_by sizeOf node
decreasing_by
  · exact Value.sizeOf_lt_of_mem_parts (Value.mem_parts_of_members rfl ‹item ∈ items›)
  · exact Value.sizeOf_lt_of_mem_parts (Value.mem_parts_of_members rfl ‹item ∈ items›)
  · exact (inside_of_groupOf group child.2).sizeOf_lt

/-- The conditions of a filter. -/
def conditions (node : Value) : List Condition := conditionsAt 0 node

/-- The conditions of a filter that compiling comes upon under a depth bound. -/
def reached (bound : Bound) (node : Value) : List Condition :=
  (conditions node).filter fun condition => bound.admits condition.level

variable {level : Nat} {path : List Value} {entries : List (Value × Value)}

theorem conditionsWithin_of_plain {value : Value} (plain : value.entries? = none) :
    conditionsWithin level path value = [⟨level, path, value⟩] := by
  cases value with
  | map entries => cases plain
  | _ => simp [conditionsWithin]

theorem conditionsWithin_map (level : Nat) (path : List Value) (entries : List (Value × Value)) :
    conditionsWithin level path (.map entries) = ⟨level, path, .map entries⟩ ::
      if isOperatorObject entries then []
      else (fieldsOf entries).flatMap fun field =>
        conditionsWithin (level + 1) (path ++ [field.1]) field.2 := by
  rw [conditionsWithin]
  simp only [List.flatMap_subtype, List.unattach_attach]

/-- The condition on a field is the first that is found there. -/
theorem mem_conditionsWithin (level : Nat) (path : List Value) (value : Value) :
    ⟨level, path, value⟩ ∈ conditionsWithin level path value := by
  rw [conditionsWithin.eq_def]
  exact List.mem_cons_self

theorem conditionsAt_of_members {node : Value} {items : List Value}
    (sequence : node.members? = some items) :
    conditionsAt level node = items.flatMap (conditionsAt (level + 1)) := by
  cases node <;> cases sequence <;> rw [conditionsAt]

theorem conditionsAt_map (level : Nat) (entries : List (Value × Value)) :
    conditionsAt level (.map entries) =
      match groupOf? entries with
      | some (_, children) => children.flatMap (conditionsAt (level + 1))
      | none => (fieldsOf entries).flatMap fun field =>
          conditionsWithin level [field.1] field.2 := by
  rw [conditionsAt]
  split <;> simp_all

theorem conditionsAt_of_leaf {node : Value} (alone : node.members? = none)
    (plain : node.entries? = none) : conditionsAt level node = [] := by
  cases node with
  | list items => cases alone
  | tuple items => cases alone
  | map entries => cases plain
  | _ => simp [conditionsAt]

/-- The condition on a field stands on the level of its map, and what is inside it below. -/
theorem le_of_mem_conditionsWithin (value : Value) : ∀ (level : Nat) (path : List Value),
    ∀ condition ∈ conditionsWithin level path value, level ≤ condition.level := by
  induction value using field_induction with
  | nested entries nested ih =>
    intro level path
    rw [conditionsWithin_map, nested, if_neg Bool.false_ne_true]
    refine List.forall_mem_cons.2 ⟨Nat.le_refl level, List.forall_mem_flatMap.2 ?_⟩
    intro field there condition deeper
    exact Nat.le_of_succ_le (ih field there (level + 1) (path ++ [field.1]) condition deeper)
  | operators entries object =>
    intro level path
    rw [conditionsWithin_map, object, if_pos rfl]
    exact List.forall_mem_singleton.2 (Nat.le_refl level)
  | plain value plain =>
    intro level path
    rw [conditionsWithin_of_plain plain]
    exact List.forall_mem_singleton.2 (Nat.le_refl level)

/-- No condition of a node stands above the node. -/
theorem le_of_mem_conditionsAt (node : Value) :
    ∀ level, ∀ condition ∈ conditionsAt level node, level ≤ condition.level := by
  induction node using node_induction with
  | sequence node items members ih =>
    intro level
    rw [conditionsAt_of_members members]
    refine List.forall_mem_flatMap.2 fun item there condition deeper => ?_
    exact Nat.le_of_succ_le (ih item there (level + 1) condition deeper)
  | group entries c children found ih =>
    intro level
    rw [conditionsAt_map, found]
    refine List.forall_mem_flatMap.2 fun child there condition deeper => ?_
    exact Nat.le_of_succ_le (ih child there (level + 1) condition deeper)
  | fields entries plain =>
    intro level
    rw [conditionsAt_map, plain]
    exact List.forall_mem_flatMap.2 fun field _ =>
      le_of_mem_conditionsWithin field.2 level [field.1]
  | leaf node alone plain =>
    intro level
    rw [conditionsAt_of_leaf alone plain]
    exact List.forall_mem_nil _

end ListQuery.Filter
