import ListQuery.Proofs.Filter.Assembly
import Mathlib.Data.List.Basic

/-!
# Regrouping disjunctions

A list of filters is a disjunction, and so are the lists among its items. How the items are grouped
by these inner lists makes no difference: a tree of lists compiles to the same as the list of its
leaves. At every level the branches of the parts are spliced, and a single branch is taken out of
its list. But no branch is itself a list, so what is spliced or taken out at one level is not taken
apart at the next, and every branch of every leaf is kept, once and in its place.

Empty lists are left aside. They restrict nothing, so one among the items of a list adds a branch
that every row passes, while an empty list of leaves adds none.

## Main definitions

* `leaves` lists the leaves of a tree of sequences.
* `Filled` says that no sequence in a tree is empty.

## Main results

* `Filled.branches_compileAt`: a tree has the branches of its leaves.
* `compileAt_regrouped`: a tree compiles to the same as the list of its leaves.
-/

namespace ListQuery

namespace Filter

open disjunction (branches)

variable {s : Settings} {depth : Nat} {node tree leaf : Value} {items : List Value}

/-! ## Trees of sequences -/

mutual

/-- The leaves of a tree of sequences, in order. -/
def leaves : Value → List Value
  | .list items => leavesOf items
  | .tuple items => leavesOf items
  | leaf => [leaf]

/-- The leaves of the trees in a sequence, in order. -/
def leavesOf : List Value → List Value
  | [] => []
  | item :: rest => leaves item ++ leavesOf rest

end

/-- No sequence in a tree of sequences is empty. -/
inductive Filled : Value → Prop
  | leaf {node : Value} (alone : node.members? = none) : Filled node
  | sequence {node : Value} {items : List Value} (members : node.members? = some items)
      (some : items ≠ []) (each : ∀ item ∈ items, Filled item) : Filled node

theorem leavesOf_eq_flatMap (items : List Value) : leavesOf items = items.flatMap leaves := by
  induction items with
  | nil => rfl
  | cons item rest ih => rw [leavesOf, ih, List.flatMap_cons]

theorem leaves_of_members (members : node.members? = some items) :
    leaves node = items.flatMap leaves := by
  rw [← leavesOf_eq_flatMap]
  cases node <;> cases members <;> rw [leaves]

theorem leaves_of_leaf (alone : leaf.members? = none) : leaves leaf = [leaf] := by
  cases leaf with
  | list items => cases alone
  | tuple items => cases alone
  | _ => simp [leaves]

theorem members?_of_mem_leaves (tree : Value) : ∀ leaf ∈ leaves tree, leaf.members? = none := by
  induction tree using Value.members_induction with
  | sequence tree items members ih =>
    rw [leaves_of_members members]
    exact List.forall_mem_flatMap.2 ih
  | leaf leaf alone =>
    rw [leaves_of_leaf alone]
    exact List.forall_mem_singleton.2 alone

/-- A list of leaves has these leaves. -/
theorem leaves_list (alone : ∀ item ∈ items, item.members? = none) :
    leaves (.list items) = items := by
  rw [leaves, leavesOf_eq_flatMap]
  conv_rhs => rw [← List.flatMap_singleton' items]
  exact List.flatMap_congr fun item there => leaves_of_leaf (alone item there)

theorem Filled.leaves_ne_nil (filled : Filled tree) : leaves tree ≠ [] := by
  induction filled with
  | leaf alone =>
    rw [leaves_of_leaf alone]
    exact List.cons_ne_nil _ _
  | sequence members some _ ih =>
    obtain ⟨first, there⟩ := List.exists_mem_of_ne_nil _ some
    rw [leaves_of_members members, ne_eq, List.flatMap_eq_nil_iff]
    exact fun none => ih first there (none first there)

/-- Where a tree is within the bound, each leaf is so on the level of the tree. -/
theorem Admitted.of_mem_leaves (admitted : Admitted s depth tree) :
    ∀ leaf ∈ leaves tree, Admitted s depth leaf := by
  induction tree using Value.members_induction generalizing depth with
  | sequence tree items members ih =>
    rw [leaves_of_members members]
    refine List.forall_mem_flatMap.2 fun item there leaf here => ?_
    have below := ((admitted_of_members members).1 admitted).2 item there
    exact ((ih item there below leaf here).above (Nat.le_succ depth)).1
  | leaf leaf alone =>
    rw [leaves_of_leaf alone]
    exact List.forall_mem_singleton.2 admitted

/-- Where a tree is within the bound, so is the list of its leaves. -/
theorem Admitted.list_leaves (admitted : Admitted s depth tree)
    (members : tree.members? = some items) : Admitted s depth (.list (leaves tree)) := by
  obtain ⟨within, below⟩ := (admitted_of_members members).1 admitted
  rw [leaves_of_members members]
  refine (admitted_of_members rfl).2 ⟨within, List.forall_mem_flatMap.2 fun item there => ?_⟩
  exact (below item there).of_mem_leaves

/-! ## What a tree compiles to -/

/-- What the items of a sequence within the bound compile to has no branches with branches of their
own. -/
theorem Admitted.flat_items (admitted : Admitted s depth tree)
    (members : tree.members? = some items) :
    ∀ branch ∈ (items.map fun item => (compileAt s (depth + 1) item).value).flatMap branches,
      branches branch = [branch] := by
  obtain ⟨_, below⟩ := (admitted_of_members members).1 admitted
  exact List.forall_mem_flatMap.2 (List.forall_mem_map.2 fun item there =>
    (below item there).isFlat)

/-- A sequence that is not empty is the disjunction of its branches. -/
theorem Admitted.eq_unwrapped (admitted : Admitted s depth tree)
    (members : tree.members? = some items) (some : items ≠ []) :
    (compileAt s depth tree).value = unwrapped (branches (compileAt s depth tree).value) := by
  have within := ((admitted_of_members members).1 admitted).1
  have filled : (items.map fun item => (compileAt s (depth + 1) item).value) ≠ [] := by
    simpa using some
  rw [compileAt_of_members members within, Logged.value_map, value_compileEach,
    branches_disjunction filled (admitted.flat_items members), disjunction_eq_unwrapped filled]

/-- A tree within the bound has the branches of its leaves, each of them once and in order. -/
theorem Filled.branches_compileAt (filled : Filled tree) (admitted : Admitted s depth tree) :
    branches (compileAt s depth tree).value =
      (leaves tree).flatMap fun leaf => branches (compileAt s depth leaf).value := by
  induction filled generalizing depth with
  | leaf alone => rw [leaves_of_leaf alone, List.flatMap_singleton]
  | @sequence tree items members some each ih =>
    obtain ⟨within, below⟩ := (admitted_of_members members).1 admitted
    rw [compileAt_of_members members within, Logged.value_map, value_compileEach,
      branches_disjunction (by simpa using some) (admitted.flat_items members), List.flatMap_map,
      leaves_of_members members, List.flatMap_assoc]
    refine List.flatMap_congr fun item there => ?_
    rw [ih item there (below item there)]
    refine List.flatMap_congr fun leaf among => ?_
    -- a leaf is found on the level of the item, and compiles to the same on that of the tree
    have found := (below item there).of_mem_leaves leaf among
    rw [(found.above (Nat.le_succ depth)).2]

/-- Compiling a tree reports what compiling its leaves does. -/
theorem Admitted.notices_compileAt (admitted : Admitted s depth tree) :
    (compileAt s depth tree).notices =
      (leaves tree).flatMap fun leaf => (compileAt s depth leaf).notices := by
  induction tree using Value.members_induction generalizing depth with
  | sequence tree items members ih =>
    obtain ⟨within, below⟩ := (admitted_of_members members).1 admitted
    rw [compileAt_of_members members within, Logged.notices_map, notices_compileEach,
      leaves_of_members members, List.flatMap_assoc]
    refine List.flatMap_congr fun item there => ?_
    rw [ih item there (below item there)]
    refine List.flatMap_congr fun leaf among => ?_
    have found := (below item there).of_mem_leaves leaf among
    rw [(found.above (Nat.le_succ depth)).2]
  | leaf leaf alone => rw [leaves_of_leaf alone, List.flatMap_singleton]

/-- Disjunctions regroup freely. A tree of sequences, none of them empty and all within the bound,
compiles to the same as the list of its leaves: to the branches of all leaves in their order, where
a single branch stands for itself. None of them is lost, comes twice or moves. -/
theorem compileAt_regrouped (members : tree.members? = some items) (filled : Filled tree)
    (admitted : Admitted s depth tree) :
    compileAt s depth tree = compileAt s depth (.list (leaves tree)) ∧
    (compileAt s depth tree).value = unwrapped
      ((leaves tree).flatMap fun leaf => branches (compileAt s depth leaf).value) ∧
    branches (compileAt s depth tree).value =
      (leaves tree).flatMap fun leaf => branches (compileAt s depth leaf).value := by
  have alone := members?_of_mem_leaves tree
  have some : items ≠ [] := by
    rintro rfl
    exact filled.leaves_ne_nil (leaves_of_members members)
  have listed : Filled (.list (leaves tree)) :=
    .sequence rfl filled.leaves_ne_nil fun leaf there => .leaf (alone leaf there)
  have admitted' := admitted.list_leaves members
  have value := admitted.eq_unwrapped members some
  have value' := admitted'.eq_unwrapped rfl filled.leaves_ne_nil
  -- both are told by their leaves, which are the same
  rw [filled.branches_compileAt admitted] at value
  rw [listed.branches_compileAt admitted', leaves_list alone] at value'
  refine ⟨?_, value, filled.branches_compileAt admitted⟩
  ext : 1
  · rw [value, value']
  · rw [admitted.notices_compileAt, admitted'.notices_compileAt, leaves_list alone]

/-- A tree of lists with four leaves, of which one is an empty group and one a group of two. -/
def groupedLists : Value :=
  .list [.tuple [single "a" .eq (.int 1), .list [.map [(.text "OR", .list [])]]],
    .map [(.text "OR", .list [single "b" .gt (.int 2), single "c" .lt (.int 3)])],
    .list [.list [single "a" .eq (.int 1)]]]

/-- The empty group has no branches, and the others stand in the order of their leaves. -/
theorem compileAt_regrouped_groupedLists :
    compile .standard groupedLists = compile .standard (.list (leaves groupedLists)) ∧
      branches (compile .standard groupedLists).value =
        [.map [(.text "a", .int 1)], .map [(.text "b", .test .moreThan (.int 2))],
          .map [(.text "c", .test .lessThan (.int 3))], .map [(.text "a", .int 1)]] := by
  have filled : Filled groupedLists := by
    refine .sequence rfl nofun (List.forall_mem_cons.2 ⟨?_, List.forall_mem_cons.2 ⟨?_, ?_⟩⟩)
    · refine .sequence rfl nofun (List.forall_mem_cons.2 ⟨.leaf rfl, ?_⟩)
      refine List.forall_mem_singleton.2 (.sequence rfl nofun ?_)
      exact List.forall_mem_singleton.2 (.leaf rfl)
    · exact .leaf rfl
    · refine List.forall_mem_singleton.2 (.sequence rfl nofun ?_)
      refine List.forall_mem_singleton.2 (.sequence rfl nofun ?_)
      exact List.forall_mem_singleton.2 (.leaf rfl)
  have admitted : Admitted .standard 0 groupedLists := by
    refine (admitted_of_members rfl).2 ⟨rfl, List.forall_mem_cons.2 ⟨?_, List.forall_mem_cons.2
      ⟨?_, ?_⟩⟩⟩
    · refine (admitted_of_members rfl).2
        ⟨rfl, List.forall_mem_cons.2 ⟨admitted_single rfl _ _ _, ?_⟩⟩
      refine List.forall_mem_singleton.2 ((admitted_of_members rfl).2 ⟨rfl, ?_⟩)
      refine List.forall_mem_singleton.2 ((admitted_group rfl).2 ⟨rfl, ?_⟩)
      exact List.forall_mem_nil _
    · refine (admitted_group rfl).2 ⟨rfl, List.forall_mem_cons.2 ⟨admitted_single rfl _ _ _, ?_⟩⟩
      exact List.forall_mem_singleton.2 (admitted_single rfl _ _ _)
    · refine List.forall_mem_singleton.2 ((admitted_of_members rfl).2 ⟨rfl, ?_⟩)
      refine List.forall_mem_singleton.2 ((admitted_of_members rfl).2 ⟨rfl, ?_⟩)
      exact List.forall_mem_singleton.2 (admitted_single rfl _ _ _)
  obtain ⟨same, -, kept⟩ := compileAt_regrouped rfl filled admitted
  exact ⟨same, kept⟩

end Filter

end ListQuery
