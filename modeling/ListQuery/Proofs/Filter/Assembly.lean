import ListQuery.Proofs.Filter.Levels

/-!
# How compiled nodes are put together

Only maps of fields make conjunctions of their own. A sequence and a group put together what their
children compile to, and what is no container, or lies beyond the depth bound, compiles to itself.
So a property of compiled values that is kept where children are put together holds of all that a
node compiles to, if only it holds of the conjunctions of fields and of what is left as it is.

Two properties are of this sort. Within the depth bound there is no disjunction among the branches
of a compiled node. And in a filter in which no map has the same key twice, no conjunction that is
compiled has two tests under the same key, at whatever depth.

## Main definitions

* `unwrapped` is the disjunction of some branches.
* `IsKept` holds of the properties that are kept where children are put together.
* `IsFlat` says that no branch of a value has branches of its own.
* `TestsApart` says that no conjunction in a value has two tests under the same key.

## Main results

* `disjunction_eq_unwrapped`: a disjunction is that of the branches of its parts.
* `IsKept.compileAt`: such a property holds of what a node compiles to.
* `Admitted.isFlat` and `testsApart_compileAt` are the two cases.
-/

namespace ListQuery

namespace Filter

open disjunction (branches)

variable {s : Settings} {depth : Nat} {p : Value → Prop} {value : Value} {items : List Value}

/-! ## Disjunctions of branches -/

/-- The disjunction of some branches; a single branch stands for itself. -/
def unwrapped : List Value → Value
  | [branch] => branch
  | all => .list all

theorem disjunction_eq_unwrapped {compiled : List Value} (filled : compiled ≠ []) :
    disjunction compiled = unwrapped (compiled.flatMap branches) := by
  rw [disjunction]
  rcases compiled.flatMap branches with _ | ⟨first, _ | ⟨second, rest⟩⟩
  · simp [filled, unwrapped]
  · rfl
  · rfl

/-! ## Properties that are kept -/

/-- A property is kept where compiled children are put together, in a disjunction of all of their
branches or in a group of their first. -/
structure IsKept (p : Value → Prop) : Prop where
  sequence : ∀ compiled, (∀ item ∈ compiled, p item) → p (disjunction compiled)
  group : ∀ (c : Combinator) (compiled : List Value), (∀ item ∈ compiled, p item) →
    p (c.join (compiled.flatMap fun item => (branches item).take 1))

/-- A property that is kept holds of what a node compiles to, if it holds of what is no container in
it, of what lies beyond the bound, and of the conjunctions of its fields. -/
theorem IsKept.compileAt (kept : IsKept p) (node : Value) (depth : Nat)
    (leaf : ∀ part, Value.Occurs part node → part.members? = none → part.entries? = none → p part)
    (beyond : ∀ visit ∈ containersAt depth node, s.maxDepth.admits visit.level = false →
      p visit.node)
    (fields : ∀ visit ∈ containersAt depth node, ∀ entries, visit.node = .map entries →
      p (.map (compileFields s visit.level none entries).value)) :
    p (compileAt s depth node).value := by
  induction node using node_induction generalizing depth with
  | sequence node items members ih =>
    rw [containersAt_of_members members, List.forall_mem_cons, List.forall_mem_flatMap]
      at beyond fields
    rw [compileAt_sequence members]
    by_cases within : s.maxDepth.admits depth = true
    · rw [if_pos within, Logged.value_map, value_compileEach]
      refine kept.sequence _ (List.forall_mem_map.2 fun item there => ?_)
      have held := Value.mem_parts_of_members members there
      exact ih item there (depth + 1) (fun part occurs => leaf part (.within held occurs))
        (beyond.2 item there) (fields.2 item there)
    · rw [if_neg within]
      exact beyond.1 (Bool.eq_false_iff.2 within)
  | group entries c children found ih =>
    rw [containersAt_map, found, List.forall_mem_cons, List.forall_mem_flatMap] at beyond fields
    rw [compileAt_entries, found]
    by_cases within : s.maxDepth.admits depth = true
    · rw [if_pos within, value_group]
      refine kept.group c _ (List.forall_mem_map.2 fun child there => ?_)
      have inside := inside_of_groupOf found there
      exact ih child there (depth + 1)
        (fun part occurs => leaf part (.of_inside (.deeper occurs inside)))
        (beyond.2 child there) (fields.2 child there)
    · rw [if_neg within]
      exact beyond.1 (Bool.eq_false_iff.2 within)
  | fields entries plain =>
    rw [containersAt_map, List.forall_mem_cons] at beyond fields
    rw [compileAt_entries, plain]
    by_cases within : s.maxDepth.admits depth = true
    · rw [if_pos within]
      exact fields.1 entries rfl
    · rw [if_neg within]
      exact beyond.1 (Bool.eq_false_iff.2 within)
  | leaf node alone plain =>
    cases node with
    | list items => cases alone
    | tuple items => cases alone
    | map entries => cases plain
    | null =>
      -- nothing at all compiles to the disjunction of nothing
      rw [Filter.compileAt]
      exact kept.sequence [] (List.forall_mem_nil _)
    | _ => simpa [Filter.compileAt] using leaf _ .here rfl rfl

/-! ## Flat values -/

/-- No branch of a value has branches of its own. -/
def IsFlat (value : Value) : Prop := ∀ branch ∈ branches value, branches branch = [branch]

/-- What is no sequence is its own and only branch. -/
theorem branches_of_alone {node : Value} (alone : node.members? = none) :
    branches node = [node] := by
  cases node with
  | list items => cases alone
  | _ => rfl

theorem isKept_isFlat : IsKept IsFlat where
  sequence compiled each := by
    cases compiled with
    | nil => exact List.forall_mem_singleton.2 rfl
    | cons first rest =>
      have spliced := List.forall_mem_flatMap.2 each
      rw [IsFlat, branches_disjunction (List.cons_ne_nil _ _) spliced]
      exact spliced
  group c compiled each := by
    cases c with
    | all => exact List.forall_mem_singleton.2 rfl
    | any =>
      refine List.forall_mem_flatMap.2 fun item there branch here => ?_
      exact each item there branch (List.mem_of_mem_take here)

/-- A node within the bound compiles to a flat value. -/
theorem Admitted.isFlat {node : Value} (admitted : Admitted s depth node) :
    IsFlat (compileAt s depth node).value := by
  refine isKept_isFlat.compileAt node depth ?_ ?_ ?_
  · intro part _ alone _
    rw [IsFlat, branches_of_alone alone]
    exact List.forall_mem_singleton.2 (branches_of_alone alone)
  · intro visit there beyond
    rw [admitted visit there] at beyond
    cases beyond
  · intro visit _ entries _
    exact List.forall_mem_singleton.2 rfl

/-! ## Conjunctions without repeated keys -/

/-- No conjunction that a value is, or that is an item of a list in it, has two tests under the same
key. -/
inductive TestsApart : Value → Prop
  | branch {value : Value} (single : branches value = [value])
      (distinct : Ordered.Distinct (testsOf value)) : TestsApart value
  | list {items : List Value} (each : ∀ item ∈ items, TestsApart item) : TestsApart (.list items)

theorem testsApart_map {tests : List (Value × Value)} (distinct : Ordered.Distinct tests) :
    TestsApart (.map tests) := .branch rfl distinct

theorem TestsApart.of_branch (apart : TestsApart value) {branch : Value}
    (there : branch ∈ branches value) : TestsApart branch := by
  cases apart with
  | branch single distinct =>
    rw [single] at there
    rw [List.mem_singleton.1 there]
    exact .branch single distinct
  | list each => exact each branch there

theorem TestsApart.distinct_testsOf (apart : TestsApart value) :
    Ordered.Distinct (testsOf value) := by
  cases apart with
  | branch _ distinct => exact distinct
  | list each => exact List.Pairwise.nil

/-- What a compiled child adds to a conjunction has no key twice. -/
theorem TestsApart.distinct_contribution (apart : TestsApart value) :
    Ordered.Distinct (contribution value) := by
  rw [contribution]
  cases found : branches value with
  | nil => exact List.Pairwise.nil
  | cons first rest =>
    have head : TestsApart first := apart.of_branch (found ▸ List.mem_cons_self)
    simpa using head.distinct_testsOf

theorem isKept_testsApart : IsKept TestsApart where
  sequence compiled each := by
    have spliced : ∀ branch ∈ compiled.flatMap branches, TestsApart branch :=
      List.forall_mem_flatMap.2 fun item there branch here => (each item there).of_branch here
    unfold disjunction
    split
    · split
      · exact testsApart_map List.Pairwise.nil
      · exact .list (List.forall_mem_nil _)
    · next branch single => exact spliced branch (by simp [single])
    · exact .list spliced
  group c compiled each := by
    cases c with
    | any =>
      refine .list (List.forall_mem_flatMap.2 fun item there branch here => ?_)
      exact (each item there).of_branch (List.mem_of_mem_take here)
    | all =>
      rw [join_all]
      exact testsApart_map (Ordered.distinct_ofEntries _)

/-- Plain data in which no map has the same key twice has its tests apart. -/
theorem testsApart_of_keyed (value : Value) (keyed : value.Keyed) : TestsApart value := by
  induction value using Value.inside_induction with
  | step value ih =>
    cases value with
    | list items =>
      refine .list fun item there => ih item (.of_part there) ?_
      exact Value.keyed_list.1 keyed item there
    | map entries => exact testsApart_map (keyed entries .here)
    | _ => exact .branch rfl List.Pairwise.nil

theorem distinct_compileFields {entries : List (Value × Value)}
    (distinct : Ordered.Distinct entries) (path : Option String) :
    Ordered.Distinct (compileFields s depth path entries).value := by
  rw [value_compileFields, Ordered.Distinct, Ordered.keys, List.map_map]
  exact distinct.sublist (List.Sublist.map Prod.fst List.filter_sublist)

/-- Where no map has the same key twice, no conjunction that is compiled has either. -/
theorem testsApart_compileAt {node : Value} (keyed : node.Keyed) :
    TestsApart (compileAt s depth node).value := by
  have kept (visit : Visit) (there : visit ∈ containersAt depth node) : visit.node.Keyed :=
    keyed.of_occurs (of_mem_containersAt node depth visit there).2
  refine isKept_testsApart.compileAt node depth ?_ ?_ ?_
  · intro part occurs _ _
    exact testsApart_of_keyed part (keyed.of_occurs occurs)
  · intro visit there _
    exact testsApart_of_keyed visit.node (kept visit there)
  · intro visit there entries same
    refine testsApart_map (distinct_compileFields ?_ none)
    exact kept visit there entries (same ▸ .here)

end Filter

end ListQuery
