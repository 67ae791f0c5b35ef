import ListQuery.Proofs.Filter.Compiled
import Mathlib.Data.List.Forall2

/-!
# The shape of compiled predicates

A compiled predicate is flat: it is a map of tests, or a list of such maps. A disjunction only
splices in the branches of its parts, and a group takes a branch from each of its children, so
neither could flatten what is nested deeper; but nothing that is compiled is nested deeper,
because all parts were flat before. This is an invariant of every node that compiling reaches.

What it needs of the filter is that something that can be compiled stands where a node is
expected. A map that stands for a group is only reached at the children of this group.

## Main definitions

* `Value.IsPlainConjunction` holds of maps without groups, `IsPredicate` of such maps and of
  lists of them.
* `Placed` says that whatever compiling reaches as a node can be compiled.

## Main results

* `isPredicate_disjunction` and `isPredicate_join`: putting flat predicates together gives flat
  predicates.
* `Placed.isPredicate`: what is compiled is flat.
* `Placed.exists_parts`: an `OR` group has a conjunction for each child that is not empty.
-/

namespace ListQuery

/-- A map of tests, none of which stands under the word of a combinator. -/
def Value.IsPlainConjunction (value : Value) : Prop :=
  ∃ tests, value = .map tests ∧ ∀ entry ∈ tests, isCombinatorKey entry.1 = false

theorem Value.IsPlainConjunction.isConjunction {value : Value} (plain : value.IsPlainConjunction) :
    value.IsConjunction := plain.imp fun _ both => both.1

theorem Value.isPlainConjunction_emptyMap : Value.emptyMap.IsPlainConjunction :=
  ⟨[], rfl, List.forall_mem_nil _⟩

namespace Filter

open disjunction (branches)

/-- A flat predicate: a plain conjunction, or a list of plain conjunctions. -/
inductive IsPredicate : Value → Prop
  | conjunction {value : Value} (plain : value.IsPlainConjunction) : IsPredicate value
  | disjunction {items : List Value} (each : ∀ item ∈ items, item.IsPlainConjunction) :
      IsPredicate (.list items)

/-- Where compiling expects a node there is nothing, a map or a sequence, not nested beyond the
bound. Of a map that stands for a group, only the children of this group are compiled as nodes,
and of any other map no part is. -/
inductive Placed (s : Settings) : Nat → Value → Prop
  | null {depth : Nat} : Placed s depth .null
  | sequence {depth : Nat} {node : Value} {items : List Value}
      (members : node.members? = some items) (within : s.maxDepth.admits depth = true)
      (each : ∀ item ∈ items, Placed s (depth + 1) item) : Placed s depth node
  | map {depth : Nat} {entries : List (Value × Value)} (within : s.maxDepth.admits depth = true)
      (children : ∀ c items, groupOf? entries = some (c, items) →
        ∀ item ∈ items, Placed s (depth + 1) item) : Placed s depth (.map entries)

variable {s : Settings} {depth : Nat} {entries : List (Value × Value)} {items parts : List Value}
  {value node : Value}

/-! ## Flat predicates -/

theorem IsPredicate.branches (flat : IsPredicate value) :
    ∀ branch ∈ branches value, branch.IsPlainConjunction := by
  cases flat with
  | conjunction plain =>
    rw [branches_of_isConjunction plain.isConjunction]
    exact List.forall_mem_singleton.2 plain
  | disjunction each => exact each

/-- Splicing the branches of flat predicates gives a flat predicate. -/
theorem isPredicate_disjunction {compiled : List Value}
    (each : ∀ item ∈ compiled, IsPredicate item) : IsPredicate (disjunction compiled) := by
  have spliced : ∀ branch ∈ compiled.flatMap branches, branch.IsPlainConjunction := by
    intro branch there
    obtain ⟨item, among, here⟩ := List.mem_flatMap.1 there
    exact (each item among).branches branch here
  unfold disjunction
  split
  · split
    · exact .conjunction Value.isPlainConjunction_emptyMap
    · exact .disjunction (List.forall_mem_nil _)
  · next branch single => exact .conjunction (spliced branch (by simp [single]))
  · exact .disjunction spliced

/-- A group of plain conjunctions is flat. -/
theorem isPredicate_join (c : Combinator) (each : ∀ part ∈ parts, part.IsPlainConjunction) :
    IsPredicate (c.join parts) := by
  cases c with
  | any => exact .disjunction each
  | all =>
    rw [join_all]
    refine .conjunction ⟨_, rfl, fun ⟨key, test⟩ there => ?_⟩
    -- the key comes from some part, even where the test comes from another
    obtain ⟨⟨other, old⟩, written, rfl⟩ := List.mem_map.1 (Ordered.mem_ofEntries there).1
    obtain ⟨part, among, within⟩ := List.mem_flatMap.1 written
    obtain ⟨tests, rfl, plain⟩ := each part among
    exact plain (other, old) within

theorem isPlainConjunction_compileFields (path : Option String) (entries : List (Value × Value)) :
    (Value.map (compileFields s depth path entries).value).IsPlainConjunction := by
  refine ⟨_, rfl, fun test there => ?_⟩
  rw [value_compileFields] at there
  obtain ⟨entry, field, rfl⟩ := List.mem_map.1 there
  simpa using (List.mem_filter.1 field).2

/-! ## Compiled nodes -/

/-- What is compiled of a node is flat. -/
theorem Placed.isPredicate (placed : Placed s depth node) :
    IsPredicate (compileAt s depth node).value := by
  induction placed with
  | null =>
    rw [compileAt]
    exact .conjunction Value.isPlainConjunction_emptyMap
  | sequence members within each ih =>
    rw [compileAt_of_members members within, Logged.value_map, value_compileEach]
    exact isPredicate_disjunction (List.forall_mem_map.2 ih)
  | @map depth entries within children ih =>
    rw [compileAt_map within]
    cases group : groupOf? entries with
    | none => exact .conjunction (isPlainConjunction_compileFields none entries)
    | some found =>
      obtain ⟨c, items⟩ := found
      dsimp only
      rw [Logged.value_map, value_compileChildren]
      refine isPredicate_join c fun part there => ?_
      obtain ⟨item, among, here⟩ := List.mem_flatMap.1 there
      rw [value_reduce] at here
      exact (ih c items group item among).branches part (List.mem_of_mem_take here)

theorem branches_eq_nil_iff : branches value = [] ↔ value = .list [] := by
  cases value <;> simp [branches]

/-- Of some predicates, all but the empty list have a first branch. -/
theorem forall₂_firsts (predicate : Value → Value) (items : List Value) :
    List.Forall₂ (fun item part => (branches (predicate item)).head? = some part)
      (items.filter fun item => predicate item ≠ .list [])
      (items.flatMap fun item => (branches (predicate item)).take 1) := by
  induction items with
  | nil => exact .nil
  | cons item rest ih =>
    rw [List.flatMap_cons]
    cases found : branches (predicate item) with
    | nil =>
      have empty := branches_eq_nil_iff.1 found
      rw [List.filter_cons_of_neg (by simp [empty])]
      exact ih
    | cons part others =>
      have filled : predicate item ≠ .list [] := by
        rw [ne_eq, ← branches_eq_nil_iff, found]
        exact List.cons_ne_nil part others
      rw [List.filter_cons_of_pos (by simp [filled])]
      exact .cons (by rw [found]; rfl) ih

/-- An `OR` group has one conjunction for each child that does not compile to the empty list, in
the order of the children: the first branch of the child. -/
theorem Placed.exists_parts (placed : Placed s depth (.map entries))
    (group : groupOf? entries = some (.any, items)) :
    ∃ parts, (compileAt s depth (.map entries)).value = .list parts ∧
      (∀ part ∈ parts, part.IsPlainConjunction) ∧
      List.Forall₂ (fun child part =>
          (branches (compileAt s (depth + 1) child).value).head? = some part)
        (items.filter fun child => (compileAt s (depth + 1) child).value ≠ .list []) parts := by
  have flat := placed.isPredicate
  cases placed with
  | sequence members => cases members
  | map within children =>
    rw [compileAt_map within, group] at flat ⊢
    dsimp only at flat ⊢
    simp only [Logged.value_map, value_compileChildren, value_reduce] at flat ⊢
    exact ⟨_, rfl, flat.branches, forall₂_firsts _ items⟩

end Filter

end ListQuery
