import ListQuery.Proofs.Filter.Meaning
import ListQuery.Proofs.Filter.Operators
import ListQuery.Proofs.Filter.Regular

/-!
# Collapsing disjunctions only narrows

A group takes a child that is a disjunction by its first branch alone. What is lost that
way is never a restriction: a row that passes the compiled predicate satisfies the filter,
however deeply collapsed disjunctions are nested. An `AND` group drops a child without
branches altogether, so a disjunction without branches has to be read as one that
restricts nothing.

The induction runs over the regular filters. It carries that every branch of a compiled
child implies the child, and that a child without branches holds of every row.

## Main results

* `testPasses_convertAt`: the value of a field keeps its meaning.
* `holds_of_passes_compileAt`: a compiled predicate implies its filter.
* `holds_of_passes_compile` is the same for whole filters.
-/

namespace ListQuery.Filter

open disjunction (branches)

universe u

variable {s : Settings} {p : Prop} {depth : Nat} {Row : Type u}

/-! ## Values of fields -/

/-- A single operator makes a plain value or a test, as far as a regular filter may use it. -/
theorem entries?_apply_of_single {key operand : Value}
    (object : isOperatorObject [(key, operand)] = true)
    (pair : key = .text Operator.between.name → ∃ low high, operand.members? = some [low, high])
    (noMap : key = .text Operator.eq.name → operand.entries? = none) :
    ((OperatorName.ofKey key).apply operand).value.entries? = none := by
  obtain ⟨op, named, known⟩ := exists_operator object List.mem_cons_self
  have named : key = .text op.name := named
  have known : OperatorName.ofKey key = .known op := known
  rw [known]
  exact Operator.entries?_apply (fun equality => noMap (by rw [named, equality]))
    (fun range => pair (by rw [named, range]))

/-- The value of a field of a regular filter keeps its meaning exactly. -/
theorem testPasses_convertAt {value : Value} (regular : RegularField s (.exact p) depth value)
    (I : Reading Row) (key : Value) (path : Option String) (row : Row) :
    I.TestPasses key (convertAt s depth path value).value row ↔ I.FieldHolds key value row := by
  induction regular generalizing key path row with
  | plain plain =>
    rw [convertAt_of_plain plain, Logged.value_pure, I.testPasses_of_plain plain,
      I.fieldHolds_of_plain plain]
  | operators object single noMap =>
    obtain ⟨name, operand, rfl, pair⟩ := single
    have plain := entries?_apply_of_single object pair (noMap _ List.mem_cons_self)
    rw [convertAt_operators object]
    simp only [applyFirst, List.isEmpty_nil, Bool.not_true, Bool.and_false, Bool.false_eq_true,
      if_false, I.testPasses_of_plain plain]
    simp [Reading.FieldHolds, object]
  | beyond _ allowed _ => exact allowed.elim
  | @nested depth entries nested within noGroup each ih =>
    rw [convertAt_nested nested within, Logged.value_map, value_compileFields,
      fieldsOf_of_plain noGroup]
    simp only [Reading.TestPasses, Reading.FieldHolds, nested, Bool.false_eq_true, if_false,
      I.testsPass_iff, I.fieldsHold_iff, List.forall_mem_map]
    refine exists_congr fun other => and_congr_right fun _ => ?_
    exact forall₂_congr fun entry there => ih entry there _ _ other

/-! ## Branches -/

namespace Reading

variable (I : Reading Row)

/-- A predicate is the disjunction of its branches. -/
theorem passes_iff_branches {compiled : Value} {row : Row} :
    I.Passes compiled row ↔ (branches compiled = [] ∧ I.void) ∨
      ∃ branch ∈ branches compiled, I.BranchPasses branch row := by
  cases compiled <;> simp [Passes, branches]

theorem passes_of_branch {compiled branch : Value} {row : Row}
    (there : branch ∈ branches compiled) (passes : I.BranchPasses branch row) :
    I.Passes compiled row := I.passes_iff_branches.2 (Or.inr ⟨branch, there, passes⟩)

theorem passes_of_unbranched {compiled : Value} {row : Row} (none : branches compiled = [])
    (void : I.void) : I.Passes compiled row := I.passes_iff_branches.2 (Or.inl ⟨none, void⟩)

/-- A conjunction is passed where all its tests are. -/
theorem branchPasses_iff {branch : Value} (map : branch.IsConjunction) {row : Row} :
    I.BranchPasses branch row ↔ ∀ test ∈ testsOf branch, I.TestPasses test.1 test.2 row := by
  obtain ⟨tests, rfl⟩ := map
  simp [BranchPasses, testsOf, Value.entries?, I.testsPass_iff]

/-- A row that passes what a child contributes to an `AND` group passes the child, unless the
child has no branches. -/
theorem passes_of_contribution {compiled : Value}
    (maps : ∀ branch ∈ branches compiled, branch.IsConjunction)
    (filled : branches compiled = [] → I.void) {row : Row}
    (passed : ∀ test ∈ contribution compiled, I.TestPasses test.1 test.2 row) :
    I.Passes compiled row := by
  rw [I.passes_iff_branches]
  cases shape : branches compiled with
  | nil => exact Or.inl ⟨rfl, filled shape⟩
  | cons first rest =>
    -- the contribution is the tests of this first branch
    have map : first.IsConjunction := maps first (by simp [shape])
    refine Or.inr ⟨first, List.mem_cons_self, (I.branchPasses_iff map).2 fun test there => ?_⟩
    exact passed test (by simpa [contribution, shape] using there)

end Reading

/-! ## Filters -/

/-- A row that passes a compiled predicate satisfies the filter, if a disjunction without
branches restricts nothing wherever one may occur. -/
theorem holds_of_passes_compileAt {node : Value} (regular : Regular s (.exact p) depth node)
    (I : Reading Row) (void : p → I.void) (row : Row) :
    I.Passes (compileAt s depth node).value row → I.Holds node row := by
  induction regular with
  | null => exact fun _ => by simp [Reading.Holds]
  | beyond _ allowed _ => exact allowed.elim
  | @sequence depth node items sequence within each ih =>
    intro passed
    rw [I.holds_of_members sequence]
    cases items with
    | nil => exact Or.inl rfl
    | cons first rest =>
      refine Or.inr ?_
      have union := branches_sequence sequence within (List.cons_ne_nil _ _)
        fun item there => (each item there).isConjunction
      rcases I.passes_iff_branches.1 passed with ⟨none, holds⟩ | ⟨branch, there, passes⟩
      · -- no item has a branch, so the first item holds like all the others
        rw [union, List.flatMap_eq_nil_iff] at none
        have unbranched := none first List.mem_cons_self
        exact ⟨first, List.mem_cons_self,
          ih first List.mem_cons_self (I.passes_of_unbranched unbranched holds)⟩
      · rw [union] at there
        obtain ⟨item, among, here⟩ := List.mem_flatMap.1 there
        exact ⟨item, among, ih item among (I.passes_of_branch here passes)⟩
  | @any depth children items sequence within _ each ih =>
    intro passed
    rw [value_compileAt_any sequence within] at passed
    rw [I.holds_any sequence]
    rcases passed with ⟨none, holds⟩ | ⟨branch, there, passes⟩
    · cases items with
      | nil => exact Or.inl ⟨rfl, holds⟩
      | cons first rest =>
        have unbranched : branches (compileAt s (depth + 1) first).value = [] := by
          simpa using (List.flatMap_eq_nil_iff.1 none) first List.mem_cons_self
        exact Or.inr ⟨first, List.mem_cons_self,
          ih first List.mem_cons_self (I.passes_of_unbranched unbranched holds)⟩
    · -- whichever branch a child was cut down to, it is one of the branches of that child
      obtain ⟨item, among, here⟩ := List.mem_flatMap.1 there
      have kept := List.mem_of_mem_take here
      exact Or.inr ⟨item, among, ih item among (I.passes_of_branch kept passes)⟩
  | @all depth children items sequence within each apart ih =>
    intro passed
    rw [value_compileAt_all sequence within apart] at passed
    rw [I.holds_all sequence]
    intro item there
    -- a child that adds nothing has no branches, and then an empty `OR` group is to blame
    have filled : branches (compileAt s (depth + 1) item).value = [] → I.void :=
      fun none => void ((each item there).mayBeEmpty none)
    have maps := (each item there).isConjunction
    refine ih item there (I.passes_of_contribution maps filled fun test here => ?_)
    exact I.testsPass_iff.1 passed test (List.mem_flatMap.2 ⟨item, there, here⟩)
  | @fields depth entries within noGroup each =>
    intro passed
    rw [value_compileAt_fields noGroup within] at passed
    rw [I.holds_fields noGroup]
    intro entry there
    rw [← testPasses_convertAt (each entry there) I entry.1 (fieldPath none entry.1) row]
    exact I.testsPass_iff.1 passed _ (List.mem_map_of_mem there)

/-- A row that passes the predicate of a regular filter satisfies the filter, however many
disjunctions were collapsed to their first branch. -/
theorem holds_of_passes_compile {node : Value} (regular : Regular s (.exact True) 0 node)
    (I : Reading Row) (void : I.void) (row : Row) (passed : I.Passes (compile s node).value row) :
    I.Holds node row :=
  holds_of_passes_compileAt regular I (fun _ => void) row passed

/-- A disjunction within a disjunction, and an empty one within a conjunction. -/
def collapsing : Value :=
  .map [(.text "OR", .list
    [.map [(.text "OR", .list [single "a" .eq (.int 1), single "b" .eq (.int 2)])],
     .map [(.text "AND", .list [single "c" .gt (.int 3), .map [(.text "OR", .list [])]])]])]

theorem holds_of_passes_compile_collapsing :
    Regular .standard (.exact True) 0 collapsing ∧
      (compile .standard collapsing).value =
        .list [.map [(.text "a", .int 1)], .map [(.text "c", .test .moreThan (.int 3))]] ∧
      Reading.listed.Holds collapsing [(.text "a", .int 1)] := by
  have leaf (field : String) (op : Operator) (n : Int) (depth : Nat)
      (within : Settings.standard.maxDepth.admits depth = true)
      (noGroup : isCombinatorKey (.text field) = false) (plain : op ≠ .between) :
      Regular .standard (.exact True) depth (single field op (.int n)) := by
    refine .single within noGroup ⟨_, _, rfl, fun named => absurd ?_ plain⟩ rfl
    have names := congrArg operatorOfKey? named
    simpa [operatorOfKey?] using names
  have regular : Regular .standard (.exact True) 0 collapsing := by
    refine .anyList rfl (by simp) (List.forall_mem_cons.2 ⟨?_, List.forall_mem_singleton.2 ?_⟩)
    · refine .anyList rfl (by simp) (List.forall_mem_cons.2 ⟨?_, List.forall_mem_singleton.2 ?_⟩)
      · exact leaf _ _ _ _ rfl (by decide) (by decide)
      · exact leaf _ _ _ _ rfl (by decide) (by decide)
    · refine .allList rfl (List.forall_mem_cons.2 ⟨?_, List.forall_mem_singleton.2 ?_⟩)
        (by unfold Ordered.Distinct; decide)
      · exact leaf _ _ _ _ rfl (by decide) (by decide)
      · exact .anyList rfl (fun _ => trivial) (List.forall_mem_nil _)
  refine ⟨regular, by decide, holds_of_passes_compile regular _ trivial _ ?_⟩
  refine Or.inr ⟨.map [(.text "a", .int 1)], List.mem_cons_self, ?_, trivial⟩
  simp [Reading.TestPasses, Reading.listed]

end ListQuery.Filter
