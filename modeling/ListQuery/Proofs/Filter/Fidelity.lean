import ListQuery.Proofs.Filter.Narrowing

/-!
# Silence means fidelity

Whatever compiling loses is reported by a warning: branches that a group drops, operators
that are not applied, ranges that are not given by a pair, and containers beyond the depth
bound. So a compilation without warnings has lost nothing, and its predicate means what the
filter means.

The argument has two halves. Silence turns the lenient demands on a regular filter into the
exact ones, under which a predicate implies its filter. And silence says that no group has
dropped a branch, so that a filter implies its predicate.

## Main definitions

* `Logged.Silent` holds of results that came without warnings.

## Main results

* `Regular.exact_of_silent`: what silence adds to a regular filter.
* `passes_compile_iff_of_silent`: a filter that is compiled in silence keeps its meaning.
-/

namespace ListQuery

universe u

/-- No warning was given on the way to a result. -/
def Logged.Silent {α : Type u} (l : Logged α) : Prop :=
  ∀ notice ∈ l.notices, notice.level ≠ .warning

namespace Filter

open disjunction (branches)

variable {s : Settings} {depth : Nat} {Row : Type u}

/-! ## Where silence comes from -/

theorem silent_map {α β : Type u} {f : α → β} {l : Logged α} :
    (f <$> l).Silent ↔ l.Silent := by
  rw [Logged.Silent, Logged.notices_map, Logged.Silent]

theorem not_silent_passOver {node : Value} : ¬ (s.passOver node).Silent := by
  intro silent
  exact silent (.tooDeep s.maxDepth) (by simp [Settings.passOver, Logged.give]) rfl

theorem silent_compileEach {items : List Value} :
    (compileEach s depth items).Silent ↔ ∀ item ∈ items, (compileAt s depth item).Silent := by
  simp only [Logged.Silent, notices_compileEach, List.mem_flatMap]
  exact ⟨fun all item there notice given => all notice ⟨item, there, given⟩,
    fun each notice ⟨item, there, given⟩ => each item there notice given⟩

/-- A group is silent where its children are and none of them has more than one branch. -/
theorem silent_compileChildren {c : Combinator} {children : List Value} :
    (compileChildren s depth c children).Silent ↔ ∀ child ∈ children,
      (compileAt s depth child).Silent ∧
        (branches (compileAt s depth child).value).length ≤ 1 := by
  have dropped : ∀ n, (c.dropNotice n).level = .warning := by cases c <;> intro n <;> rfl
  have kept (compiled : Value) :
      (∀ notice ∈ (c.reduce compiled).notices, notice.level ≠ .warning) ↔
        (branches compiled).length ≤ 1 := by
    rw [notices_reduce]
    split
    · next few => simp [few]
    · next many => simp [many, dropped]
  simp only [Logged.Silent, notices_compileChildren, List.mem_flatMap, List.mem_append, ← kept]
  constructor
  · intro all child there
    exact ⟨fun notice given => all notice ⟨child, there, Or.inl given⟩,
      fun notice given => all notice ⟨child, there, Or.inr given⟩⟩
  · rintro each notice ⟨child, there, given | given⟩
    · exact (each child there).1 notice given
    · exact (each child there).2 notice given

theorem silent_compileFields {path : Option String} {entries : List (Value × Value)}
    (noGroup : ∀ entry ∈ entries, isCombinatorKey entry.1 = false) :
    (compileFields s depth path entries).Silent ↔ ∀ entry ∈ entries,
      (convertAt s depth (fieldPath path entry.1) entry.2).Silent := by
  simp only [Logged.Silent, notices_compileFields, fieldsOf_of_plain noGroup, List.mem_flatMap]
  exact ⟨fun all entry there notice given => all notice ⟨entry, there, given⟩,
    fun each notice ⟨entry, there, given⟩ => each entry there notice given⟩

theorem silent_sequence {node : Value} {items : List Value}
    (sequence : node.members? = some items) (within : s.maxDepth.admits depth = true) :
    (compileAt s depth node).Silent ↔
      ∀ item ∈ items, (compileAt s (depth + 1) item).Silent := by
  rw [compileAt_of_members sequence within, silent_map, silent_compileEach]

theorem silent_group (c : Combinator) {children : Value} {items : List Value}
    (sequence : children.members? = some items) (within : s.maxDepth.admits depth = true) :
    (compileAt s depth (.map [(.text c.word, children)])).Silent ↔
      ∀ item ∈ items, (compileAt s (depth + 1) item).Silent ∧
        (branches (compileAt s (depth + 1) item).value).length ≤ 1 := by
  rw [compileAt_group c sequence within, silent_map, silent_compileChildren]

/-- A range is silent only where it is given by a pair. -/
theorem pair_of_silent_range {operand : Value} (silent : (Operator.range operand).Silent) :
    ∃ low high, operand.members? = some [low, high] := by
  unfold Operator.range at silent
  split at silent
  · next low high pair => exact ⟨low, high, pair⟩
  · exact absurd rfl (silent (.malformedRange operand) (by simp [Logged.give]))

/-- An operator object is silent only where a single operator can be applied. -/
theorem isSingleOperator_of_silent (warned : s.warnOnDiscarded = true) {path : Option String}
    {entries : List (Value × Value)} (object : isOperatorObject entries = true)
    (silent : (applyFirst s path entries).Silent) : IsSingleOperator entries := by
  match entries with
  | [] => simp [isOperatorObject] at object
  | (key, operand) :: second :: rest =>
    -- the second operator is reported as discarded
    refine absurd rfl (silent (.discardedOperators path key.label
      ((second :: rest).map fun entry => entry.1.label)) ?_)
    simp [applyFirst, warned, Logged.give]
  | [(key, operand)] =>
    refine ⟨key, operand, rfl, fun named => pair_of_silent_range fun notice given => ?_⟩
    have range : OperatorName.ofKey key = .known .between := by rw [named]; rfl
    exact silent notice (by simp [applyFirst, range, OperatorName.apply, Operator.apply, given])

/-! ## What silence adds -/

/-- A value of a field that is converted in silence has nothing that could be lost. -/
theorem RegularField.exact_of_silent (warned : s.warnOnDiscarded = true) {value : Value}
    (regular : RegularField s .lenient depth value) {path : Option String}
    (silent : (convertAt s depth path value).Silent) :
    RegularField s (.exact False) depth value := by
  induction regular generalizing path with
  | plain plain => exact .plain plain
  | operators object _ noMap =>
    rw [convertAt_operators object] at silent
    exact .operators object (isSingleOperator_of_silent warned object silent) noMap
  | beyond nested _ beyond =>
    rw [convertAt_of_beyond nested beyond] at silent
    exact absurd silent not_silent_passOver
  | nested nested within noGroup _ ih =>
    rw [convertAt_nested nested within, silent_map, silent_compileFields noGroup] at silent
    exact .nested nested within noGroup fun entry there => ih entry there (silent entry there)

/-- A regular filter that is compiled in silence has nothing that could be lost but branches. -/
theorem Regular.exact_of_silent (warned : s.warnOnDiscarded = true) {node : Value}
    (regular : Regular s .lenient depth node) (silent : (compileAt s depth node).Silent) :
    Regular s (.exact False) depth node := by
  induction regular with
  | null => exact .null
  | beyond container _ beyond =>
    rw [compileAt_of_beyond container beyond] at silent
    exact absurd silent not_silent_passOver
  | sequence sequence within _ ih =>
    rw [silent_sequence sequence within] at silent
    exact .sequence sequence within fun item there => ih item there (silent item there)
  | any sequence within filled _ ih =>
    rw [silent_group .any sequence within] at silent
    exact .any sequence within filled fun item there => ih item there (silent item there).1
  | all sequence within _ apart ih =>
    rw [silent_group .all sequence within] at silent
    exact .all sequence within (fun item there => ih item there (silent item there).1) apart
  | fields within noGroup each =>
    rw [compileAt_fields noGroup within, silent_map, silent_compileFields noGroup] at silent
    exact .fields within noGroup fun entry there =>
      (each entry there).exact_of_silent warned (silent entry there)

/-! ## What a row satisfies, it passes -/

/-- A row that passes the predicate of a filter without empty `OR` groups passes one of its
branches. -/
theorem exists_branch_of_passes {node : Value} (regular : Regular s (.exact False) depth node)
    (I : Reading Row) {row : Row} (passed : I.Passes (compileAt s depth node).value row) :
    ∃ branch ∈ branches (compileAt s depth node).value, I.BranchPasses branch row := by
  rcases I.passes_iff_branches.1 passed with ⟨none, -⟩ | found
  · exact (regular.mayBeEmpty none).elim
  · exact found

/-- A row that passes one of at most one branch passes every test that the child contributes
to an `AND` group. -/
theorem Reading.contribution_of_passes (I : Reading Row) {compiled branch : Value} {row : Row}
    (few : (branches compiled).length ≤ 1)
    (maps : ∀ branch ∈ branches compiled, branch.IsConjunction)
    (there : branch ∈ branches compiled) (passes : I.BranchPasses branch row) :
    ∀ test ∈ contribution compiled, I.TestPasses test.1 test.2 row := by
  -- the branch that is passed is the one that contributes, as there is no other
  have only : branches compiled = [branch] := by
    obtain ⟨single, shape⟩ := List.length_eq_one_iff.1
      (Nat.le_antisymm few (List.length_pos_of_mem there))
    rw [shape] at there ⊢
    rw [List.mem_singleton.1 there]
  have tests := (I.branchPasses_iff (maps branch there)).1 passes
  simpa [contribution, only] using tests

/-- A row that satisfies a filter passes its predicate, if no group dropped a branch. -/
theorem passes_compileAt_of_holds {node : Value} (regular : Regular s (.exact False) depth node)
    (silent : (compileAt s depth node).Silent) (I : Reading Row) (row : Row) :
    I.Holds node row → I.Passes (compileAt s depth node).value row := by
  induction regular with
  | null =>
    exact fun _ => by
      simp [compileAt, Value.emptyMap, Reading.Passes, Reading.BranchPasses, Reading.TestsPass]
  | beyond _ allowed _ => exact allowed.elim
  | @sequence depth node items sequence within each ih =>
    intro holds
    have quiet := (silent_sequence sequence within).1 silent
    rcases (I.holds_of_members sequence).1 holds with rfl | ⟨item, there, held⟩
    · rw [compileAt_of_members sequence within]
      simp [compileEach, disjunction, Value.emptyMap, Reading.Passes, Reading.BranchPasses,
        Reading.TestsPass]
    · obtain ⟨branch, among, passes⟩ :=
        exists_branch_of_passes (each item there) I (ih item there (quiet item there) held)
      have union := branches_sequence sequence within (List.ne_nil_of_mem there)
        fun item there => (each item there).isConjunction
      have spliced : branch ∈ branches (compileAt s depth node).value := by
        rw [union]
        exact List.mem_flatMap.2 ⟨item, there, among⟩
      exact I.passes_of_branch spliced passes
  | @any depth children items sequence within filled each ih =>
    intro holds
    rw [silent_group .any sequence within] at silent
    rw [value_compileAt_any sequence within]
    rcases (I.holds_any sequence).1 holds with ⟨empty, -⟩ | ⟨item, there, held⟩
    · -- an empty `OR` group is excluded
      exact (filled empty).elim
    · obtain ⟨branch, among, passes⟩ :=
        exists_branch_of_passes (each item there) I (ih item there (silent item there).1 held)
      -- the child has this branch only, so the group has kept it
      have kept := List.take_of_length_le (silent item there).2
      exact Or.inr ⟨branch, List.mem_flatMap.2 ⟨item, there, kept.symm ▸ among⟩, passes⟩
  | @all depth children items sequence within each apart ih =>
    intro holds
    rw [silent_group .all sequence within] at silent
    rw [value_compileAt_all sequence within apart]
    refine I.testsPass_iff.2 fun test among => ?_
    -- every test of the group was contributed by one of its children
    obtain ⟨item, there, contributed⟩ := List.mem_flatMap.1 among
    have held := (I.holds_all sequence).1 holds item there
    obtain ⟨branch, here, passes⟩ :=
      exists_branch_of_passes (each item there) I (ih item there (silent item there).1 held)
    exact I.contribution_of_passes (silent item there).2 (each item there).isConjunction here
      passes test contributed
  | @fields depth entries within noGroup each =>
    intro holds
    rw [value_compileAt_fields noGroup within]
    refine I.testsPass_iff.2 fun test among => ?_
    obtain ⟨entry, there, rfl⟩ := List.mem_map.1 among
    rw [testPasses_convertAt (each entry there)]
    exact (I.holds_fields noGroup).1 holds entry there

/-- A regular filter that is compiled without a warning keeps its meaning: the rows that pass
its predicate are those that satisfy it. -/
theorem passes_compile_iff_of_silent (warned : s.warnOnDiscarded = true) {node : Value}
    (regular : Regular s .lenient 0 node) (silent : (compile s node).Silent)
    (I : Reading Row) (row : Row) :
    I.Passes (compile s node).value row ↔ I.Holds node row := by
  have exact : Regular s (.exact False) 0 node := regular.exact_of_silent warned silent
  exact ⟨holds_of_passes_compileAt exact I False.elim row,
    passes_compileAt_of_holds exact silent I row⟩

/-- Groups and lists in one another, of which none drops a branch. -/
def faithful : Value :=
  .map [(.text "OR", .list
    [.map [(.text "AND", .list
      [single "status" .eq (.text "ACTIVE"),
       .list [.map [(.text "customer", single "name" .like (.text "Sm%"))]]])],
     single "total" .gt (.int 5)])]

theorem passes_compile_iff_faithful :
    Regular .standard .lenient 0 faithful ∧ (compile .standard faithful).Silent ∧
      ∀ row, Reading.listed.Passes (compile .standard faithful).value row ↔
        Reading.listed.Holds faithful row := by
  have regular : Regular .standard .lenient 0 faithful := by
    have customer : Regular .standard .lenient 3
        (.map [(.text "customer", single "name" .like (.text "Sm%"))]) := by
      refine .fields rfl (by decide) (List.forall_mem_singleton.2 ?_)
      refine .nested (by decide) rfl (by decide) (List.forall_mem_singleton.2 ?_)
      exact .operators (by decide) trivial (by decide)
    refine .anyList rfl (by simp) (List.forall_mem_cons.2 ⟨?_, List.forall_mem_singleton.2 ?_⟩)
    · refine .allList rfl (List.forall_mem_cons.2 ⟨?_, List.forall_mem_singleton.2 ?_⟩)
        (by unfold Ordered.Distinct; decide)
      · exact .single rfl (by decide) trivial rfl
      · exact .list rfl (List.forall_mem_singleton.2 customer)
    · exact .single rfl (by decide) trivial rfl
  have silent : (compile .standard faithful).Silent := by unfold Logged.Silent; decide
  exact ⟨regular, silent, passes_compile_iff_of_silent rfl regular silent Reading.listed⟩

end Filter

end ListQuery
