import ListQuery.Proofs.Filter.Assembly
import Mathlib.Data.List.Basic
import Mathlib.Logic.Relation

/-!
# The algebra of `AND` groups

The children of an `AND` group write what they contribute into one map, one child after the other.
So of all children that contribute a key the last decides on the test, and the first on the place of
the key. It makes no difference whether the children of an `AND` group inside the group write by
themselves first, or directly among the others: groups may be inlined, at any position and again in
the result, as long as nothing lies beyond the depth bound. And to compile a map of fields is to
write its fields one by one.

## Main definitions

* `conjoined` is what children of an `AND` group compile to together.
* `Inlines` replaces an `AND` group among such children, or deeper in them, by its own children.

## Main results

* `value_conjoined`: a conjunction is written by the contributions of its children.
* `Inlines.conjoined_eq`: an inlined group changes nothing.
* `conjoined_singles`: a map of fields is the conjunction of its fields.
* `compileAt_conjunction` puts these together.
-/

namespace ListQuery

namespace Filter

variable {s : Settings} {depth : Nat} {entries : List (Value × Value)}
  {children others : List Value}

/-- What children that stand at a level compile to as an `AND` group. -/
def conjoined (s : Settings) (depth : Nat) (children : List Value) : Logged Value :=
  Combinator.all.join <$> compileChildren s depth .all children

theorem compileAt_all (group : groupOf? entries = some (.all, children))
    (within : s.maxDepth.admits depth = true) :
    compileAt s depth (.map entries) = conjoined s (depth + 1) children := by
  rw [compileAt_map within, group]
  rfl

/-- A conjunction is written by the contributions of its children. -/
theorem value_conjoined (children : List Value) : (conjoined s depth children).value =
    .map (Ordered.ofEntries (children.flatMap fun child =>
      contribution (compileAt s depth child).value)) := by
  rw [conjoined, Logged.value_map, value_compileChildren, join_all, List.flatMap_assoc]
  simp only [value_reduce, contribution]

theorem notices_conjoined (children : List Value) : (conjoined s depth children).notices =
    children.flatMap fun child => (compileAt s depth child).notices ++
      (Combinator.all.reduce (compileAt s depth child).value).notices := by
  rw [conjoined, Logged.notices_map, notices_compileChildren]

theorem conjoined_congr {low high : Nat}
    (same : ∀ child ∈ children, compileAt s low child = compileAt s high child) :
    conjoined s low children = conjoined s high children := by
  rw [conjoined, compileChildren_congr .all same, conjoined]

/-! ## The last child decides -/

/-- The last child that contributes a key to an `AND` group decides on the test under it. -/
theorem find?_conjoined (keyed : ∀ child ∈ children, child.Keyed) (key : Value) :
    Ordered.find? key (testsOf (conjoined s depth children).value) =
      children.reverse.findSome? fun child =>
        Ordered.find? key (contribution (compileAt s depth child).value) := by
  rw [value_conjoined]
  refine Ordered.find?_ofEntries_flatMap (fun child there => ?_) key
  exact (testsApart_compileAt (keyed child there)).distinct_contribution

/-- The keys of an `AND` group stand in the order in which they were first contributed. -/
theorem keys_conjoined (children : List Value) :
    Ordered.keys (testsOf (conjoined s depth children).value) =
      Ordered.firstOccurrences (children.flatMap fun child =>
        Ordered.keys (contribution (compileAt s depth child).value)) := by
  rw [value_conjoined]
  refine (Ordered.keys_ofEntries _).trans ?_
  rw [Ordered.keys, List.map_flatMap]
  rfl

/-! ## Inlining -/

/-- Among the children of an `AND` group, a map that stands for another one is replaced by the
children of that; or this is done among the children of the other one. -/
inductive Inlines : List Value → List Value → Prop
  | inline (before after : List Value) {entries : List (Value × Value)} {children : List Value}
      (group : groupOf? entries = some (.all, children)) :
      Inlines (before ++ .map entries :: after) (before ++ children ++ after)
  | deeper (before after : List Value) {entries inlined : List (Value × Value)}
      {children others : List Value} (group : groupOf? entries = some (.all, children))
      (same : groupOf? inlined = some (.all, others)) (inlines : Inlines children others) :
      Inlines (before ++ .map entries :: after) (before ++ .map inlined :: after)

/-- A map that stands for an `AND` group of children within the bound may be replaced by these. -/
theorem conjoined_inline (before after : List Value)
    (group : groupOf? entries = some (.all, children))
    (admitted : Admitted s depth (.map entries)) :
    (∀ child ∈ children, Admitted s depth child) ∧
      conjoined s depth (before ++ children ++ after) =
        conjoined s depth (before ++ .map entries :: after) := by
  obtain ⟨within, each⟩ := (admitted_group group).1 admitted
  have above (child : Value) (there : child ∈ children) :=
    (each child there).above (Nat.le_succ depth)
  -- the group stands for its children, one level below the place where these are moved to
  have same : compileAt s depth (.map entries) = conjoined s depth children := by
    rw [compileAt_all group within]
    exact (conjoined_congr fun child there => (above child there).2).symm
  refine ⟨fun child there => (above child there).1, ?_⟩
  ext : 1
  · have written : contribution (conjoined s depth children).value =
        Ordered.ofEntries (children.flatMap fun child =>
          contribution (compileAt s depth child).value) := by
      rw [value_conjoined, contribution, branches_map]
      exact List.append_nil _
    rw [value_conjoined, value_conjoined]
    simp only [List.flatMap_append, List.flatMap_cons, same, written]
    rw [← List.append_assoc, Ordered.ofEntries_flatten]
  · have quiet : (Combinator.all.reduce (conjoined s depth children).value).notices = [] := by
      rw [value_conjoined]
      rfl
    simp only [notices_conjoined, List.flatMap_append, List.flatMap_cons, same, quiet,
      List.append_nil, List.append_assoc]

/-- `AND` groups within the bound that are inlined change neither the conjunction nor the notices,
and what is inlined is within the bound as well. -/
theorem Inlines.conjoined_eq (inlines : Inlines children others)
    (admitted : ∀ child ∈ children, Admitted s depth child) :
    (∀ other ∈ others, Admitted s depth other) ∧
      conjoined s depth others = conjoined s depth children := by
  induction inlines generalizing depth with
  | inline before after group =>
    simp only [List.forall_mem_append, List.forall_mem_cons] at admitted ⊢
    obtain ⟨first, middle, last⟩ := admitted
    obtain ⟨moved, same⟩ := conjoined_inline before after group middle
    exact ⟨⟨⟨first, moved⟩, last⟩, same⟩
  | @deeper before after entries inlined children others group group' _ ih =>
    simp only [List.forall_mem_append, List.forall_mem_cons] at admitted ⊢
    obtain ⟨first, middle, last⟩ := admitted
    obtain ⟨within, each⟩ := (admitted_group group).1 middle
    obtain ⟨still, same⟩ := ih each
    refine ⟨⟨first, (admitted_group group').2 ⟨within, still⟩, last⟩, ?_⟩
    have replaced : compileAt s depth (.map inlined) = compileAt s depth (.map entries) := by
      rw [compileAt_all group' within, same, compileAt_all group within]
    ext : 1
    · simp only [value_conjoined, List.flatMap_append, List.flatMap_cons, replaced]
    · simp only [notices_conjoined, List.flatMap_append, List.flatMap_cons, replaced]

/-- Inlining `AND` groups again and again changes nothing. -/
theorem conjoined_of_reflTransGen (inlines : Relation.ReflTransGen Inlines children others)
    (admitted : ∀ child ∈ children, Admitted s depth child) :
    (∀ other ∈ others, Admitted s depth other) ∧
      conjoined s depth others = conjoined s depth children := by
  induction inlines with
  | refl => exact ⟨admitted, rfl⟩
  | tail _ step ih =>
    obtain ⟨still, same⟩ := ih
    obtain ⟨next, again⟩ := step.conjoined_eq still
    exact ⟨next, again.trans same⟩

/-! ## Fields one by one -/

/-- The conjunction of maps of one field each is the map of all the fields, one level above. -/
theorem conjoined_singles {fields : List (Value × Value)} (distinct : Ordered.Distinct fields)
    (plain : ∀ field ∈ fields, isCombinatorKey field.1 = false)
    (admitted : ∀ field ∈ fields, Admitted s (depth + 1) (.map [field])) :
    conjoined s (depth + 1) (fields.map fun field => .map [field]) =
      Value.map <$> compileFields s depth none fields := by
  have single (field : Value × Value) (there : field ∈ fields) :
      compileAt s (depth + 1) (.map [field]) =
        ⟨.map [(field.1, (convertAt s depth (fieldPath none field.1) field.2).value)],
          (convertAt s depth (fieldPath none field.1) field.2).notices⟩ := by
    have alone : ∀ entry ∈ [field], isCombinatorKey entry.1 = false :=
      List.forall_mem_singleton.2 (plain field there)
    obtain ⟨within, each⟩ :=
      (admitted_fields (groupOf?_of_plain alone)).1 (admitted field there)
    rw [fieldsOf_of_plain alone, List.forall_mem_singleton] at each
    have above := (each.above (Nat.le_succ depth)).2
    rw [compileAt_fields alone within]
    ext : 1
    · rw [Logged.value_map, value_compileFields, fieldsOf_of_plain alone, List.map_singleton,
        above]
    · rw [Logged.notices_map, notices_compileFields, fieldsOf_of_plain alone,
        List.flatMap_singleton, above]
  ext : 1
  · have written : (fields.map fun field => Value.map [field]).flatMap (fun child =>
        contribution (compileAt s (depth + 1) child).value) =
          (compileFields s depth none fields).value := by
      rw [value_compileFields, fieldsOf_of_plain plain, List.flatMap_map, List.map_eq_flatMap]
      refine List.flatMap_congr fun field there => ?_
      rw [single field there]
      rfl
    rw [value_conjoined, written, Ordered.ofEntries_of_distinct (distinct_compileFields distinct _),
      Logged.value_map]
  · rw [notices_conjoined, Logged.notices_map, notices_compileFields, fieldsOf_of_plain plain,
      List.flatMap_map]
    refine List.flatMap_congr fun field there => ?_
    rw [single field there]
    exact List.append_nil _

/-! ## All together -/

/-- `AND` groups within the bound. The last child that contributes a key decides on the test under
it, and keys stand in the order in which they were first contributed. It changes nothing to inline
an `AND` group that is a child, at any position and again and again, and a map of fields compiles to
the same as the `AND` group of its single fields. -/
theorem compileAt_conjunction (group : groupOf? entries = some (.all, children))
    (keyed : (Value.map entries).Keyed) (admitted : Admitted s depth (.map entries)) :
    (∃ tests, (compileAt s depth (.map entries)).value = .map tests ∧
      (∀ key, Ordered.find? key tests = children.reverse.findSome? fun child =>
        Ordered.find? key (contribution (compileAt s (depth + 1) child).value)) ∧
      Ordered.keys tests = Ordered.firstOccurrences (children.flatMap fun child =>
        Ordered.keys (contribution (compileAt s (depth + 1) child).value))) ∧
    (∀ others inlined, Relation.ReflTransGen Inlines children others →
      groupOf? inlined = some (.all, others) →
        compileAt s depth (.map inlined) = compileAt s depth (.map entries)) ∧
    (∀ fields, Ordered.Distinct fields → (∀ field ∈ fields, isCombinatorKey field.1 = false) →
      children = (fields.map fun field => .map [field]) →
        compileAt s depth (.map fields) = compileAt s depth (.map entries)) := by
  obtain ⟨within, each⟩ := (admitted_group group).1 admitted
  have whole := compileAt_all group within
  refine ⟨?_, ?_, ?_⟩
  · have keyedChildren (child : Value) (there : child ∈ children) : child.Keyed :=
      keyed.of_occurs (.of_inside (inside_of_groupOf group there))
    refine ⟨testsOf (conjoined s (depth + 1) children).value, ?_, find?_conjoined keyedChildren,
      keys_conjoined children⟩
    rw [whole, value_conjoined]
    rfl
  · intro others inlined steps standing
    rw [compileAt_all standing within, whole]
    exact (conjoined_of_reflTransGen steps each).2
  · intro fields distinct plain singles
    subst singles
    rw [compileAt_fields plain within, whole, conjoined_singles distinct plain]
    exact fun field there => each _ (List.mem_map_of_mem there)

/-- An `AND` group with another one in it, and a third one in that. -/
def nestedGroups : List (Value × Value) :=
  [(.text "AND", .list [single "stars" .gt (.int 1),
    .map [(.text "AND", .list [single "id" .eq (.int 2),
      .map [(.text "AND", .list [single "stars" .lt (.int 9)])]])],
    .list [single "id" .ne (.int 3), single "title" .eq (.text "a")]])]

/-- The same children in a single group. -/
def inlinedGroups : List (Value × Value) :=
  [(.text "AND", .list [single "stars" .gt (.int 1), single "id" .eq (.int 2),
    single "stars" .lt (.int 9), .list [single "id" .ne (.int 3), single "title" .eq (.text "a")]])]

/-- A map of two fields. -/
def bothFields : List (Value × Value) :=
  [(.text "stars", .map [(.text "gt", .int 1)]), (.text "id", .map [(.text "ne", .int 3)])]

/-- The same fields in an `AND` group, each in a map of its own. -/
def separateFields : List (Value × Value) :=
  [(.text "AND", .list (bothFields.map fun field => .map [field]))]

/-- Of the two tests on stars the later one is kept, in the place of the earlier one. -/
theorem compileAt_conjunction_nestedGroups :
    compile .standard (.map inlinedGroups) = compile .standard (.map nestedGroups) ∧
      (∃ tests, (compile .standard (.map nestedGroups)).value = .map tests ∧
        Ordered.find? (.text "stars") tests = some (.test .lessThan (.int 9)) ∧
        Ordered.keys tests = [.text "stars", .text "id"]) ∧
      compile .standard (.map bothFields) = compile .standard (.map separateFields) := by
  have keyed : (Value.map nestedGroups).Keyed := by
    simp [nestedGroups, single, Ordered.Distinct, Ordered.keys]
  have admitted : Admitted .standard 0 (.map nestedGroups) := by
    refine (admitted_group rfl).2 ⟨rfl, ?_⟩
    simp only [List.forall_mem_cons]
    refine ⟨admitted_single rfl _ _ _, (admitted_group rfl).2 ⟨rfl, ?_⟩,
      (admitted_of_members rfl).2 ⟨rfl, ?_⟩, List.forall_mem_nil _⟩
    · simp only [List.forall_mem_cons]
      refine ⟨admitted_single rfl _ _ _, (admitted_group rfl).2 ⟨rfl, ?_⟩, List.forall_mem_nil _⟩
      exact List.forall_mem_singleton.2 (admitted_single rfl _ _ _)
    · simp only [List.forall_mem_cons]
      exact ⟨admitted_single rfl _ _ _, admitted_single rfl _ _ _, List.forall_mem_nil _⟩
  -- the group in the middle is inlined, and then the one that comes to stand before the last child
  have steps (first second third last : Value) : Relation.ReflTransGen Inlines
      [first, .map [(.text "AND", .list [second, .map [(.text "AND", .list [third])]])], last]
      [first, second, third, last] :=
    .tail (.single (@Inlines.inline [first] [last] _ [second, _] rfl))
      (@Inlines.inline [first, second] [last] _ [third] rfl)
  obtain ⟨⟨tests, value, found, keys⟩, inlining, -⟩ := compileAt_conjunction rfl keyed admitted
  have keyed' : (Value.map separateFields).Keyed := by
    simp [separateFields, bothFields, Ordered.Distinct, Ordered.keys]
  have admitted' : Admitted .standard 0 (.map separateFields) := by
    refine (admitted_group rfl).2 ⟨rfl, ?_⟩
    simp only [bothFields, List.map_cons, List.map_nil, List.forall_mem_cons]
    exact ⟨admitted_single rfl "stars" .gt (.int 1), admitted_single rfl "id" .ne (.int 3),
      List.forall_mem_nil _⟩
  obtain ⟨-, -, together⟩ := compileAt_conjunction rfl keyed' admitted'
  refine ⟨inlining _ inlinedGroups (steps _ _ _ _) rfl,
    ⟨tests, value, found (.text "stars"), keys⟩, together bothFields ?_ ?_ rfl⟩
  · simp [bothFields, Ordered.Distinct, Ordered.keys]
  · simp only [bothFields, List.forall_mem_cons]
    exact ⟨rfl, rfl, List.forall_mem_nil _⟩

end Filter

end ListQuery
