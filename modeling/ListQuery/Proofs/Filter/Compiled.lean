import ListQuery.Filter.Compile

/-!
# Compiling, node by node

What compiling makes of a node is told by what it makes of the children, in their order:
values and notices of a sequence are those of its items, one after the other. A compiled
predicate is seen through its branches, of which a conjunction has one, and a group is
told by the branches of its children.

## Main definitions

* `Value.IsConjunction` holds of maps, the only branches that a store understands.
* `childrenOf?` are the children under the word of a combinator, `groupOf?` is the group that a
  map stands for.
* `contribution` is what a compiled child adds to an `AND` group.

## Main results

* `compileAt_of_members`, `compileAt_group` and `compileAt_fields` say what a node within
  the bound compiles to, `compileAt_of_beyond` what becomes of one beyond it;
  `compileAt_map` is for any map within the bound.
* `branches_disjunction`, `value_reduce` and `join_all` say what the three ways of putting
  children together do to branches.
-/

namespace ListQuery

/-- Conjunctions are maps of tests. -/
def Value.IsConjunction (value : Value) : Prop := ∃ tests, value = .map tests

namespace Filter

open disjunction (branches)

variable {s : Settings} {depth : Nat}

/-! ## Sequences of children -/

theorem value_compileEach (items : List Value) :
    (compileEach s depth items).value = items.map fun item => (compileAt s depth item).value := by
  induction items with
  | nil => simp [compileEach]
  | cons item rest ih => simp [compileEach, ih]

theorem notices_compileEach (items : List Value) :
    (compileEach s depth items).notices =
      items.flatMap fun item => (compileAt s depth item).notices := by
  induction items with
  | nil => simp [compileEach]
  | cons item rest ih => simp [compileEach, ih]

theorem value_compileChildren (c : Combinator) (children : List Value) :
    (compileChildren s depth c children).value =
      children.flatMap fun child => (c.reduce (compileAt s depth child).value).value := by
  induction children with
  | nil => simp [compileChildren]
  | cons child rest ih => simp [compileChildren, ih]

theorem notices_compileChildren (c : Combinator) (children : List Value) :
    (compileChildren s depth c children).notices = children.flatMap fun child =>
      (compileAt s depth child).notices ++
        (c.reduce (compileAt s depth child).value).notices := by
  induction children with
  | nil => simp [compileChildren]
  | cons child rest ih => simp [compileChildren, ih]

/-- The fields of a map of fields: its entries but for those under the words of
combinators. -/
def fieldsOf (entries : List (Value × Value)) : List (Value × Value) :=
  entries.filter fun entry => !isCombinatorKey entry.1

theorem fieldsOf_cons (entry : Value × Value) (rest : List (Value × Value)) :
    fieldsOf (entry :: rest) =
      if isCombinatorKey entry.1 then fieldsOf rest else entry :: fieldsOf rest := by
  cases word : isCombinatorKey entry.1 <;> simp [fieldsOf, word]

theorem fieldsOf_of_plain {entries : List (Value × Value)}
    (plain : ∀ entry ∈ entries, isCombinatorKey entry.1 = false) :
    fieldsOf entries = entries :=
  List.filter_eq_self.2 fun entry there => by simp [plain entry there]

theorem value_compileFields (path : Option String) (entries : List (Value × Value)) :
    (compileFields s depth path entries).value = (fieldsOf entries).map fun entry =>
      (entry.1, (convertAt s depth (fieldPath path entry.1) entry.2).value) := by
  induction entries with
  | nil => simp [compileFields, fieldsOf]
  | cons entry rest ih =>
    obtain ⟨key, value⟩ := entry
    -- under the word of a combinator nothing is added on either side
    cases word : isCombinatorKey key <;> simp_all [compileFields, fieldsOf]

theorem notices_compileFields (path : Option String) (entries : List (Value × Value)) :
    (compileFields s depth path entries).notices = (fieldsOf entries).flatMap fun entry =>
      (convertAt s depth (fieldPath path entry.1) entry.2).notices := by
  induction entries with
  | nil => simp [compileFields, fieldsOf]
  | cons entry rest ih =>
    obtain ⟨key, value⟩ := entry
    -- under the word of a combinator nothing is added on either side
    cases word : isCombinatorKey key <;> simp_all [compileFields, fieldsOf]

/-! ## Nodes -/

/-- A container beyond the bound is reported and left as it is. -/
theorem compileAt_of_beyond {node : Value} (container : node.members?.isSome ∨ node.entries?.isSome)
    (beyond : s.maxDepth.admits depth = false) : compileAt s depth node = s.passOver node := by
  cases node <;> simp_all [compileAt, Value.members?, Value.entries?]

theorem compileAt_sequence {node : Value} {items : List Value}
    (members : node.members? = some items) : compileAt s depth node =
      if s.maxDepth.admits depth then disjunction <$> compileEach s (depth + 1) items
      else s.passOver node := by
  cases node <;> cases members <;> rw [compileAt]

/-- A sequence compiles to the disjunction of its compiled items. -/
theorem compileAt_of_members {node : Value} {items : List Value}
    (sequence : node.members? = some items) (within : s.maxDepth.admits depth = true) :
    compileAt s depth node = disjunction <$> compileEach s (depth + 1) items := by
  rw [compileAt_sequence sequence, if_pos within]

/-- A map with nothing but a group compiles to the joined contributions of its children. -/
theorem compileAt_group (c : Combinator) {children : Value} {items : List Value}
    (sequence : children.members? = some items) (within : s.maxDepth.admits depth = true) :
    compileAt s depth (.map [(.text c.word, children)]) =
      c.join <$> compileChildren s (depth + 1) c items := by
  -- an `AND` group is only looked for after an `OR` group was not found
  have apart : Combinator.all.word ≠ Combinator.any.word := by decide
  cases c <;> cases children <;> simp_all [compileAt, compileGroup, Value.members?]

/-- The children under the word of a combinator: the first entry under the word decides, and has
to hold a sequence. -/
def childrenOf? (c : Combinator) (entries : List (Value × Value)) : Option (List Value) :=
  (entries.find? fun entry => entry.1 = .text c.word).bind fun entry => entry.2.members?

theorem childrenOf?_cons (c : Combinator) (key value : Value) (rest : List (Value × Value)) :
    childrenOf? c ((key, value) :: rest) =
      if key = .text c.word then value.members? else childrenOf? c rest := by
  by_cases word : key = .text c.word <;> simp [childrenOf?, word]

/-- The group that a map stands for: its `OR` group, or else its `AND` group. -/
def groupOf? (entries : List (Value × Value)) : Option (Combinator × List Value) :=
  ((childrenOf? .any entries).map (.any, ·)).or ((childrenOf? .all entries).map (.all, ·))

theorem groupOf?_of_plain {entries : List (Value × Value)}
    (plain : ∀ entry ∈ entries, isCombinatorKey entry.1 = false) : groupOf? entries = none := by
  have missing (c : Combinator) : childrenOf? c entries = none := by
    have noWord : entries.find? (fun entry => entry.1 = .text c.word) = none := by
      rw [List.find?_eq_none]
      intro entry there word
      have apart := plain entry there
      cases c <;> simp_all [isCombinatorKey]
    rw [childrenOf?, noWord]
    rfl
  rw [groupOf?, missing, missing]
  rfl

theorem compileGroup_eq (c : Combinator) (entries : List (Value × Value)) :
    compileGroup s depth c entries = (childrenOf? c entries).map fun items =>
      c.join <$> compileChildren s (depth + 1) c items := by
  induction entries with
  | nil => rw [compileGroup]; rfl
  | cons entry rest ih =>
    obtain ⟨key, value⟩ := entry
    rw [childrenOf?_cons]
    split
    · next word => cases value <;> simp [compileGroup, word, Value.members?]
    · next other =>
      rw [← ih]
      cases value <;> simp [compileGroup, other]

/-- A map within the bound compiles to the group that it stands for, or else to the conjunction
of its converted fields. -/
theorem compileAt_map {entries : List (Value × Value)}
    (within : s.maxDepth.admits depth = true) :
    compileAt s depth (.map entries) =
      match groupOf? entries with
      | some (c, items) => c.join <$> compileChildren s (depth + 1) c items
      | none => Value.map <$> compileFields s depth none entries := by
  rw [compileAt, if_pos within, compileGroup_eq, compileGroup_eq, groupOf?]
  cases childrenOf? .any entries with
  | some items => rfl
  | none =>
    cases childrenOf? .all entries with
    | some items => rfl
    | none => rfl

/-- A map without groups compiles to the conjunction of its converted fields. -/
theorem compileAt_fields {entries : List (Value × Value)}
    (plain : ∀ entry ∈ entries, isCombinatorKey entry.1 = false)
    (within : s.maxDepth.admits depth = true) :
    compileAt s depth (.map entries) = Value.map <$> compileFields s depth none entries := by
  rw [compileAt_map within, groupOf?_of_plain plain]

theorem compileAt_entries (entries : List (Value × Value)) : compileAt s depth (.map entries) =
      if s.maxDepth.admits depth then
        match groupOf? entries with
        | some (c, items) => c.join <$> compileChildren s (depth + 1) c items
        | none => Value.map <$> compileFields s depth none entries
      else s.passOver (.map entries) := by
  split
  · next within => exact compileAt_map within
  · next beyond => exact compileAt_of_beyond (Or.inr rfl) (Bool.eq_false_iff.2 beyond)

theorem mem_of_childrenOf {c : Combinator} {entries : List (Value × Value)} {items : List Value}
    (found : childrenOf? c entries = some items) :
    ∃ children, (.text c.word, children) ∈ entries ∧ children.members? = some items := by
  obtain ⟨⟨key, children⟩, first, sequence⟩ := Option.bind_eq_some_iff.1 found
  have word : key = .text c.word := by simpa using List.find?_some first
  subst word
  exact ⟨children, List.mem_of_find?_eq_some first, sequence⟩

/-- A map within the bound compiles to one of its groups, or to the conjunction of its converted
fields. -/
theorem compileAt_map_cases (entries : List (Value × Value))
    (within : s.maxDepth.admits depth = true) :
    (∃ c children items, (.text (Combinator.word c), children) ∈ entries ∧
      children.members? = some items ∧ compileAt s depth (.map entries) =
        c.join <$> compileChildren s (depth + 1) c items) ∨
      compileAt s depth (.map entries) = Value.map <$> compileFields s depth none entries := by
  rw [compileAt_map within, groupOf?]
  cases any : childrenOf? .any entries with
  | some items =>
    obtain ⟨children, there, sequence⟩ := mem_of_childrenOf any
    exact Or.inl ⟨.any, children, items, there, sequence, rfl⟩
  | none =>
    cases all : childrenOf? .all entries with
    | some items =>
      obtain ⟨children, there, sequence⟩ := mem_of_childrenOf all
      exact Or.inl ⟨.all, children, items, there, sequence, rfl⟩
    | none => exact Or.inr rfl

/-! ## Values of fields -/

theorem convertAt_of_plain {value : Value} (plain : value.entries? = none)
    (path : Option String) : convertAt s depth path value = pure value := by
  cases value with
  | map entries => simp [Value.entries?] at plain
  | _ => simp [convertAt]

theorem convertAt_operators {entries : List (Value × Value)}
    (object : isOperatorObject entries = true) (path : Option String) :
    convertAt s depth path (.map entries) = applyFirst s path entries := by
  simp [convertAt, object]

/-- The first operator of an operator object is applied, whatever follows it. -/
theorem value_applyFirst (path : Option String) (key operand : Value)
    (others : List (Value × Value)) : (applyFirst s path ((key, operand) :: others)).value =
      ((OperatorName.ofKey key).apply operand).value := by
  rw [applyFirst]
  split <;> rfl

theorem convertAt_nested {entries : List (Value × Value)}
    (nested : isOperatorObject entries = false) (within : s.maxDepth.admits (depth + 1) = true)
    (path : Option String) : convertAt s depth path (.map entries) =
      Value.map <$> compileFields s (depth + 1) path entries := by
  simp [convertAt, nested, within]

theorem convertAt_of_beyond {entries : List (Value × Value)}
    (nested : isOperatorObject entries = false)
    (beyond : s.maxDepth.admits (depth + 1) = false) (path : Option String) :
    convertAt s depth path (.map entries) = s.passOver (.map entries) := by
  simp [convertAt, nested, beyond]

/-! ## Branches -/

@[simp] theorem branches_list (items : List Value) : branches (.list items) = items := rfl

@[simp] theorem branches_map (tests : List (Value × Value)) :
    branches (.map tests) = [.map tests] := rfl

/-- A conjunction is its own and only branch. -/
theorem branches_of_isConjunction {value : Value} (map : value.IsConjunction) :
    branches value = [value] := by
  obtain ⟨tests, rfl⟩ := map
  exact branches_map tests

/-- A disjunction has the branches of all its parts, unless it has no parts, where no branch has
branches of its own. -/
theorem branches_disjunction {compiled : List Value} (filled : compiled ≠ [])
    (flat : ∀ branch ∈ compiled.flatMap branches, branches branch = [branch]) :
    branches (disjunction compiled) = compiled.flatMap branches := by
  unfold disjunction
  split
  · next none => simp [filled, none]
  · next branch single =>
    -- the single branch stands for itself
    rw [single]
    exact flat branch (by simp [single])
  · next => rfl

/-- What holds of the branches of all children holds of the branches of their disjunction, where
it holds of conjunctions only, the empty one among them. -/
theorem forall_branches_disjunction {p : Value → Prop}
    (conjunction : ∀ branch, p branch → branch.IsConjunction) (empty : p Value.emptyMap)
    {compiled : List Value} (each : ∀ item ∈ compiled, ∀ branch ∈ branches item, p branch) :
    ∀ branch ∈ branches (disjunction compiled), p branch := by
  intro branch there
  cases compiled with
  | nil => rwa [List.mem_singleton.1 (show branch ∈ [Value.emptyMap] from there)]
  | cons first rest =>
    have spliced : ∀ branch ∈ (first :: rest).flatMap branches, p branch := by
      intro branch there
      obtain ⟨item, among, here⟩ := List.mem_flatMap.1 there
      exact each item among branch here
    rw [branches_disjunction (List.cons_ne_nil _ _) fun branch there =>
      branches_of_isConjunction (conjunction branch (spliced branch there))] at there
    exact spliced branch there

/-- A group takes at most one branch from a child. -/
theorem value_reduce (c : Combinator) (compiled : Value) :
    (c.reduce compiled).value = (branches compiled).take 1 := by
  -- only a list has more or fewer branches than one
  cases compiled with
  | list items => rcases items with _ | ⟨first, _ | ⟨second, rest⟩⟩ <;> rfl
  | _ => rfl

/-- A group joins the first branches of its children. -/
theorem value_group (c : Combinator) (children : List Value) :
    (c.join <$> compileChildren s depth c children).value =
      c.join ((children.map fun child => (compileAt s depth child).value).flatMap fun compiled =>
        (branches compiled).take 1) := by
  rw [Logged.value_map, value_compileChildren, List.flatMap_map]
  simp only [value_reduce]

/-- A group reports how many branches of a child it drops. -/
theorem notices_reduce (c : Combinator) (compiled : Value) :
    (c.reduce compiled).notices = if (branches compiled).length ≤ 1 then []
      else [c.dropNotice ((branches compiled).length - 1)] := by
  cases compiled with
  | list items => rcases items with _ | ⟨first, _ | ⟨second, rest⟩⟩ <;> rfl
  | _ => rfl

theorem exists_dropNotice_of_mem_reduce (c : Combinator) (compiled : Value) :
    ∀ notice ∈ (c.reduce compiled).notices, ∃ dropped, notice = c.dropNotice dropped := by
  rw [notices_reduce]
  split
  · exact List.forall_mem_nil _
  · exact List.forall_mem_singleton.2 ⟨_, rfl⟩

/-- The tests of a conjunction; anything else has none. -/
def testsOf (value : Value) : List (Value × Value) := value.entries?.getD []

/-- What a compiled child adds to a conjunction: the tests of its first branch. -/
def contribution (compiled : Value) : List (Value × Value) :=
  ((branches compiled).take 1).flatMap testsOf

/-- A conjunction of parts has the tests of all of them, where a test that comes again takes
the place of the earlier one. -/
theorem join_all (parts : List Value) :
    Combinator.all.join parts = .map (Ordered.ofEntries (parts.flatMap testsOf)) := by
  -- generalized over the tests that were conjoined before
  have merged : ∀ tests : List (Value × Value),
      parts.foldl Combinator.conjoin tests = Ordered.merge tests (parts.flatMap testsOf) := by
    induction parts with
    | nil => intro tests; rfl
    | cons part rest ih =>
      intro tests
      rw [List.foldl_cons, ih, List.flatMap_cons]
      cases part <;> simp [Combinator.conjoin, testsOf, Value.entries?, Ordered.merge]
  rw [Combinator.join, merged, Ordered.ofEntries]

end Filter

end ListQuery
