import ListQuery.Proofs.Filter.Compiled
import ListQuery.Proofs.Value.Parts

/-!
# The containers that compiling comes upon

Compiling descends into sequences and maps, the containers of a filter, and counts the levels on
the way. A filter itself stands at level 0. The items of a sequence, and the children of a group,
stand one level below it. The values of the fields of a map stand one level below the map if they
are maps; but operator objects are applied and not descended into, and sequences among the values
are operands.

Which containers there are at which levels is a matter of the filter alone. What a compiler visits
is a matter of the compiler, so compiling is done here once more, step by step as before, with a
record of every container on which the depth bound is tried, and the depth it is tried with.

## Main definitions

* `containersAt` lists the containers of a node at a level, `containersWithin` those of the value
  of a field, in the order in which compiling without any bound would come upon them.
* `Traced` is a result with notices and visits.
* `traceAt` compiles a node and records its visits, `trace` a filter.

## Main results

* `node_induction` and `field_induction`: how to prove something of all nodes, and of the values of
  all fields.
* `of_mem_containersAt`: the containers of a node are parts of it and stand nowhere above it.
* `traceAt_of_members` and `traceAt_map` say what is recorded at a container.
-/

namespace ListQuery.Filter

open Value (Inside)

/-- A container that compiling comes upon, and the level at which it stands. -/
structure Visit where
  level : Nat
  node : Value

/-! ## Containers and their levels -/

theorem childrenOf_of_groupOf {entries : List (Value × Value)} {c : Combinator}
    {children : List Value} (group : groupOf? entries = some (c, children)) :
    childrenOf? c entries = some children := by
  rw [groupOf?, Option.or_eq_some_iff] at group
  rcases group with any | ⟨-, all⟩
  · obtain ⟨items, found, same⟩ := Option.map_eq_some_iff.1 any
    obtain ⟨rfl, rfl⟩ := Prod.mk.inj same
    exact found
  · obtain ⟨items, found, same⟩ := Option.map_eq_some_iff.1 all
    obtain ⟨rfl, rfl⟩ := Prod.mk.inj same
    exact found

/-- The children of a group are inside the map that stands for it, two steps down. -/
theorem inside_of_groupOf {entries : List (Value × Value)} {c : Combinator}
    {children : List Value} (group : groupOf? entries = some (c, children)) {child : Value}
    (among : child ∈ children) : child.Inside (.map entries) := by
  obtain ⟨sequence, there, members⟩ := mem_of_childrenOf (childrenOf_of_groupOf group)
  exact ⟨sequence, Value.value_mem_parts there,
    .within (Value.mem_parts_of_members members among) .here⟩

/-- To prove something of all nodes, prove it of sequences whose items have it, of groups whose
children have it, of maps without a group, and of what is no container. -/
theorem node_induction {motive : Value → Prop}
    (sequence : ∀ (node : Value) (items : List Value), node.members? = some items →
      (∀ item ∈ items, motive item) → motive node)
    (group : ∀ (entries : List (Value × Value)) (c : Combinator) (children : List Value),
      groupOf? entries = some (c, children) → (∀ child ∈ children, motive child) →
        motive (.map entries))
    (fields : ∀ entries : List (Value × Value), groupOf? entries = none → motive (.map entries))
    (leaf : ∀ node : Value, node.members? = none → node.entries? = none → motive node)
    (node : Value) : motive node := by
  induction node using Value.inside_induction with
  | step node ih =>
    have items {items : List Value} (members : node.members? = some items) : motive node := by
      refine sequence node items members fun item there => ih item ?_
      exact .of_part (Value.mem_parts_of_members members there)
    cases node with
    | list _ => exact items rfl
    | tuple _ => exact items rfl
    | map entries =>
      cases found : groupOf? entries with
      | none => exact fields entries found
      | some pair =>
        obtain ⟨c, children⟩ := pair
        exact group entries c children found fun child there =>
          ih child (inside_of_groupOf found there)
    | _ => exact leaf _ rfl rfl

/-- To prove something of the values of all fields, prove it of maps whose fields have it, of
operator objects, and of what is no map. -/
theorem field_induction {motive : Value → Prop}
    (nested : ∀ entries : List (Value × Value), isOperatorObject entries = false →
      (∀ field ∈ fieldsOf entries, motive field.2) → motive (.map entries))
    (operators : ∀ entries : List (Value × Value), isOperatorObject entries = true →
      motive (.map entries))
    (plain : ∀ value : Value, value.entries? = none → motive value) (value : Value) :
    motive value := by
  induction value using Value.inside_induction with
  | step value ih =>
    cases value with
    | map entries =>
      cases object : isOperatorObject entries with
      | true => exact operators entries object
      | false =>
        refine nested entries object fun field there => ih field.2 ?_
        exact .of_part (Value.value_mem_parts (List.mem_filter.1 there).1)
    | _ => exact plain _ rfl

/-- The containers in the value of a field in a map at a level. -/
def containersWithin (level : Nat) (value : Value) : List Visit :=
  match value with
  | .map entries =>
    -- an operator object is applied, and counts as no container
    if isOperatorObject entries then []
    else ⟨level + 1, .map entries⟩ :: (fieldsOf entries).attach.flatMap fun field =>
      containersWithin (level + 1) field.1.2
  | _ => []
termination_by sizeOf value
decreasing_by
  have among := (List.mem_filter.1 field.2).1
  exact Value.sizeOf_lt_of_mem_parts (Value.value_mem_parts among)

/-- The containers of a node at a level. -/
def containersAt (level : Nat) (node : Value) : List Visit :=
  match node with
  | .list items => ⟨level, .list items⟩ :: items.flatMap fun item => containersAt (level + 1) item
  | .tuple items => ⟨level, .tuple items⟩ :: items.flatMap fun item => containersAt (level + 1) item
  | .map entries => ⟨level, .map entries⟩ ::
      -- where there is a group, the other entries are not looked at
      match group : groupOf? entries with
      | some (_, children) => children.attach.flatMap fun child => containersAt (level + 1) child.1
      | none => (fieldsOf entries).flatMap fun field => containersWithin level field.2
  | _ => []
termination_by sizeOf node
decreasing_by
  · exact Value.sizeOf_lt_of_mem_parts (Value.mem_parts_of_members rfl ‹item ∈ items›)
  · exact Value.sizeOf_lt_of_mem_parts (Value.mem_parts_of_members rfl ‹item ∈ items›)
  · exact (inside_of_groupOf group child.2).sizeOf_lt

variable {level : Nat} {entries : List (Value × Value)}

theorem containersWithin_of_plain {value : Value} (plain : value.entries? = none) :
    containersWithin level value = [] := by
  cases value with
  | map entries => cases plain
  | _ => simp [containersWithin]

theorem containersWithin_map (level : Nat) (entries : List (Value × Value)) :
    containersWithin level (.map entries) =
      if isOperatorObject entries then []
      else ⟨level + 1, .map entries⟩ ::
        (fieldsOf entries).flatMap fun field => containersWithin (level + 1) field.2 := by
  rw [containersWithin]
  simp only [List.flatMap_subtype, List.unattach_attach]

theorem containersAt_of_members {node : Value} {items : List Value}
    (sequence : node.members? = some items) :
    containersAt level node = ⟨level, node⟩ :: items.flatMap (containersAt (level + 1)) := by
  cases node <;> cases sequence <;> rw [containersAt]

theorem containersAt_map (level : Nat) (entries : List (Value × Value)) :
    containersAt level (.map entries) = ⟨level, .map entries⟩ ::
      match groupOf? entries with
      | some (_, children) => children.flatMap (containersAt (level + 1))
      | none => (fieldsOf entries).flatMap fun field => containersWithin level field.2 := by
  rw [containersAt]
  split <;> simp_all

theorem containersAt_of_leaf {node : Value} (alone : node.members? = none)
    (plain : node.entries? = none) : containersAt level node = [] := by
  cases node with
  | list items => cases alone
  | tuple items => cases alone
  | map entries => cases plain
  | _ => simp [containersAt]

/-- All that is in the value of a field stands below the map of the field, and is a part of the
value. -/
theorem of_mem_containersWithin (value : Value) : ∀ level, ∀ visit ∈ containersWithin level value,
    level < visit.level ∧ Value.Occurs visit.node value := by
  induction value using field_induction with
  | nested entries nested ih =>
    intro level
    rw [containersWithin_map, nested, if_neg Bool.false_ne_true]
    refine List.forall_mem_cons.2 ⟨⟨Nat.lt_succ_self level, .here⟩, List.forall_mem_flatMap.2 ?_⟩
    intro field there visit deeper
    obtain ⟨below, occurs⟩ := ih field there (level + 1) visit deeper
    have held := Value.value_mem_parts (List.mem_filter.1 there).1
    exact ⟨Nat.le_of_lt below, .within held occurs⟩
  | operators entries object =>
    intro level
    rw [containersWithin_map, object, if_pos rfl]
    exact List.forall_mem_nil _
  | plain value plain =>
    intro level
    rw [containersWithin_of_plain plain]
    exact List.forall_mem_nil _

/-- Nothing in a node stands above it, and all of it is a part of the node. -/
theorem of_mem_containersAt (node : Value) : ∀ level, ∀ visit ∈ containersAt level node,
    level ≤ visit.level ∧ Value.Occurs visit.node node := by
  induction node using node_induction with
  | sequence node items members ih =>
    intro level
    rw [containersAt_of_members members]
    refine List.forall_mem_cons.2 ⟨⟨Nat.le_refl level, .here⟩, List.forall_mem_flatMap.2 ?_⟩
    intro item there visit deeper
    obtain ⟨below, occurs⟩ := ih item there (level + 1) visit deeper
    have held := Value.mem_parts_of_members members there
    exact ⟨Nat.le_of_lt below, .within held occurs⟩
  | group entries c children found ih =>
    intro level
    rw [containersAt_map, found]
    refine List.forall_mem_cons.2 ⟨⟨Nat.le_refl level, .here⟩, List.forall_mem_flatMap.2 ?_⟩
    intro child there visit deeper
    obtain ⟨below, occurs⟩ := ih child there (level + 1) visit deeper
    have inside := inside_of_groupOf found there
    exact ⟨Nat.le_of_lt below, .of_inside (.deeper occurs inside)⟩
  | fields entries plain =>
    intro level
    rw [containersAt_map, plain]
    refine List.forall_mem_cons.2 ⟨⟨Nat.le_refl level, .here⟩, List.forall_mem_flatMap.2 ?_⟩
    intro field there visit deeper
    obtain ⟨below, occurs⟩ := of_mem_containersWithin field.2 level visit deeper
    have held := Value.value_mem_parts (List.mem_filter.1 there).1
    exact ⟨Nat.le_of_lt below, .within held occurs⟩
  | leaf node alone plain =>
    intro level
    rw [containersAt_of_leaf alone plain]
    exact List.forall_mem_nil _

/-- The containers of a filter. -/
def containers (node : Value) : List Visit := containersAt 0 node

/-! ## Results with visits -/

/-- A result with the notices that were given and the containers that were visited on the way
to it. -/
structure Traced (α : Type) where
  logged : Logged α
  visits : List Visit

namespace Traced

variable {α β : Type}

/-- A result without visits. -/
def ofLogged (logged : Logged α) : Traced α := ⟨logged, []⟩

instance : Monad Traced where
  pure x := ofLogged (pure x)
  bind first next := ⟨first.logged >>= fun x => (next x).logged,
    first.visits ++ (next first.logged.value).visits⟩

/-- Tries the depth bound on a container and records that; what goes on inside is left out where
the container is nested too deep. -/
def enter (s : Settings) (depth : Nat) (node : Value) (inside : Traced Value) : Traced Value :=
  if s.maxDepth.admits depth then ⟨inside.logged, ⟨depth, node⟩ :: inside.visits⟩
  else ⟨s.passOver node, [⟨depth, node⟩]⟩

end Traced

/-! ## Compiling with a record of visits -/

-- These functions follow those of the compiler case by case. All that is added is that the bound is
-- tried by entering a container, which records it.
mutual

/-- Compiles a node that is nested so deep, and records its visits. -/
def traceAt (s : Settings) (depth : Nat) : Value → Traced Value
  | .null => pure Value.emptyMap
  | .list items => .enter s depth (.list items) (disjunction <$> traceEach s (depth + 1) items)
  | .tuple items => .enter s depth (.tuple items) (disjunction <$> traceEach s (depth + 1) items)
  | .map entries => .enter s depth (.map entries)
      (match traceGroup s depth .any entries with
      | some group => group
      | none =>
        match traceGroup s depth .all entries with
        | some group => group
        | none => .map <$> traceFields s depth none entries)
  | leaf => pure leaf

/-- Compiles the items of a list, each by itself. -/
def traceEach (s : Settings) (depth : Nat) : List Value → Traced (List Value)
  | [] => pure []
  | item :: rest => do
    let compiled ← traceAt s depth item
    let others ← traceEach s depth rest
    pure (compiled :: others)

/-- The contributions of the children of a group, in order. -/
def traceChildren (s : Settings) (depth : Nat) (combinator : Combinator) :
    List Value → Traced (List Value)
  | [] => pure []
  | child :: rest => do
    let compiled ← traceAt s depth child
    let part ← .ofLogged (combinator.reduce compiled)
    let others ← traceChildren s depth combinator rest
    pure (part ++ others)

/-- Compiles the group of a combinator, if its key is there and holds a sequence. -/
def traceGroup (s : Settings) (depth : Nat) (combinator : Combinator) :
    List (Value × Value) → Option (Traced Value)
  | [] => none
  | (key, .list children) :: rest =>
    if key = .text combinator.word then
      some (combinator.join <$> traceChildren s (depth + 1) combinator children)
    else traceGroup s depth combinator rest
  | (key, .tuple children) :: rest =>
    if key = .text combinator.word then
      some (combinator.join <$> traceChildren s (depth + 1) combinator children)
    else traceGroup s depth combinator rest
  | (key, _) :: rest =>
    if key = .text combinator.word then none else traceGroup s depth combinator rest

/-- Converts the values of a map of fields; the words of combinators are no fields. -/
def traceFields (s : Settings) (depth : Nat) (path : Option String) :
    List (Value × Value) → Traced (List (Value × Value))
  | [] => pure []
  | (key, value) :: rest =>
    if isCombinatorKey key then traceFields s depth path rest
    else do
      let converted ← traceWithin s depth (fieldPath path key) value
      let others ← traceFields s depth path rest
      pure ((key, converted) :: others)

/-- Converts the value of a field in a map that is nested so deep, and records its visits. -/
def traceWithin (s : Settings) (depth : Nat) (path : Option String) : Value → Traced Value
  | .map entries =>
    if isOperatorObject entries then .ofLogged (applyFirst s path entries)
    else .enter s (depth + 1) (.map entries)
      (.map <$> traceFields s (depth + 1) path entries)
  | plain => pure plain

end

/-- Compiles a filter with a record of visits. -/
def trace (s : Settings) (node : Value) : Traced Value := traceAt s 0 node

/-! ## What is recorded at a container -/

variable {s : Settings} {depth : Nat}

theorem traceAt_of_members {node : Value} {items : List Value}
    (sequence : node.members? = some items) :
    traceAt s depth node = .enter s depth node (disjunction <$> traceEach s (depth + 1) items) := by
  cases node <;> cases sequence <;> rw [traceAt]

theorem traceGroup_eq (c : Combinator) (entries : List (Value × Value)) :
    traceGroup s depth c entries = (childrenOf? c entries).map fun items =>
      c.join <$> traceChildren s (depth + 1) c items := by
  induction entries with
  | nil => rw [traceGroup]; rfl
  | cons entry rest ih =>
    obtain ⟨key, value⟩ := entry
    rw [childrenOf?_cons]
    split
    · next word => cases value <;> simp [traceGroup, word, Value.members?]
    · next other =>
      rw [← ih]
      cases value <;> simp [traceGroup, other]

theorem traceWithin_of_plain {value : Value} (plain : value.entries? = none)
    (path : Option String) : traceWithin s depth path value = pure value := by
  cases value with
  | map entries => cases plain
  | _ => simp [traceWithin]

/-- At a map the children of the group that it stands for are compiled, or else its fields. -/
theorem traceAt_map (entries : List (Value × Value)) :
    traceAt s depth (.map entries) = .enter s depth (.map entries)
      (match groupOf? entries with
      | some (c, items) => c.join <$> traceChildren s (depth + 1) c items
      | none => .map <$> traceFields s depth none entries) := by
  rw [traceAt, traceGroup_eq, traceGroup_eq, groupOf?]
  cases childrenOf? .any entries with
  | some items => rfl
  | none =>
    cases childrenOf? .all entries with
    | some items => rfl
    | none => rfl

end ListQuery.Filter
