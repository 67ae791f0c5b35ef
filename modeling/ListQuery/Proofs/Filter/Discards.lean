import ListQuery.Proofs.Filter.Conditions
import ListQuery.Proofs.Filter.Operators

/-!
# Notices of discarded operators

Where a condition has several operators, the first is applied and the others are discarded. With
the switch on, exactly these conditions are reported, each once and in the order in which
compiling comes upon them, by their paths and by the names of the operators. With the switch off
nothing else changes: the predicate is the same, and so are all other notices in their order.

Both are said of single steps at once: a computation with the switch on `Reports` some notices of
this kind, and is otherwise the computation with the switch off. Where computations are put together
the notices follow one another, so one induction over the values of fields and one over nodes
remain.

## Main definitions

* `Condition.discard?` is the notice of the operators that are discarded at a condition.
* `Reports` relates the two computations.

## Main results

* `reports_convertAt` and `reports_compileAt`: the operators that are reported are those of the
  conditions that compiling comes upon.
* `compile_discards`: notices of discarded operators are exact, and the switch changes nothing else.
-/

namespace ListQuery

/-- A notice of operators that are discarded. -/
def Notice.isDiscard : Notice → Bool
  | .discardedOperators .. => true
  | _ => false

namespace Filter

/-- The keys of a path with dots between them. -/
def dotted (path : List Value) : String := ".".intercalate (path.map Value.label)

/-- The notice of the operators that are discarded of an operator object: all but the first, if
there are any. -/
def discardNotice? (path : List Value) : List (Value × Value) → Option Notice
  | (key, _) :: second :: rest => some <|
    .discardedOperators (some (dotted path)) key.label
      ((second :: rest).map fun entry => entry.1.label)
  | _ => none

/-- The notice of the operators that are discarded at a condition, if there are any. -/
def Condition.discard? (condition : Condition) : Option Notice :=
  match condition.value with
  | .map entries =>
    if isOperatorObject entries then discardNotice? condition.path entries else none
  | _ => none

/-- The notices of operators that are discarded at those conditions that a depth bound admits. -/
def discards (bound : Bound) (conditions : List Condition) : List Notice :=
  (conditions.filter fun condition => bound.admits condition.level).filterMap Condition.discard?

/-- A computation with the switch on gives certain notices of discarded operators. Without these
it is the computation with the switch off. -/
structure Reports {α : Type} (discarded : List Notice) (loud hushed : Logged α) : Prop where
  reported : loud.notices.filter Notice.isDiscard = discarded
  removed : hushed = ⟨loud.value, loud.notices.filter fun notice => !notice.isDiscard⟩

/-! ## What is kept by a single step -/

section Steps

variable {α β : Type} {here below : List Notice} {l u : Logged α}

theorem Reports.of_other (other : ∀ notice ∈ l.notices, notice.isDiscard = false) :
    Reports [] l l where
  reported := List.filter_eq_nil_iff.2 fun notice there => by simp [other notice there]
  removed := by
    have kept : l.notices.filter (fun notice => !notice.isDiscard) = l.notices :=
      List.filter_eq_self.2 fun notice there => by simp [other notice there]
    rw [kept]

theorem Reports.pure (x : α) : Reports [] (pure x) (pure x) := .of_other (List.forall_mem_nil _)

theorem Reports.bind {l' u' : α → Logged β} (first : Reports here l u)
    (next : ∀ x, Reports below (l' x) (u' x)) : Reports (here ++ below) (l >>= l') (u >>= u') where
  reported := by
    rw [Logged.notices_bind, List.filter_append, first.reported, (next l.value).reported]
  removed := by
    -- the second parts go on from the same result
    ext : 1
    · rw [first.removed, Logged.value_bind, Logged.value_bind, (next l.value).removed]
    · rw [first.removed, Logged.notices_bind, Logged.notices_bind, (next l.value).removed,
        List.filter_append]

theorem Reports.map (f : α → β) (first : Reports here l u) : Reports here (f <$> l) (f <$> u) :=
  List.append_nil here ▸ first.bind fun x => .pure (f x)

end Steps

/-! ## Notices of other kinds -/

theorem isDiscard_reduce (c : Combinator) (compiled : Value) :
    ∀ notice ∈ (c.reduce compiled).notices, notice.isDiscard = false := by
  intro notice there
  obtain ⟨dropped, rfl⟩ := exists_dropNotice_of_mem_reduce c compiled notice there
  cases c <;> rfl

theorem isDiscard_apply (op : OperatorName) (operand : Value) :
    ∀ notice ∈ (op.apply operand).notices, notice.isDiscard = false := by
  intro notice there
  rw [eq_malformedRange_of_mem_apply op operand notice there]
  rfl

/-! ## Paths -/

variable {path : List Value} {entries : List (Value × Value)}

theorem dotted_singleton (key : Value) : dotted [key] = key.label := String.intercalate_singleton

theorem dotted_concat (filled : path ≠ []) (key : Value) :
    dotted (path ++ [key]) = dotted path ++ "." ++ key.label := by
  have labels : path.map Value.label ≠ [] := by simpa using filled
  rw [dotted, List.map_append, String.intercalate_append_of_ne_nil labels (by simp),
    List.map_singleton, String.intercalate_singleton]
  rfl

/-- The path of a field in the map of a relation is that of the relation and one more key. -/
theorem fieldPath_dotted (filled : path ≠ []) (key : Value) :
    fieldPath (some (dotted path)) key = some (dotted (path ++ [key])) := by
  rw [dotted_concat filled]
  rfl

/-- The path of a field at the level of groups is its key, unless that counts as false. -/
theorem fieldPath_single {key : Value} (named : key.truthy = true) :
    fieldPath none key = some (dotted [key]) := by
  rw [dotted_singleton, fieldPath, if_pos named]

/-! ## Conditions -/

variable {bound : Bound} {depth : Nat}

theorem discards_append (first second : List Condition) :
    discards bound (first ++ second) = discards bound first ++ discards bound second := by
  rw [discards, List.filter_append, List.filterMap_append]
  rfl

theorem discard?_map (level : Nat) (path : List Value) (entries : List (Value × Value)) :
    Condition.discard? ⟨level, path, .map entries⟩ =
      if isOperatorObject entries then discardNotice? path entries else none := rfl

theorem discard?_of_plain {level : Nat} {value : Value} (plain : value.entries? = none) :
    Condition.discard? ⟨level, path, value⟩ = none := by
  cases value with
  | map entries => cases plain
  | _ => rfl

/-- A condition without operators discards nothing by itself. -/
theorem discards_cons_of_none {condition : Condition} (none : condition.discard? = none)
    (rest : List Condition) : discards bound (condition :: rest) = discards bound rest := by
  rw [discards, List.filter_cons]
  split
  · rw [List.filterMap_cons, none]
    rfl
  · rfl

/-- Nothing is discarded beyond the bound. -/
theorem discards_of_beyond {conditions : List Condition} (beyond : bound.admits depth = false)
    (below : ∀ condition ∈ conditions, depth ≤ condition.level) :
    discards bound conditions = [] := by
  have none : conditions.filter (fun condition => bound.admits condition.level) = [] := by
    refine List.filter_eq_nil_iff.2 fun condition there admitted => ?_
    have above := Bound.admits_mono (Int.ofNat_le.2 (below condition there)) admitted
    rw [beyond] at above
    cases above
  rw [discards, none]
  rfl

theorem discards_singleton {condition : Condition}
    (within : bound.admits condition.level = true) :
    discards bound [condition] = condition.discard?.toList := by
  cases found : condition.discard? <;> simp [discards, within, found]

/-- Where an operator object is applied, the operators that are discarded are reported. -/
theorem reports_applyFirst (within : bound.admits depth = true) (path : List Value)
    (object : isOperatorObject entries = true) :
    Reports (discards bound [⟨depth, path, .map entries⟩])
      (applyFirst ⟨true, bound⟩ (some (dotted path)) entries)
      (applyFirst ⟨false, bound⟩ (some (dotted path)) entries) := by
  rw [discards_singleton within, discard?_map, if_pos object]
  rcases entries with _ | ⟨⟨key, operand⟩, _ | ⟨second, rest⟩⟩
  · cases object
  · exact .of_other (isDiscard_apply (.ofKey key) operand)
  · have applied := Reports.of_other (isDiscard_apply (.ofKey key) operand)
    -- the switch decides on this one notice
    have notice (given : Notice) (discard : given.isDiscard = true) :
        Reports [given] (Logged.give given) (pure ⟨⟩) :=
      ⟨List.filter_eq_self.2 (List.forall_mem_singleton.2 discard), by
        simp only [Logged.give, List.filter_cons, discard]
        rfl⟩
    exact (notice _ rfl).bind fun _ => applied

/-! ## Compiling -/

theorem reports_compileFields (path : List Value) {name : Option String}
    (each : ∀ field ∈ fieldsOf entries,
      Reports (discards bound (conditionsWithin depth (path ++ [field.1]) field.2))
        (convertAt ⟨true, bound⟩ depth (fieldPath name field.1) field.2)
        (convertAt ⟨false, bound⟩ depth (fieldPath name field.1) field.2)) :
    Reports
      (discards bound ((fieldsOf entries).flatMap fun field =>
        conditionsWithin depth (path ++ [field.1]) field.2))
      (compileFields ⟨true, bound⟩ depth name entries)
      (compileFields ⟨false, bound⟩ depth name entries) := by
  induction entries with
  | nil => simpa [compileFields, fieldsOf, discards] using Reports.pure []
  | cons entry rest ih =>
    obtain ⟨key, value⟩ := entry
    rw [compileFields, compileFields]
    cases word : isCombinatorKey key with
    | true =>
      rw [fieldsOf_cons, if_pos word] at each ⊢
      exact ih each
    | false =>
      rw [fieldsOf_cons, if_neg (by simp [word])] at each ⊢
      have others := ih fun field there => each field (List.mem_cons_of_mem _ there)
      rw [List.flatMap_cons, discards_append]
      exact (each _ List.mem_cons_self).bind fun converted => others.map ((key, converted) :: ·)

/-- On the way to the value of a field the operators are reported that are discarded there and at
the conditions inside. -/
theorem reports_convertAt (value : Value) : ∀ (depth : Nat) (path : List Value),
    bound.admits depth = true → path ≠ [] →
      Reports (discards bound (conditionsWithin depth path value))
        (convertAt ⟨true, bound⟩ depth (some (dotted path)) value)
        (convertAt ⟨false, bound⟩ depth (some (dotted path)) value) := by
  induction value using field_induction with
  | nested entries nested ih =>
    intro depth path within filled
    have none : Condition.discard? ⟨depth, path, .map entries⟩ = none := by
      rw [discard?_map, nested, if_neg Bool.false_ne_true]
    rw [conditionsWithin_map, nested, if_neg Bool.false_ne_true, discards_cons_of_none none]
    cases deeper : bound.admits ((depth + 1 : Nat) : Int) with
    | true =>
      rw [convertAt_nested nested deeper, convertAt_nested nested deeper]
      refine (reports_compileFields path fun field there => ?_).map Value.map
      rw [fieldPath_dotted filled]
      exact ih field there (depth + 1) _ deeper (by simp)
    | false =>
      rw [convertAt_of_beyond nested deeper, convertAt_of_beyond nested deeper,
        discards_of_beyond deeper]
      · exact .of_other (List.forall_mem_singleton.2 rfl)
      · exact List.forall_mem_flatMap.2 fun field _ => le_of_mem_conditionsWithin field.2 _ _
  | operators entries object =>
    intro depth path within _
    rw [conditionsWithin_map, object, if_pos rfl, convertAt_operators object,
      convertAt_operators object]
    exact reports_applyFirst within path object
  | plain value plain =>
    intro depth path within _
    rw [conditionsWithin_of_plain plain, convertAt_of_plain plain, convertAt_of_plain plain,
      discards_singleton within, discard?_of_plain plain]
    exact .pure value

theorem reports_compileEach {items : List Value}
    (each : ∀ item ∈ items, Reports (discards bound (conditionsAt depth item))
      (compileAt ⟨true, bound⟩ depth item) (compileAt ⟨false, bound⟩ depth item)) :
    Reports (discards bound (items.flatMap (conditionsAt depth)))
      (compileEach ⟨true, bound⟩ depth items) (compileEach ⟨false, bound⟩ depth items) := by
  induction items with
  | nil => simpa [compileEach, discards] using Reports.pure []
  | cons item rest ih =>
    rw [compileEach, compileEach, List.flatMap_cons, discards_append]
    have others := ih fun item there => each item (List.mem_cons_of_mem _ there)
    exact (each item List.mem_cons_self).bind fun compiled => others.map (compiled :: ·)

theorem reports_compileChildren (c : Combinator) {items : List Value}
    (each : ∀ item ∈ items, Reports (discards bound (conditionsAt depth item))
      (compileAt ⟨true, bound⟩ depth item) (compileAt ⟨false, bound⟩ depth item)) :
    Reports (discards bound (items.flatMap (conditionsAt depth)))
      (compileChildren ⟨true, bound⟩ depth c items)
      (compileChildren ⟨false, bound⟩ depth c items) := by
  induction items with
  | nil => simpa [compileChildren, discards] using Reports.pure []
  | cons item rest ih =>
    rw [compileChildren, compileChildren, List.flatMap_cons, discards_append]
    have others := ih fun item there => each item (List.mem_cons_of_mem _ there)
    refine (each item List.mem_cons_self).bind fun compiled => ?_
    -- what reducing reports is about branches, never about operators
    have reduced := Reports.of_other (isDiscard_reduce c compiled)
    exact reduced.bind fun part => others.map (part ++ ·)

/-- What is found at a container is reported where the bound admits it, and hidden where it does
not. -/
theorem Reports.enter {node : Value} {conditions : List Condition} {l u : Logged Value}
    (below : ∀ condition ∈ conditions, depth ≤ condition.level)
    (inside : bound.admits depth = true → Reports (discards bound conditions) l u) :
    Reports (discards bound conditions)
      (if bound.admits depth then l else Settings.passOver ⟨true, bound⟩ node)
      (if bound.admits depth then u else Settings.passOver ⟨false, bound⟩ node) := by
  cases within : bound.admits depth with
  | true => exact inside within
  | false =>
    rw [discards_of_beyond within below]
    exact .of_other (List.forall_mem_singleton.2 rfl)

/-- On the way to what a node compiles to the operators are reported that are discarded at its
conditions. -/
theorem reports_compileAt (node : Value) : ∀ depth : Nat,
    (∀ condition ∈ conditionsAt depth node, bound.admits condition.level = true →
      ∀ key ∈ condition.path, key.truthy = true) →
      Reports (discards bound (conditionsAt depth node)) (compileAt ⟨true, bound⟩ depth node)
        (compileAt ⟨false, bound⟩ depth node) := by
  induction node using node_induction with
  | sequence node items members ih =>
    intro depth named
    have below := le_of_mem_conditionsAt node depth
    rw [conditionsAt_of_members members] at named below ⊢
    rw [List.forall_mem_flatMap] at named
    rw [compileAt_sequence members, compileAt_sequence members]
    refine .enter below fun _ => (reports_compileEach fun item there => ?_).map disjunction
    exact ih item there (depth + 1) (named item there)
  | group entries c children found ih =>
    intro depth named
    have below := le_of_mem_conditionsAt (.map entries) depth
    rw [conditionsAt_map, found] at named below ⊢
    rw [List.forall_mem_flatMap] at named
    rw [compileAt_entries, compileAt_entries, found]
    refine .enter below fun _ => (reports_compileChildren c fun child there => ?_).map c.join
    exact ih child there (depth + 1) (named child there)
  | fields entries plain =>
    intro depth named
    have below := le_of_mem_conditionsAt (.map entries) depth
    rw [conditionsAt_map, plain] at named below ⊢
    rw [List.forall_mem_flatMap] at named
    rw [compileAt_entries, compileAt_entries, plain]
    refine .enter below fun within => ?_
    refine Reports.map Value.map (reports_compileFields [] fun field there => ?_)
    -- the condition on a field is the first of those that are found there
    have key := named field there _ (mem_conditionsWithin depth [field.1] field.2) within field.1
      List.mem_cons_self
    rw [fieldPath_single key]
    exact reports_convertAt field.2 depth [field.1] within (List.cons_ne_nil _ _)
  | leaf node alone plain =>
    intro depth _
    rw [conditionsAt_of_leaf alone plain]
    cases node with
    | list items => cases alone
    | tuple items => cases alone
    | map entries => cases plain
    | null => simpa [compileAt, discards] using Reports.pure Value.emptyMap
    | _ => simpa [compileAt, discards] using Reports.pure _

/-- Notices of discarded operators are exact, and the switch changes nothing else. With it on, each
operator object that compiling comes upon and that has more than one operator is reported once, by
its path, its first key and its later keys, in the order in which compiling comes upon them. With it
off the predicate is the same, and of the notices exactly these are missing. The keys of fields have
to count as true, as all texts do but the empty one. -/
theorem compile_discards (bound : Bound) (node : Value)
    (named : ∀ condition ∈ reached bound node, ∀ key ∈ condition.path, key.truthy = true) :
    (compile ⟨true, bound⟩ node).notices.filter Notice.isDiscard =
      (reached bound node).filterMap Condition.discard? ∧
    compile ⟨false, bound⟩ node = ⟨(compile ⟨true, bound⟩ node).value,
      (compile ⟨true, bound⟩ node).notices.filter fun notice => !notice.isDiscard⟩ := by
  have reports := @reports_compileAt bound node 0 fun condition there admitted =>
    named condition (List.mem_filter.2 ⟨there, admitted⟩)
  exact ⟨reports.reported, reports.removed⟩

/-- Three alternatives, one of them a group. The last operator object is nested four levels deep. -/
def crowdedConditions : Value :=
  .list [.map [(.text "customer", .map [(.text "name",
      .map [(.text "like", .text "a%"), (.text "ne", .text "ab")])])],
    .map [(.text "OR", .list [.map [(.text "id",
      .map [(.text "between", .int 1), (.text "lt", .int 9), (.text "ne", .int 4)])], .null])],
    .map [(.text "parent", .map [(.text "parent", .map [(.text "stars",
      .map [(.text "gt", .int 1), (.text "lt", .int 9)])])])]]

/-- The group starts a path anew, and what lies beyond the bound is not come upon. -/
theorem paths_crowdedConditions :
    (reached (.int 2) crowdedConditions).map Condition.path =
      [[.text "customer"], [.text "customer", .text "name"], [.text "id"], [.text "parent"],
        [.text "parent", .text "parent"]] := by
  simp [reached, conditions, crowdedConditions, conditionsAt_map,
    @conditionsAt_of_members _ (.list _) _ rfl, @conditionsAt_of_leaf _ .null rfl rfl,
    conditionsWithin_map, groupOf?, childrenOf?, fieldsOf, isCombinatorKey, Combinator.word,
    Value.members?, isOperatorObject, isOperatorKey, operatorOfKey?, Operator.ofName?, Operator.all,
    Operator.name, Bound.admits_int]

theorem compile_discards_crowdedConditions :
    (reached (.int 2) crowdedConditions).filterMap Condition.discard? =
      [.discardedOperators (some "customer.name") "like" ["ne"],
        .discardedOperators (some "id") "between" ["lt", "ne"]] ∧
    (compile ⟨false, .int 2⟩ crowdedConditions).notices =
      [.malformedRange (.int 1), .tooDeep (.int 2)] := by
  have named : ∀ path ∈ (reached (.int 2) crowdedConditions).map Condition.path,
      ∀ key ∈ path, key.truthy = true := by
    rw [paths_crowdedConditions]
    decide
  obtain ⟨reported, removed⟩ := compile_discards (.int 2) crowdedConditions
    (List.forall_mem_map.1 named)
  refine ⟨reported.symm.trans rfl, ?_⟩
  rw [removed]
  rfl

end Filter

end ListQuery
