import ListQuery.Proofs.Filter.Assembly
import ListQuery.Proofs.Filter.Conditions
import ListQuery.Proofs.Filter.Levels
import ListQuery.Proofs.Filter.Operators
import Mathlib.Data.List.Basic

/-!
# Compiled predicates are fixed points

Compiling goes by looks: the keys of a map decide whether it is an operator object, a group or the
map of a relation. So when a predicate is compiled again, none of its maps may look like something
that it was not made as. What is settled does not: no words of combinators are left in it, and
the only operator objects are ranges that are not given by a pair, which stay as they are.

Two kinds of conditions can do harm. An equality with a map puts this map in the place of the
operator object, and it may well be an operator object itself. In the map of a relation the words
of combinators are dropped, and the keys that remain may all be names of operators. A filter without
conditions of these kinds compiles to a settled predicate, if no container is nested too deep.

The levels have to be followed as well, for compiling again tries the depth bound again. Groups move
tests up, out of their children, but nothing is ever moved down. So a settled predicate is within
the bound, unless it is a map where the bound admits no container at all; and that is left as it is.

## Main definitions

* `Condition.IsClear` excludes the two kinds of conditions.
* `Settled`, `SettledBranch` and `SettledPredicate` say of the value of a field, of a branch and of
  a predicate that they are settled and within the depth bound.

## Main results

* `settled_convertAt` and `settled_compileAt`: what clear conditions and filters are compiled to is
  settled.
* `Settled.value_convertAt`, `SettledBranch.value_compileAt` and `SettledPredicate.value_compileAt`:
  compiling leaves what is settled as it is, but for lists of no branch or of one.
* `compile_compile` puts them together.
-/

namespace ListQuery.Filter

open disjunction (branches)

variable {s : Settings} {depth low high : Nat} {value branch : Value}
  {entries : List (Value × Value)}

/-! ## Clear conditions -/

/-- Converting a condition does not make another operator object of it: it is no equality with a
map, and if it is the map of a relation, no entry is dropped. -/
structure Condition.IsClear (condition : Condition) : Prop where
  noMap : ∀ key operand others, condition.value = .map ((key, operand) :: others) →
    isOperatorObject ((key, operand) :: others) = true → key = .text Operator.eq.name →
      operand.entries? = none
  noGroup : ∀ entries, condition.value = .map entries → isOperatorObject entries = false →
    ∀ entry ∈ entries, isCombinatorKey entry.1 = false

/-- An operator object that is left over: a range that is not given by a pair. -/
def IsMalformedRange (entries : List (Value × Value)) : Prop :=
  ∃ operand, entries = [(.text Operator.between.name, operand)] ∧
    ∀ low high, operand.members? ≠ some [low, high]

/-- There is nothing left to apply at a condition: what looks like an operator object is a range
that is not given by a pair. -/
def Condition.IsApplied (condition : Condition) : Prop :=
  ∀ entries, condition.value = .map entries → isOperatorObject entries = true →
    IsMalformedRange entries

theorem IsMalformedRange.isOperatorObject (malformed : IsMalformedRange entries) :
    isOperatorObject entries = true := by
  obtain ⟨operand, rfl, -⟩ := malformed
  rfl

theorem IsMalformedRange.value_convertAt (malformed : IsMalformedRange entries)
    (path : Option String) : (convertAt s depth path (.map entries)).value = .map entries := by
  rw [convertAt_operators malformed.isOperatorObject]
  obtain ⟨operand, rfl, other⟩ := malformed
  rw [value_applyFirst]
  exact value_apply_between other

/-! ## Values of fields -/

/-- The value of a field that is converted: a plain value or a test, a range that is not given by a
pair, or the map of a relation, without words of combinators and within the bound. -/
inductive Settled (s : Settings) : Nat → Value → Prop
  | plain {depth : Nat} {value : Value} (plain : value.entries? = none) : Settled s depth value
  | range {depth : Nat} {entries : List (Value × Value)} (malformed : IsMalformedRange entries) :
      Settled s depth (.map entries)
  | nested {depth : Nat} {entries : List (Value × Value)}
      (nested : isOperatorObject entries = false)
      (within : s.maxDepth.admits ((depth + 1 : Nat) : Int) = true)
      (noGroup : ∀ entry ∈ entries, isCombinatorKey entry.1 = false)
      (each : ∀ entry ∈ entries, Settled s (depth + 1) entry.2) : Settled s depth (.map entries)

theorem Settled.above (settled : Settled s high value) (le : low ≤ high) : Settled s low value := by
  induction settled generalizing low with
  | plain plain => exact .plain plain
  | range malformed => exact .range malformed
  | nested nested within noGroup _ ih =>
    have further := Nat.succ_le_succ le
    exact .nested nested (Bound.admits_mono (Int.ofNat_le.2 further) within) noGroup
      fun entry there => ih entry there further

/-- Converting leaves what is settled as it is. -/
theorem Settled.value_convertAt (settled : Settled s depth value) (path : Option String) :
    (convertAt s depth path value).value = value := by
  induction settled generalizing path with
  | plain plain => rw [convertAt_of_plain plain, Logged.value_pure]
  | range malformed => exact malformed.value_convertAt path
  | nested nested within noGroup _ ih =>
    rw [convertAt_nested nested within, Logged.value_map, value_compileFields,
      fieldsOf_of_plain noGroup]
    refine congrArg Value.map ((List.map_congr_left fun entry there => ?_).trans (List.map_id _))
    rw [ih entry there, id]

/-- There is nothing left to apply in what is settled. -/
theorem Settled.isApplied (settled : Settled s depth value) (level : Nat) (path : List Value) :
    ∀ condition ∈ conditionsWithin level path value, condition.IsApplied := by
  induction settled generalizing level path with
  | plain plain =>
    rw [conditionsWithin_of_plain plain]
    refine List.forall_mem_singleton.2 fun entries same => ?_
    cases show _ = Value.map entries from same
    cases plain
  | range malformed =>
    rw [conditionsWithin_map, malformed.isOperatorObject, if_pos rfl]
    refine List.forall_mem_singleton.2 fun entries same _ => ?_
    rwa [← Value.map.inj same]
  | nested nested _ noGroup _ ih =>
    rw [conditionsWithin_map, nested, if_neg Bool.false_ne_true, fieldsOf_of_plain noGroup]
    refine List.forall_mem_cons.2 ⟨fun entries same object => ?_, ?_⟩
    · rw [← Value.map.inj same, nested] at object
      cases object
    · exact List.forall_mem_flatMap.2 fun entry there => ih entry there _ _

theorem settled_apply {op : Operator} {operand : Value}
    (noMap : op = .eq → operand.entries? = none) : Settled s depth (op.apply operand).value := by
  by_cases pair : op = .between → ∃ low high, operand.members? = some [low, high]
  · exact .plain (Operator.entries?_apply noMap pair)
  · obtain ⟨rfl, other⟩ := Classical.not_imp.1 pair
    have other (low high : Value) : operand.members? ≠ some [low, high] :=
      fun pair => other ⟨low, high, pair⟩
    rw [value_apply_between other]
    exact .range ⟨operand, rfl, other⟩

/-- A clear condition within the bound converts to a settled value. -/
theorem settled_convertAt (value : Value) : ∀ (depth : Nat) (path : List Value),
    AdmittedField s depth value →
      (∀ condition ∈ conditionsWithin depth path value, condition.IsClear) →
        ∀ name, Settled s depth (convertAt s depth name value).value := by
  induction value using field_induction with
  | nested entries nested ih =>
    intro depth path admitted clear name
    obtain ⟨within, admitted⟩ := (admittedField_nested nested).1 admitted
    rw [conditionsWithin_map, nested, if_neg Bool.false_ne_true, List.forall_mem_cons,
      List.forall_mem_flatMap] at clear
    obtain ⟨here, inside⟩ := clear
    have noGroup := here.noGroup entries rfl nested
    rw [fieldsOf_of_plain noGroup] at ih admitted inside
    rw [convertAt_nested nested within, Logged.value_map, value_compileFields,
      fieldsOf_of_plain noGroup]
    -- all keys are kept, so the map does not turn into an operator object
    refine .nested ?_ within (List.forall_mem_map.2 noGroup) (List.forall_mem_map.2 ?_)
    · rw [← nested]
      exact isOperatorObject_perm (.of_eq (by simp [Ordered.keys]))
    · intro entry there
      exact ih entry there (depth + 1) (path ++ [entry.1]) (admitted entry there)
        (inside entry there) _
  | operators entries object =>
    intro depth path _ clear name
    rw [convertAt_operators object]
    cases entries with
    | nil => cases object
    | cons first others =>
      obtain ⟨key, operand⟩ := first
      obtain ⟨op, named, known⟩ := exists_operator object List.mem_cons_self
      have here := clear _ (mem_conditionsWithin depth path _)
      rw [value_applyFirst, known]
      refine settled_apply fun equality => here.noMap key operand others rfl object ?_
      rw [← equality]
      exact named
  | plain value plain =>
    intro depth path _ _ name
    rw [convertAt_of_plain plain]
    exact .plain plain

/-! ## Branches -/

/-- A branch that is compiled: no container, or a conjunction of settled tests. -/
inductive SettledBranch (s : Settings) (depth : Nat) : Value → Prop
  | leaf {branch : Value} (alone : branch.members? = none) (plain : branch.entries? = none)
      (present : branch ≠ .null) : SettledBranch s depth branch
  | conjunction {tests : List (Value × Value)}
      (noGroup : ∀ test ∈ tests, isCombinatorKey test.1 = false)
      (each : ∀ test ∈ tests, Settled s depth test.2) : SettledBranch s depth (.map tests)

theorem settledBranch_emptyMap : SettledBranch s depth Value.emptyMap :=
  .conjunction (List.forall_mem_nil _) (List.forall_mem_nil _)

theorem SettledBranch.above (settled : SettledBranch s high branch) (le : low ≤ high) :
    SettledBranch s low branch := by
  cases settled with
  | leaf alone plain present => exact .leaf alone plain present
  | conjunction noGroup each =>
    exact .conjunction noGroup fun test there => (each test there).above le

theorem SettledBranch.branches_eq (settled : SettledBranch s depth branch) :
    branches branch = [branch] := by
  cases settled with
  | leaf alone => exact branches_of_alone alone
  | conjunction => rfl

theorem SettledBranch.of_mem_testsOf (settled : SettledBranch s depth branch) :
    ∀ test ∈ testsOf branch, isCombinatorKey test.1 = false ∧ Settled s depth test.2 := by
  cases settled with
  | leaf _ plain =>
    rw [testsOf, plain]
    exact List.forall_mem_nil _
  | conjunction noGroup each => exact fun test there => ⟨noGroup test there, each test there⟩

/-- What is no container compiles to itself, unless it is null. -/
theorem compileAt_of_leaf {node : Value} (alone : node.members? = none)
    (plain : node.entries? = none) (present : node ≠ .null) :
    compileAt s depth node = pure node := by
  cases node with
  | list items => cases alone
  | tuple items => cases alone
  | map entries => cases plain
  | null => exact absurd rfl present
  | _ => simp [compileAt]

/-- Compiling leaves a settled branch as it is. -/
theorem SettledBranch.value_compileAt (settled : SettledBranch s depth branch) :
    (compileAt s depth branch).value = branch := by
  cases settled with
  | leaf alone plain present =>
    rw [compileAt_of_leaf alone plain present, Logged.value_pure]
  | conjunction noGroup each =>
    rw [compileAt_entries]
    split
    · rw [groupOf?_of_plain noGroup]
      dsimp only
      rw [Logged.value_map, value_compileFields, fieldsOf_of_plain noGroup]
      refine congrArg Value.map ((List.map_congr_left fun test there => ?_).trans (List.map_id _))
      rw [(each test there).value_convertAt, id]
    · -- beyond the bound any map is left as it is
      rfl

theorem SettledBranch.isApplied (settled : SettledBranch s depth branch) (level : Nat) :
    ∀ condition ∈ conditionsAt level branch, condition.IsApplied := by
  cases settled with
  | leaf alone plain =>
    rw [conditionsAt_of_leaf alone plain]
    exact List.forall_mem_nil _
  | conjunction noGroup each =>
    rw [conditionsAt_map, groupOf?_of_plain noGroup, fieldsOf_of_plain noGroup]
    exact List.forall_mem_flatMap.2 fun test there => (each test there).isApplied level [test.1]

/-! ## Predicates -/

/-- A predicate that is compiled: a settled branch, or a list of settled branches a level below. -/
inductive SettledPredicate (s : Settings) (depth : Nat) : Value → Prop
  | branch {branch : Value} (settled : SettledBranch s depth branch) :
      SettledPredicate s depth branch
  | list {items : List Value} (within : s.maxDepth.admits depth = true)
      (each : ∀ branch ∈ items, SettledBranch s (depth + 1) branch) :
      SettledPredicate s depth (.list items)

/-- What becomes of a predicate when it is compiled again: a list with a single branch is that
branch, and a list without any restricts nothing. -/
def tidied : Value → Value
  | .list [] => Value.emptyMap
  | .list items => unwrapped items
  | other => other

theorem SettledPredicate.of_mem_branches (settled : SettledPredicate s depth value) :
    ∀ branch ∈ branches value, SettledBranch s depth branch := by
  cases settled with
  | branch settled =>
    rw [settled.branches_eq]
    exact List.forall_mem_singleton.2 settled
  | list _ each => exact fun branch there => (each branch there).above (Nat.le_succ depth)

theorem disjunction_of_branches {items : List Value}
    (single : ∀ item ∈ items, branches item = [item]) :
    disjunction items = tidied (.list items) := by
  have same : items.flatMap branches = items :=
    (List.flatMap_congr single).trans (List.flatMap_singleton' items)
  cases items with
  | nil => rfl
  | cons first rest =>
    rw [disjunction_eq_unwrapped (List.cons_ne_nil _ _), same]
    rfl

/-- Compiling leaves a settled predicate as it is, but for a list of no branch or of one. -/
theorem SettledPredicate.value_compileAt (settled : SettledPredicate s depth value) :
    (compileAt s depth value).value = tidied value := by
  cases settled with
  | branch settled =>
    rw [settled.value_compileAt]
    cases settled with
    | leaf alone => cases value <;> first | rfl | cases alone
    | conjunction => rfl
  | @list items within each =>
    have same : (items.map fun item => (compileAt s (depth + 1) item).value) = items :=
      (List.map_congr_left fun item there => (each item there).value_compileAt).trans
        (List.map_id _)
    rw [compileAt_of_members rfl within, Logged.value_map, value_compileEach, same]
    exact disjunction_of_branches fun item there => (each item there).branches_eq

theorem SettledPredicate.isApplied (settled : SettledPredicate s depth value) (level : Nat) :
    ∀ condition ∈ conditionsAt level value, condition.IsApplied := by
  cases settled with
  | branch settled => exact settled.isApplied level
  | list _ each =>
    rw [conditionsAt_of_members rfl]
    exact List.forall_mem_flatMap.2 fun item there => (each item there).isApplied (level + 1)

/-- The disjunction of settled predicates is settled, a level above. -/
theorem settledPredicate_disjunction (within : s.maxDepth.admits depth = true)
    {compiled : List Value} (each : ∀ item ∈ compiled, SettledPredicate s (depth + 1) item) :
    SettledPredicate s depth (disjunction compiled) := by
  have spliced : ∀ branch ∈ compiled.flatMap branches, SettledBranch s (depth + 1) branch :=
    List.forall_mem_flatMap.2 fun item there => (each item there).of_mem_branches
  unfold disjunction
  split
  · split
    · exact .branch settledBranch_emptyMap
    · exact .list within (List.forall_mem_nil _)
  · next single => exact .branch ((spliced _ (by simp [single])).above (Nat.le_succ depth))
  · exact .list within spliced

/-- A group of settled branches is settled, a level above. -/
theorem settledPredicate_join (c : Combinator) (within : s.maxDepth.admits depth = true)
    {parts : List Value} (each : ∀ part ∈ parts, SettledBranch s (depth + 1) part) :
    SettledPredicate s depth (c.join parts) := by
  cases c with
  | any => exact .list within each
  | all =>
    have tests := List.forall_mem_flatMap.2 fun part there => (each part there).of_mem_testsOf
    rw [join_all]
    refine .branch (.conjunction ?_ ?_)
    · -- key and value of a test may come from different parts
      intro test there
      obtain ⟨⟨key, _⟩, written, same⟩ := List.mem_map.1 (Ordered.mem_ofEntries there).1
      rw [← same]
      exact (tests _ written).1
    · intro test there
      obtain ⟨-, key, written, -⟩ := Ordered.mem_ofEntries there
      exact (tests _ written).2.above (Nat.le_succ depth)

/-- A clear filter within the bound compiles to a settled predicate. -/
theorem settled_compileAt (node : Value) : ∀ depth : Nat, Admitted s depth node →
    (∀ condition ∈ conditionsAt depth node, condition.IsClear) →
      SettledPredicate s depth (compileAt s depth node).value := by
  induction node using node_induction with
  | sequence node items members ih =>
    intro depth admitted clear
    obtain ⟨within, admitted⟩ := (admitted_of_members members).1 admitted
    rw [conditionsAt_of_members members, List.forall_mem_flatMap] at clear
    rw [compileAt_of_members members within, Logged.value_map, value_compileEach]
    refine settledPredicate_disjunction within (List.forall_mem_map.2 fun item there => ?_)
    exact ih item there (depth + 1) (admitted item there) (clear item there)
  | group entries c children found ih =>
    intro depth admitted clear
    obtain ⟨within, admitted⟩ := (admitted_group found).1 admitted
    rw [conditionsAt_map, found] at clear
    rw [List.forall_mem_flatMap] at clear
    rw [compileAt_map within, found]
    dsimp only
    rw [value_group]
    refine settledPredicate_join c within (List.forall_mem_flatMap.2 (List.forall_mem_map.2 ?_))
    intro child there branch kept
    have settled := ih child there (depth + 1) (admitted child there) (clear child there)
    exact settled.of_mem_branches branch (List.mem_of_mem_take kept)
  | fields entries plain =>
    intro depth admitted clear
    obtain ⟨within, admitted⟩ := (admitted_fields plain).1 admitted
    rw [conditionsAt_map, plain] at clear
    rw [List.forall_mem_flatMap] at clear
    rw [compileAt_map within, plain]
    dsimp only
    rw [Logged.value_map, value_compileFields]
    refine .branch (.conjunction (List.forall_mem_map.2 ?_) (List.forall_mem_map.2 ?_))
    · intro field there
      simpa using (List.mem_filter.1 there).2
    · intro field there
      exact settled_convertAt field.2 depth [field.1] (admitted field there) (clear field there) _
  | leaf node alone plain =>
    intro depth _ _
    by_cases present : node = .null
    · rw [present, compileAt]
      exact .branch settledBranch_emptyMap
    · rw [compileAt_of_leaf alone plain present]
      exact .branch (.leaf alone plain present)

/-- A compiled predicate is a fixed point. Where no container is nested too deep and all conditions
are clear, compiling the result again gives the same result, but a list with a single branch is
unwrapped and an empty one restricts nothing. No operator object is left in the result but ranges
that are not given by a pair. -/
theorem compile_compile {node : Value} (admitted : Admitted s 0 node)
    (clear : ∀ condition ∈ conditions node, condition.IsClear) :
    (compile s (compile s node).value).value = tidied (compile s node).value ∧
      ∀ condition ∈ conditions (compile s node).value, condition.IsApplied := by
  have settled := settled_compileAt node 0 admitted clear
  exact ⟨settled.value_compileAt, settled.isApplied 0⟩

/-- A group of one group, with a range that is not given by a pair and the map of a relation. -/
def settling : Value :=
  .map [(.text "OR", .list [.map [(.text "AND", .list [
    .map [(.text "stars", .map [(.text "between", .int 5), (.text "lt", .int 9)])],
    .map [(.text "customer", .map [(.text "name", .map [(.text "eq", .list [])])])]])]])]

/-- The second time the single branch is unwrapped, and the range is left once more. -/
theorem compile_compile_settling :
    (compile .standard settling).value = .list [.map [
      (.text "stars", .map [(.text "between", .int 5)]),
      (.text "customer", .map [(.text "name", .list [])])]] ∧
    (compile .standard (compile .standard settling).value).value = .map [
      (.text "stars", .map [(.text "between", .int 5)]),
      (.text "customer", .map [(.text "name", .list [])])] := by
  have admitted : Admitted .standard 0 settling := by
    refine (admitted_group rfl).2 ⟨rfl, List.forall_mem_singleton.2 ?_⟩
    refine (admitted_group rfl).2 ⟨rfl, List.forall_mem_cons.2 ⟨?_, List.forall_mem_singleton.2 ?_⟩⟩
    · refine (admitted_fields rfl).2 ⟨rfl, ?_⟩
      exact List.forall_mem_singleton.2 (admittedField_operators rfl)
    · refine (admitted_fields rfl).2 ⟨rfl, ?_⟩
      refine List.forall_mem_singleton.2 ((admittedField_nested rfl).2 ⟨rfl, ?_⟩)
      exact List.forall_mem_singleton.2 (admittedField_operators rfl)
  have clear : ∀ condition ∈ conditions settling, condition.IsClear := by
    have listed : conditions settling = [
        ⟨2, [.text "stars"], .map [(.text "between", .int 5), (.text "lt", .int 9)]⟩,
        ⟨2, [.text "customer"], .map [(.text "name", .map [(.text "eq", .list [])])]⟩,
        ⟨3, [.text "customer", .text "name"], .map [(.text "eq", .list [])]⟩] := by
      rw [conditions, settling, conditionsAt_map]
      simp [conditionsAt_map, conditionsWithin_map, groupOf?, childrenOf?, fieldsOf,
        isCombinatorKey, Combinator.word, Value.members?, isOperatorObject, isOperatorKey,
        operatorOfKey?, Operator.ofName?, Operator.all, Operator.name]
    rw [listed]
    simp only [List.forall_mem_cons]
    refine ⟨⟨?_, ?_⟩, ⟨?_, ?_⟩, ⟨?_, ?_⟩, List.forall_mem_nil _⟩
    · rintro _ _ _ ⟨⟩ _ named
      exact absurd (Value.text.inj named) (by decide)
    · rintro _ ⟨⟩ ⟨⟩
    · rintro _ _ _ ⟨⟩ ⟨⟩
    · rintro _ ⟨⟩ _
      exact List.forall_mem_singleton.2 rfl
    · rintro _ _ _ ⟨⟩ _ _
      rfl
    · rintro _ ⟨⟩ ⟨⟩
  obtain ⟨again, -⟩ := compile_compile admitted clear
  exact ⟨rfl, again.trans rfl⟩

end ListQuery.Filter
