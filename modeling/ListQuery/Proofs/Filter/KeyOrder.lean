import ListQuery.Proofs.Filter.Assembly
import ListQuery.Proofs.Filter.Operators
import ListQuery.Proofs.Value.Alike

/-!
# The order of keys

The first operator of an operator object is the one that is applied, so there the order of keys
matters. It matters nowhere else. Which group a map stands for is a question of its keys, the fields
of a map are compiled one by one, and in an `AND` group it is the order of the children that
decides, not that of the keys in each of them. So two filters that differ in the order of such
entries compile to the same, up to the order of keys, whatever the depth bound.

Where a value stands in a filter tells whether it may be an operator object: it may as the value of
a field, but not as a node. What stands under a field and is no map is an operand, and what stands
in an operator object belongs to the operators, so neither is rearranged inside.

## Main definitions

* `Place` is where a value stands in a filter, as a node or under a field.
* `Reordered` relates filters that differ in the order of keys outside of operator objects.

## Main results

* `alike_disjunction` and `alike_join`: putting alike children together gives alike values.
* `alike_compileAt`: filters that are reordered so compile to alike predicates.
-/

namespace ListQuery

namespace Filter

open Value (Alike)
open Ordered (SameKey Rearranged)
open disjunction (branches)

/-- Where a value stands in a filter. -/
inductive Place
  | node
  | field

/-- What stands under the word of a combinator is made of nodes, and under any other key stands the
value of a field. -/
def Place.under (key : Value) : Place := if isCombinatorKey key then .node else .field

/-- At a place in a filter, two values differ at most in the order in which the entries of maps
stand that are no operator objects. -/
inductive Reordered : Place → Value → Value → Prop
  | refl {place : Place} (value : Value) : Reordered place value value
  | list {items others : List Value} (each : List.Forall₂ (Reordered .node) items others) :
      Reordered .node (.list items) (.list others)
  | tuple {items others : List Value} (each : List.Forall₂ (Reordered .node) items others) :
      Reordered .node (.tuple items) (.tuple others)
  | map {place : Place} {entries middle others : List (Value × Value)}
      (nested : place = .field → isOperatorObject entries = false) (moved : entries.Perm middle)
      (each : List.Forall₂ (SameKey fun key => Reordered (.under key)) middle others) :
      Reordered place (.map entries) (.map others)

variable {s : Settings} {depth : Nat} {place : Place} {value other first second : Value}
  {items others : List Value}

/-! ## Branches of alike values -/

theorem forall₂_branches (alike : Alike value other) :
    List.Forall₂ Alike (branches value) (branches other) := by
  cases alike with
  | refl => exact Value.forall₂_alike_refl _
  | list each => exact each
  | tuple each => exact .cons (.tuple each) .nil
  | map moved each => exact .cons (.map moved each) .nil

theorem rearranged_testsOf (alike : Alike value other) :
    Rearranged (fun _ => Alike) (testsOf value) (testsOf other) := by
  cases alike with
  | refl => exact .refl fun entry _ => .refl entry.2
  | map moved each => exact ⟨_, moved, each⟩
  | _ => exact ⟨[], .refl [], .nil⟩

theorem rearranged_contribution (alike : Alike value other) :
    Rearranged (fun _ => Alike) (contribution value) (contribution other) := by
  have each := forall₂_branches alike
  rw [contribution, contribution]
  generalize branches value = parts, branches other = parts' at each
  cases each with
  | nil => exact ⟨[], .refl [], .nil⟩
  | cons first _ => simpa using rearranged_testsOf first

/-! ## Alike children -/

theorem alike_unwrapped (each : List.Forall₂ Alike items others) :
    Alike (unwrapped items) (unwrapped others) := by
  cases each with
  | nil => exact .refl _
  | cons first rest =>
    cases rest with
    | nil => exact first
    | cons second rest => exact .list (.cons first (.cons second rest))

theorem alike_disjunction (each : List.Forall₂ Alike items others) :
    Alike (disjunction items) (disjunction others) := by
  cases each with
  | nil => exact .refl _
  | cons first rest =>
    rw [disjunction_eq_unwrapped (List.cons_ne_nil _ _),
      disjunction_eq_unwrapped (List.cons_ne_nil _ _)]
    have each := List.Forall₂.cons first rest
    exact alike_unwrapped (List.rel_flatMap each fun _ _ => forall₂_branches)

theorem alike_join (c : Combinator) (apart : ∀ item ∈ items, TestsApart item)
    (each : List.Forall₂ Alike items others) :
    Alike (c.join (items.flatMap fun compiled => (branches compiled).take 1))
      (c.join (others.flatMap fun compiled => (branches compiled).take 1)) := by
  cases c with
  | any =>
    refine .list (List.rel_flatMap each fun _ _ alike => ?_)
    exact List.forall₂_take 1 (forall₂_branches alike)
  | all =>
    rw [join_all, join_all, List.flatMap_assoc, List.flatMap_assoc]
    refine .of_rearranged (.ofEntries_flatMap ?_ ?_)
    · exact fun item there => (apart item there).distinct_contribution
    · exact each.imp fun _ _ alike => rearranged_contribution alike

/-! ## Reordered filters -/

variable {entries middle : List (Value × Value)} {fields : List (Value × Value)}

/-- Two lists of entries differ at most in their order and in that of the entries within. -/
abbrev ReorderedEntries (entries others : List (Value × Value)) : Prop :=
  Rearranged (fun key => Reordered (.under key)) entries others

theorem under_of_word (c : Combinator) : Place.under (.text c.word) = .node := by
  cases c <;> rfl

theorem under_of_field {key : Value} (field : isCombinatorKey key = false) :
    Place.under key = .field := by
  rw [Place.under, field]
  rfl

/-- What is reordered and left as it is looks alike. -/
theorem Reordered.alike (reordered : Reordered place first second) : Alike first second := by
  induction first using Value.inside_induction generalizing place second with
  | step first ih =>
    have items {items others : List Value} (members : first.members? = some items)
        (each : List.Forall₂ (Reordered .node) items others) : List.Forall₂ Alike items others := by
      have among := (List.forall₂_and_left items others).2 ⟨fun _ there => there, each⟩
      refine among.imp fun item other both => ?_
      exact ih item (.of_part (Value.mem_parts_of_members members both.1)) both.2
    cases reordered with
    | refl => exact .refl first
    | list each => exact .list (items rfl each)
    | tuple each => exact .tuple (items rfl each)
    | map nested moved each =>
      refine .of_rearranged (Rearranged.mono ⟨_, moved, each⟩ fun entry there other related => ?_)
      exact ih entry.2 (.of_part (Value.value_mem_parts there)) related

/-! ## Groups of reordered maps -/

/-- The children under the word of a combinator are found wherever they stand. -/
theorem childrenOf?_perm (c : Combinator) (distinct : Ordered.Distinct entries)
    (moved : entries.Perm middle) : childrenOf? c entries = childrenOf? c middle := by
  induction moved with
  | nil => rfl
  | cons entry _ ih =>
    rw [childrenOf?_cons, childrenOf?_cons, ih (List.pairwise_cons.1 distinct).2]
  | swap entry other rest =>
    obtain ⟨key, value⟩ := entry
    obtain ⟨key', value'⟩ := other
    have apart := (List.pairwise_cons.1 distinct).1 key List.mem_cons_self
    simp only [childrenOf?_cons]
    by_cases here : key = .text c.word
    · -- only one of the two can stand under the word
      have elsewhere : key' ≠ .text c.word := by
        rintro rfl
        simp [here] at apart
      rw [if_pos here, if_pos here, if_neg elsewhere]
    · rw [if_neg here, if_neg here]
  | trans moved _ ih ih' => rw [ih distinct, ih' (distinct.perm moved)]

theorem rel_members? (reordered : Reordered .node first second) :
    Option.Rel (List.Forall₂ (Reordered .node)) first.members? second.members? := by
  cases reordered with
  | refl =>
    cases first.members? with
    | none => exact .none
    | some items => exact .some (List.forall₂_same.2 fun item _ => .refl item)
  | list each => exact .some each
  | tuple each => exact .some each
  | map => exact .none

theorem rel_childrenOf? (c : Combinator) (distinct : Ordered.Distinct entries)
    (reordered : ReorderedEntries entries fields) :
    Option.Rel (List.Forall₂ (Reordered .node)) (childrenOf? c entries) (childrenOf? c fields) := by
  obtain ⟨middle, moved, each⟩ := reordered
  rw [childrenOf?_perm c distinct moved]
  clear moved distinct
  induction each with
  | nil => exact .none
  | cons same _ ih =>
    cases same with
    | @under key value other related =>
      rw [childrenOf?_cons, childrenOf?_cons]
      split
      · next word =>
        rw [word, under_of_word] at related
        exact rel_members? related
      · exact ih

/-- Reordered maps stand for groups of the same combinator, of reordered children, or both for
none. -/
theorem rel_groupOf? (distinct : Ordered.Distinct entries)
    (reordered : ReorderedEntries entries fields) :
    Option.Rel (fun group group' => group.1 = group'.1 ∧
      List.Forall₂ (Reordered .node) group.2 group'.2) (groupOf? entries) (groupOf? fields) := by
  have any := rel_childrenOf? .any distinct reordered
  have all := rel_childrenOf? .all distinct reordered
  rw [groupOf?, groupOf?]
  generalize childrenOf? .any entries = first, childrenOf? .any fields = first' at any
  generalize childrenOf? .all entries = second, childrenOf? .all fields = second' at all
  cases any with
  | some each => exact .some ⟨rfl, each⟩
  | none =>
    cases all with
    | some each => exact .some ⟨rfl, each⟩
    | none => exact .none

/-! ## Compiling reordered filters -/

theorem rearranged_compileFields (reordered : ReorderedEntries entries fields)
    (each : ∀ entry ∈ entries, ∀ other, Reordered .field entry.2 other → ∀ path,
      Alike (convertAt s depth path entry.2).value (convertAt s depth path other).value)
    (path : Option String) :
    Rearranged (fun _ => Alike) (compileFields s depth path entries).value
      (compileFields s depth path fields).value := by
  rw [value_compileFields, value_compileFields]
  have kept : ReorderedEntries (fieldsOf entries) (fieldsOf fields) :=
    reordered.filter fun key => !isCombinatorKey key
  refine Rearranged.map (fun key value => (convertAt s depth (fieldPath path key) value).value)
    (kept.mono fun entry there other related => ?_)
  obtain ⟨among, field⟩ := List.mem_filter.1 there
  rw [under_of_field (by simpa using field)] at related
  exact each entry among other related _

/-- The value of a field that is reordered outside of operator objects converts to something
alike. -/
theorem alike_convertAt (reordered : Reordered .field value other) :
    ∀ (depth : Nat) (path : Option String),
      Alike (convertAt s depth path value).value (convertAt s depth path other).value := by
  induction value using Value.inside_induction generalizing other with
  | step value ih =>
    intro depth path
    have alike := reordered.alike
    cases reordered with
    | refl => exact .refl _
    | @map _ entries middle fields nested moved each =>
      have rearranged : ReorderedEntries entries fields := ⟨middle, moved, each⟩
      have nested' := nested rfl
      rw [isOperatorObject_perm rearranged.keys_perm] at nested'
      cases within : s.maxDepth.admits (depth + 1) with
      | false =>
        rw [convertAt_of_beyond (nested rfl) within, convertAt_of_beyond nested' within]
        exact alike
      | true =>
        rw [convertAt_nested (nested rfl) within, convertAt_nested nested' within]
        refine .of_rearranged (rearranged_compileFields rearranged ?_ path)
        intro entry there other related path'
        exact ih entry.2 (.of_part (Value.value_mem_parts there)) related (depth + 1) path'

/-- Key order matters only inside of operator objects. Two filters that differ in the order of the
entries of other maps, however deep inside, compile to values that differ in the order of keys at
most, on every level and under every depth bound. -/
theorem alike_compileAt (keyed : first.Keyed) (reordered : Reordered .node first second) :
    ∀ depth, Alike (compileAt s depth first).value (compileAt s depth second).value := by
  induction first using Value.inside_induction generalizing second with
  | step first ih =>
    intro depth
    have alike := reordered.alike
    have children {items others : List Value} (inside : ∀ item ∈ items, item.Inside first)
        (each : List.Forall₂ (Reordered .node) items others) :
        List.Forall₂ Alike (items.map fun item => (compileAt s (depth + 1) item).value)
          (others.map fun item => (compileAt s (depth + 1) item).value) := by
      rw [List.forall₂_map_left_iff, List.forall₂_map_right_iff]
      have among := (List.forall₂_and_left items others).2 ⟨inside, each⟩
      refine among.imp fun item other both => ?_
      exact ih item both.1 (keyed.of_occurs (.of_inside both.1)) both.2 (depth + 1)
    have sequence {items others : List Value} (members : first.members? = some items)
        (members' : second.members? = some others)
        (each : List.Forall₂ (Reordered .node) items others) :
        Alike (compileAt s depth first).value (compileAt s depth second).value := by
      rw [compileAt_sequence members, compileAt_sequence members']
      split
      · rw [Logged.value_map, Logged.value_map, value_compileEach, value_compileEach]
        refine alike_disjunction (children (fun item there => ?_) each)
        exact .of_part (Value.mem_parts_of_members members there)
      · exact alike
    cases reordered with
    | refl => exact .refl _
    | list each => exact sequence rfl rfl each
    | tuple each => exact sequence rfl rfl each
    | @map _ entries middle fields _ moved each =>
      have rearranged : ReorderedEntries entries fields := ⟨middle, moved, each⟩
      have groups := rel_groupOf? (keyed entries .here) rearranged
      rw [compileAt_entries, compileAt_entries]
      split
      · generalize found : groupOf? entries = group, groupOf? fields = group' at groups
        cases groups with
        | none =>
          refine .of_rearranged (rearranged_compileFields rearranged ?_ none)
          intro entry there other related path
          exact alike_convertAt related depth path
        | @some group group' both =>
          obtain ⟨c, items⟩ := group
          obtain ⟨c', others⟩ := group'
          obtain ⟨rfl, each⟩ := both
          have inside (item : Value) (there : item ∈ items) := inside_of_groupOf found there
          dsimp only
          rw [value_group, value_group]
          refine alike_join c (List.forall_mem_map.2 fun item there => ?_) (children inside each)
          exact testsApart_compileAt (keyed.of_occurs (.of_inside (inside item there)))
      · exact alike

/-- An `AND` group with two tests on stars, next to a field that is not looked at. -/
def titleFirst : Value :=
  .map [(.text "id", .int 1), (.text "AND", .list
    [.map [(.text "title", .text "a"),
      (.text "stars", .map [(.text "gt", .int 1), (.text "lt", .int 9)])],
    .map [(.text "stars", .int 3),
      (.text "parent", .map [(.text "id", .int 1), (.text "title", .text "b")])]])]

/-- The same with all entries in another order, but for the two operators. -/
def starsFirst : Value :=
  .map [(.text "AND", .list
    [.map [(.text "stars", .map [(.text "gt", .int 1), (.text "lt", .int 9)]),
      (.text "title", .text "a")],
    .map [(.text "parent", .map [(.text "title", .text "b"), (.text "id", .int 1)]),
      (.text "stars", .int 3)]]), (.text "id", .int 1)]

/-- The tests come in another order, and the map of the relation, which lies beyond the bound, is
left with its entries in another order. -/
theorem alike_compileAt_starsFirst :
    Alike (compile ⟨true, .int 1⟩ titleFirst).value (compile ⟨true, .int 1⟩ starsFirst).value ∧
      (compile ⟨true, .int 1⟩ starsFirst).value =
        .map [(.text "stars", .int 3), (.text "title", .text "a"),
          (.text "parent", .map [(.text "title", .text "b"), (.text "id", .int 1)])] := by
  have keyed : titleFirst.Keyed := by
    simp [titleFirst, Ordered.Distinct, Ordered.keys]
  have reordered : Reordered .node titleFirst starsFirst := by
    -- each of the four maps is a pair of entries that change places
    have swapped {place : Place} {key key' : Value} {first first' second second' : Value}
        (nested : place = .field → isOperatorObject [(key, first), (key', second)] = false)
        (here : Reordered (.under key) first first')
        (there : Reordered (.under key') second second') :
        Reordered place (.map [(key, first), (key', second)])
          (.map [(key', second'), (key, first')]) :=
      .map nested (.swap _ _ _) (.cons (.under there) (.cons (.under here) .nil))
    refine swapped (by simp) (.refl _) (.list (.cons ?_ (.cons ?_ .nil)))
    · exact swapped (by simp) (.refl _) (.refl _)
    · exact swapped (by simp) (.refl _) (swapped (fun _ => rfl) (.refl _) (.refl _))
  exact ⟨alike_compileAt keyed reordered 0, rfl⟩

end Filter

end ListQuery
