import ListQuery.Entity.Hierarchy
import Mathlib.Data.List.Find

/-!
# Fields that classes inherit

A class has one field for each name that some class of its lineage declares. Which declaration it
is, is decided step by step: the last one of its own body, or else the field of the last base that
has one. A base hands on what it has itself inherited, too, so that with several bases a field
that is declared anew by one of them may come back as it was from another.

The lineage is to decide: the first of its classes whose own body declares the name. Both agree
where the bases of a class take a field that it does not declare from one and the same class. What
carries this over from the bases to the class is that the lineage is a merge: it lists nothing
twice and keeps the order of each of the lineages of the bases, so that a class that comes first
among all of them comes first in each that lists it.

## Main definitions

* `IsMerge` says what a merge of lists is.
* `ClassBodies` says what is declared by which class, `EntityClass.Made` holds of the classes that
  can be made from such bodies.
* `EntityClass.field?` looks a field of a class up, `ClassBodies.lastDeclared?` a declaration.
* `ClassBodies.origin?` is the first class of the lineage that declares a name.
* `EntityClass.Settled` holds where no class of the ancestry has to choose between fields from
  different classes.

## Main results

* `isMerge_mergeLineages`: lineages are merged.
* `EntityClass.field?_of_make`: a class has its own declarations, then those of its last base.
* `EntityClass.Settled.field?_eq`: where it is settled, the lineage decides.
* `EntityClass.Made.fields_inherited` puts them together.
* `EntityClass.override_lost`: a field that is declared anew can be lost.
-/

namespace ListQuery

/-! ## Merging lineages -/

section Merging

variable {α : Type}

/-- A list that puts lists together, without repetition and in the order of each. -/
structure IsMerge (lists : List (List α)) (merged : List α) : Prop where
  /-- Nothing is listed twice. -/
  nodup : merged.Nodup
  /-- Each list stands in it, in its order. -/
  sublist : ∀ list ∈ lists, list.Sublist merged
  /-- There is nothing else in it. -/
  exists_mem : ∀ x ∈ merged, ∃ list ∈ lists, x ∈ list

/-- What is found first in a list without repetition is found first in every part of the list
where it occurs. -/
theorem find?_of_sublist {p : α → Bool} {part whole : List α} (sub : part.Sublist whole)
    (nodup : whole.Nodup) {x : α} (found : whole.find? p = some x) (there : x ∈ part) :
    part.find? p = some x := by
  induction sub with
  | slnil => cases there
  | @cons part whole first sub ih =>
    obtain ⟨once, nodup⟩ := List.nodup_cons.1 nodup
    rw [List.find?_cons] at found
    cases hit : p first with
    | true =>
      -- what is found stands before the part, and cannot come again in it
      simp only [hit, Option.some.injEq] at found
      exact absurd (sub.subset (found ▸ there)) once
    | false =>
      simp only [hit] at found
      exact ih nodup found there
  | @cons_cons part whole first sub ih =>
    obtain ⟨-, nodup⟩ := List.nodup_cons.1 nodup
    rw [List.find?_cons] at found ⊢
    cases hit : p first with
    | true => simpa only [hit] using found
    | false =>
      simp only [hit] at found ⊢
      rcases List.mem_cons.1 there with rfl | later
      · exact absurd (List.find?_some found) (by simp [hit])
      · exact ih nodup found later

theorem isMerge_of_all_isEmpty {lists : List (List α)} (none : lists.all List.isEmpty = true) :
    IsMerge lists [] := by
  refine ⟨List.nodup_nil, fun list there => ?_, by simp⟩
  obtain rfl := List.isEmpty_iff.1 (List.all_eq_true.1 none list there)
  exact List.Sublist.slnil

variable [DecidableEq α]

theorem freeHead?_eq_some {lists : List (List α)} {head : α}
    (free : freeHead? lists = some head) :
    (∃ list ∈ lists, list.head? = some head) ∧ ∀ list ∈ lists, head ∉ list.tail := by
  refine ⟨List.mem_filterMap.1 (List.mem_of_find?_eq_some free), ?_⟩
  simpa using List.find?_some free

/-- A head that stands in no tail is nowhere once it is dropped. -/
theorem not_mem_of_mem_dropHead {lists : List (List α)} {head : α}
    (free : ∀ list ∈ lists, head ∉ list.tail) : ∀ list ∈ dropHead head lists, head ∉ list := by
  intro dropped among
  obtain ⟨list, there, rfl⟩ := List.mem_map.1 among
  have later := free list there
  cases list with
  | nil => simp
  | cons first rest =>
    split
    · exact later
    · next other =>
      rw [List.head?_cons, Option.some.injEq] at other
      exact fun here => (List.mem_cons.1 here).elim (fun same => other same.symm) later

/-- Putting a free head before a merge of what is left gives a merge. -/
theorem IsMerge.cons {lists : List (List α)} {head : α} {rest : List α}
    (free : freeHead? lists = some head) (merge : IsMerge (dropHead head lists) rest) :
    IsMerge lists (head :: rest) := by
  obtain ⟨⟨first, among, starts⟩, elsewhere⟩ := freeHead?_eq_some free
  refine ⟨?_, ?_, ?_⟩
  · refine List.nodup_cons.2 ⟨fun again => ?_, merge.nodup⟩
    obtain ⟨list, there, inside⟩ := merge.exists_mem head again
    exact not_mem_of_mem_dropHead elsewhere list there inside
  · -- a list that starts with the head has lost it, any other is as it was
    intro list there
    have left := merge.sublist _ (List.mem_map_of_mem there)
    split at left
    · next here =>
      obtain ⟨tail, rfl⟩ := List.head?_eq_some_iff.1 here
      exact left.cons_cons head
    · exact left.cons head
  · intro x there
    rcases List.mem_cons.1 there with rfl | later
    · exact ⟨first, among, List.mem_of_mem_head? starts⟩
    · obtain ⟨dropped, inside, member⟩ := merge.exists_mem x later
      obtain ⟨list, there, rfl⟩ := List.mem_map.1 inside
      refine ⟨list, there, ?_⟩
      split at member
      · exact List.mem_of_mem_tail member
      · exact member

theorem isMerge_mergeSteps {steps : Nat} {lists : List (List α)} {merged : List α}
    (ok : mergeSteps steps lists = .ok merged) : IsMerge lists merged := by
  induction steps generalizing lists merged with
  | zero =>
    rw [mergeSteps] at ok
    split at ok
    · next none =>
      cases ok
      exact isMerge_of_all_isEmpty none
    · cases ok
  | succ steps ih =>
    rw [mergeSteps] at ok
    split at ok
    · next none =>
      cases ok
      exact isMerge_of_all_isEmpty none
    · split at ok
      · cases ok
      · next head free =>
        cases later : mergeSteps steps (dropHead head lists) with
        | error heads =>
          rw [later] at ok
          cases ok
        | ok rest =>
          rw [later] at ok
          cases ok
          exact .cons free (ih later)

/-- Lists that can be merged are merged. -/
theorem isMerge_mergeLineages {lists : List (List α)} {merged : List α}
    (ok : mergeLineages lists = .ok merged) : IsMerge lists merged :=
  isMerge_mergeSteps ok

end Merging

/-! ## Classes and their bodies -/

/-- What the body of each class assigns to attributes. That of the root assigns nothing. -/
structure ClassBodies where
  body : ClassRef → Ordered String ClassAttribute
  root_eq : body rootClass = []

/-- The last field of a name that the body of a class itself declares. -/
def ClassBodies.lastDeclared? (bodies : ClassBodies) (name : Value) (ref : ClassRef) :
    Option Field :=
  (EntityClass.declaredFields (bodies.body ref)).reverse.find? fun f => f.name == name

/-- The first class of a lineage whose own body declares a field of a name. -/
def ClassBodies.origin? (bodies : ClassBodies) (name : Value) (lineage : List ClassRef) :
    Option ClassRef :=
  lineage.find? fun ref => (bodies.lastDeclared? name ref).isSome

theorem ClassBodies.isSome_of_origin? (bodies : ClassBodies) {name : Value}
    {lineage : List ClassRef} {origin : ClassRef}
    (first : bodies.origin? name lineage = some origin) :
    (bodies.lastDeclared? name origin).isSome := by
  rw [ClassBodies.origin?, List.find?_eq_some_iff_append] at first
  exact first.1

theorem ClassBodies.lastDeclared?_root (bodies : ClassBodies) (name : Value) :
    bodies.lastDeclared? name rootClass = none := by
  rw [ClassBodies.lastDeclared?, bodies.root_eq]
  rfl

namespace EntityClass

/-- The field of a name. -/
def field? (c : EntityClass) (name : Value) : Option Field := c.fields.find? fun f => f.name == name

/-- The bases that count: a class without bases descends from the root. -/
def parents (bases : List EntityClass) : List EntityClass :=
  if bases.isEmpty then [root] else bases

/-- The classes that can be made, one after the other, from bodies. -/
inductive Made (bodies : ClassBodies) : EntityClass → Prop
  | root : Made bodies root
  | derived {ref : ClassRef} {bases : List EntityClass} {c : EntityClass}
      (known : ∀ base ∈ bases, Made bodies base)
      (made : make ref bases (bodies.body ref) = .ok c) : Made bodies c

variable {bodies : ClassBodies} {ref : ClassRef} {bases : List EntityClass} {c : EntityClass}

/-- What is made has the fields that were collected, and its lineage is a merge of those of its
bases, behind itself. -/
theorem make_eq_ok {body : Ordered String ClassAttribute} (made : make ref bases body = .ok c) :
    c.ref = ref ∧ c.fields = collectFields bases (declaredFields body) ∧
      ∃ ancestors, c.lineage = ref :: ancestors ∧
        IsMerge ((parents bases).map lineage ++ [(parents bases).map EntityClass.ref])
          ancestors := by
  simp only [make, bind, Except.bind] at made
  split at made
  · cases made
  · split at made
    · cases made
    · next lineage merged =>
      cases made
      refine ⟨rfl, rfl, ?_⟩
      rw [lineageOf] at merged
      split at merged
      · cases merged
      · split at merged
        · next ancestors ok =>
          cases merged
          exact ⟨ancestors, rfl, isMerge_mergeLineages ok⟩
        · cases merged

/-- A class stands first in its lineage. -/
theorem Made.ref_mem (made : Made bodies c) : c.ref ∈ c.lineage := by
  cases made with
  | root => exact List.mem_cons_self
  | derived known made =>
    obtain ⟨rfl, -, ancestors, lineage, -⟩ := make_eq_ok made
    rw [lineage]
    exact List.mem_cons_self

theorem mem_parents_made (known : ∀ base ∈ bases, Made bodies base) :
    ∀ parent ∈ parents bases, Made bodies parent := by
  intro parent there
  rw [parents] at there
  split at there
  · rw [List.mem_singleton.1 there]
    exact .root
  · exact known parent there

/-- The lineage of a class lists the class and what the lineages of its parents list. -/
theorem mem_lineage_of_make (known : ∀ base ∈ bases, Made bodies base)
    (made : make ref bases (bodies.body ref) = .ok c) (other : ClassRef) :
    other ∈ c.lineage ↔ other = ref ∨ ∃ parent ∈ parents bases, other ∈ parent.lineage := by
  obtain ⟨-, -, ancestors, lineage, merge⟩ := make_eq_ok made
  rw [lineage, List.mem_cons]
  refine or_congr_right ⟨fun there => ?_, fun ⟨parent, among, there⟩ => ?_⟩
  · obtain ⟨list, among, there⟩ := merge.exists_mem other there
    rcases List.mem_append.1 among with inherited | refs
    · obtain ⟨parent, parentThere, rfl⟩ := List.mem_map.1 inherited
      exact ⟨parent, parentThere, there⟩
    · -- a base that is listed itself stands in its own lineage as well
      rw [List.mem_singleton.1 refs] at there
      obtain ⟨parent, among, rfl⟩ := List.mem_map.1 there
      exact ⟨parent, among, (mem_parents_made known parent among).ref_mem⟩
  · have inherited : parent.lineage ∈
        (parents bases).map EntityClass.lineage ++ [(parents bases).map EntityClass.ref] :=
      List.mem_append_left _ (List.mem_map_of_mem among)
    exact (merge.sublist _ inherited).subset there

/-! ## Collected fields -/

/-- Fields by their names. -/
def keyed (fields : List Field) : Ordered Value Field := fields.map fun f => (f.name, f)

theorem find?_keyed (name : Value) (fields : List Field) :
    Ordered.find? name (keyed fields) = fields.find? fun f => f.name == name := by
  rw [Ordered.find?_eq, keyed, List.find?_map, Option.map_map]
  exact congrFun Option.map_id _

/-- A field stands under its name, or under one that is the same key. -/
theorem beq_of_mem_ofEntries_keyed {key : Value} {f : Field} {fields : List Field}
    (there : (key, f) ∈ Ordered.ofEntries (keyed fields)) (name : Value) :
    (key == name) = (f.name == name) := by
  obtain ⟨-, other, among, same⟩ := Ordered.mem_ofEntries there
  obtain ⟨g, -, written⟩ := List.mem_map.1 among
  obtain ⟨rfl, rfl⟩ := Prod.mk.inj written
  rcases same with rfl | same
  · rfl
  · exact BEq.congr_left same

theorem collectFields_eq (bases : List EntityClass) (own : List Field) :
    collectFields bases own =
      (Ordered.ofEntries (keyed (bases.flatMap fields ++ own))).map Prod.snd := rfl

/-- No two collected fields have the same name. -/
theorem pairwise_collectFields (bases : List EntityClass) (own : List Field) :
    (collectFields bases own).Pairwise fun f g => (f.name == g.name) = false := by
  rw [collectFields_eq, List.pairwise_map]
  have distinct := Ordered.distinct_ofEntries (keyed (bases.flatMap fields ++ own))
  rw [Ordered.Distinct, Ordered.keys, List.pairwise_map] at distinct
  refine distinct.imp_of_mem fun {entry other} there there' apart => ?_
  -- both keys may be replaced by the names of the fields
  rwa [beq_of_mem_ofEntries_keyed there, BEq.comm, beq_of_mem_ofEntries_keyed there',
    BEq.comm] at apart

theorem Made.pairwise_fields (made : Made bodies c) :
    c.fields.Pairwise fun f g => (f.name == g.name) = false := by
  cases made with
  | root => exact List.Pairwise.nil
  | derived known made =>
    obtain ⟨-, fields, -⟩ := make_eq_ok made
    rw [fields]
    exact pairwise_collectFields _ _

theorem find?_collectFields (bases : List EntityClass) (own : List Field) (name : Value) :
    ((collectFields bases own).find? fun f => f.name == name) =
      Ordered.find? name (Ordered.ofEntries (keyed (bases.flatMap fields ++ own))) := by
  rw [collectFields_eq, List.find?_map, Ordered.find?_eq]
  congr 1
  refine List.find?_congr fun entry there => ?_
  exact (beq_of_mem_ofEntries_keyed there name).symm

theorem keyed_append (fields others : List Field) :
    keyed (fields ++ others) = keyed fields ++ keyed others := List.map_append

theorem keyed_flatMap (bases : List EntityClass) :
    keyed (bases.flatMap fields) = bases.flatMap fun base => keyed base.fields :=
  List.map_flatMap

/-- A class has the last declaration of its own body, or else what the last base that has such a
field has. -/
theorem field?_of_make (known : ∀ base ∈ bases, Made bodies base)
    (made : make ref bases (bodies.body ref) = .ok c) (name : Value) :
    c.field? name = (bodies.lastDeclared? name ref).or
      (bases.reverse.findSome? fun base => base.field? name) := by
  obtain ⟨-, fields, -⟩ := make_eq_ok made
  have distinct : ∀ base ∈ bases, Ordered.Distinct (keyed base.fields) := by
    intro base there
    rw [Ordered.Distinct, Ordered.keys, keyed, List.map_map, List.pairwise_map]
    exact (known base there).pairwise_fields
  have inherited : Ordered.find? name (keyed (bases.flatMap EntityClass.fields)).reverse =
      bases.reverse.findSome? fun base => base.field? name := by
    rw [← Ordered.find?_ofEntries, keyed_flatMap, Ordered.find?_ofEntries_flatMap distinct]
    simp only [find?_keyed, field?]
  have own (fields : List Field) : Ordered.find? name (keyed fields).reverse =
      fields.reverse.find? fun f => f.name == name := by
    rw [keyed, ← List.map_reverse, ← keyed, find?_keyed]
  rw [field?, fields, find?_collectFields, Ordered.find?_ofEntries, keyed_append,
    List.reverse_append, Ordered.find?_append, inherited, own, ClassBodies.lastDeclared?]

/-- A field of a class is the last declaration of its name in a class of the lineage. -/
theorem Made.exists_lastDeclared (made : Made bodies c) {name : Value} {f : Field}
    (found : c.field? name = some f) :
    ∃ ref ∈ c.lineage, bodies.lastDeclared? name ref = some f := by
  induction made with
  | root => cases found
  | @derived ref bases c known made ih =>
    rw [field?_of_make known made, Option.or_eq_some_iff] at found
    rcases found with own | ⟨-, inherited⟩
    · exact ⟨ref, (mem_lineage_of_make known made ref).2 (Or.inl rfl), own⟩
    · obtain ⟨base, there, found⟩ := List.exists_of_findSome?_eq_some inherited
      rw [List.mem_reverse] at there
      obtain ⟨origin, among, declared⟩ := ih base there found
      have parent : base ∈ parents bases := by
        rw [parents, if_neg (by simpa using List.ne_nil_of_mem there)]
        exact there
      exact ⟨origin, (mem_lineage_of_make known made origin).2 (Or.inr ⟨base, parent, among⟩),
        declared⟩

/-- A name that a class of the lineage declares is that of a field. -/
theorem Made.isSome_field? (made : Made bodies c) {name : Value} {origin : ClassRef}
    (among : origin ∈ c.lineage) (declared : (bodies.lastDeclared? name origin).isSome) :
    (c.field? name).isSome := by
  induction made with
  | root =>
    rw [List.mem_singleton.1 among, bodies.lastDeclared?_root] at declared
    cases declared
  | @derived ref bases c known made ih =>
    rw [field?_of_make known made, Option.isSome_or, Bool.or_eq_true]
    rcases (mem_lineage_of_make known made origin).1 among with rfl | ⟨parent, there, among⟩
    · exact Or.inl declared
    · right
      rw [parents] at there
      split at there
      · rw [List.mem_singleton.1 there] at among
        rw [List.mem_singleton.1 among, bodies.lastDeclared?_root] at declared
        cases declared
      · rw [List.findSome?_isSome_iff]
        exact ⟨parent, List.mem_reverse.2 there, ih parent there among⟩

/-! ## Where the lineage decides -/

/-- Classes whose field of a name is settled: a class declares it itself, or its parents are
settled and all that have the field have it from the same class. -/
inductive Settled (bodies : ClassBodies) (name : Value) : EntityClass → Prop
  | root : Settled bodies name root
  | own {ref : ClassRef} {bases : List EntityClass} {c : EntityClass}
      (known : ∀ base ∈ bases, Made bodies base)
      (made : make ref bases (bodies.body ref) = .ok c)
      (declared : (bodies.lastDeclared? name ref).isSome) : Settled bodies name c
  | inherited {ref : ClassRef} {bases : List EntityClass} {c : EntityClass}
      (settled : ∀ base ∈ bases, Settled bodies name base)
      (made : make ref bases (bodies.body ref) = .ok c)
      (agree : ∀ base ∈ bases, ∀ other ∈ bases, ∀ origin origin',
        bodies.origin? name base.lineage = some origin →
          bodies.origin? name other.lineage = some origin' → origin = origin') :
      Settled bodies name c

theorem Settled.made {name : Value} (settled : Settled bodies name c) : Made bodies c := by
  induction settled with
  | root => exact .root
  | own known made _ => exact .derived known made
  | inherited _ made _ ih => exact .derived ih made

/-- With a single base, nothing is to be chosen. -/
theorem Settled.of_single {name : Value} {base : EntityClass}
    (settled : Settled bodies name base) (made : make ref [base] (bodies.body ref) = .ok c) :
    Settled bodies name c := by
  refine .inherited (by simpa using settled) made ?_
  intro b there b' there' origin origin' from_ from'
  rw [List.mem_singleton.1 there] at from_
  rw [List.mem_singleton.1 there'] at from'
  exact Option.some.inj (from_.symm.trans from')

/-- What a class does not declare itself comes from the class it comes from in a base. -/
theorem origin?_of_make (known : ∀ base ∈ bases, Made bodies base)
    (made : make ref bases (bodies.body ref) = .ok c) {name : Value}
    (undeclared : bodies.lastDeclared? name ref = none) {origin : ClassRef}
    (first : bodies.origin? name c.lineage = some origin) :
    ∃ base ∈ bases, bodies.origin? name base.lineage = some origin := by
  have declared := bodies.isSome_of_origin? first
  have among := List.mem_of_find?_eq_some first
  rcases (mem_lineage_of_make known made origin).1 among with rfl | ⟨base, there, inside⟩
  · simp [undeclared] at declared
  · obtain ⟨-, -, ancestors, lineage, merge⟩ := make_eq_ok made
    rw [lineage, ClassBodies.origin?, List.find?_cons, undeclared] at first
    -- what comes first in the merge comes first in each lineage that lists it
    have part := merge.sublist base.lineage
      (List.mem_append_left _ (List.mem_map_of_mem there))
    refine ⟨base, ?_, find?_of_sublist part merge.nodup first inside⟩
    rw [parents] at there
    split at there
    · -- the root declares nothing
      rw [List.mem_singleton.1 there] at inside
      rw [List.mem_singleton.1 inside, bodies.lastDeclared?_root] at declared
      cases declared
    · exact there

/-- A class that declares a field itself has its own last declaration. -/
theorem field?_of_declared (known : ∀ base ∈ bases, Made bodies base)
    (made : make ref bases (bodies.body ref) = .ok c) {name : Value} {f : Field}
    (own : bodies.lastDeclared? name ref = some f) :
    c.field? name = (bodies.origin? name c.lineage).bind (bodies.lastDeclared? name) := by
  obtain ⟨-, -, ancestors, lineage, -⟩ := make_eq_ok made
  rw [field?_of_make known made, lineage, ClassBodies.origin?, List.find?_cons, own]
  simp [own]

/-- Where a field is settled, it is the last declaration in the first class of the lineage that
declares it. -/
theorem Settled.field?_eq {name : Value} (settled : Settled bodies name c) :
    c.field? name = (bodies.origin? name c.lineage).bind (bodies.lastDeclared? name) := by
  induction settled with
  | root =>
    simp [field?, EntityClass.root, ClassBodies.origin?, bodies.lastDeclared?_root]
  | own known made declared =>
    obtain ⟨f, own⟩ := Option.isSome_iff_exists.1 declared
    exact field?_of_declared known made own
  | @inherited ref bases c settled made agree ih =>
    have known : ∀ base ∈ bases, Made bodies base := fun base there => (settled base there).made
    have derived : Made bodies c := .derived known made
    cases own : bodies.lastDeclared? name ref with
    | some f => exact field?_of_declared known made own
    | none =>
      cases first : bodies.origin? name c.lineage with
      | none =>
        -- no class declares the name, so there is nothing to find
        rw [Option.bind_none, ← Option.not_isSome_iff_eq_none]
        intro found
        obtain ⟨f, found⟩ := Option.isSome_iff_exists.1 found
        obtain ⟨origin, among, declared⟩ := derived.exists_lastDeclared found
        have nothing := List.find?_eq_none.1 first origin among
        simp [declared] at nothing
      | some origin =>
        have among := List.mem_of_find?_eq_some first
        have declared := bodies.isSome_of_origin? first
        obtain ⟨f, found⟩ := Option.isSome_iff_exists.1 (derived.isSome_field? among declared)
        obtain ⟨source, there, same⟩ := origin?_of_make known made own first
        -- the base that the field is found in has it from the class that comes first
        rw [found]
        rw [field?_of_make known made, own, Option.none_or] at found
        obtain ⟨base, there', found⟩ := List.exists_of_findSome?_eq_some found
        rw [List.mem_reverse] at there'
        rw [ih base there', Option.bind_eq_some_iff] at found
        obtain ⟨origin', first', found⟩ := found
        rw [agree source there base there' origin origin' same first']
        exact found.symm

/-- Of a class that can be made, no two fields have the same name, and the fields are those that
the lineage declares. A class with a declaration of its own has the last one, and any other has
the field of the last base that has one; where no class of the ancestry has to choose, that is
the last declaration in the first class of the lineage that declares the name. -/
theorem Made.fields_inherited (made : Made bodies c) :
    (c.fields.Pairwise fun f g => (f.name == g.name) = false) ∧
      (∀ name f, c.field? name = some f →
        ∃ origin ∈ c.lineage, bodies.lastDeclared? name origin = some f) ∧
      (∀ name, ∀ origin ∈ c.lineage, (bodies.lastDeclared? name origin).isSome →
        (c.field? name).isSome) ∧
      (∀ ref bases, (∀ base ∈ bases, Made bodies base) →
        make ref bases (bodies.body ref) = .ok c →
          ∀ name, c.field? name = (bodies.lastDeclared? name ref).or
            (bases.reverse.findSome? fun base => base.field? name)) ∧
      ∀ name, Settled bodies name c →
        c.field? name = (bodies.origin? name c.lineage).bind (bodies.lastDeclared? name) :=
  ⟨made.pairwise_fields, fun _ _ => made.exists_lastDeclared,
    fun _ _ among declared => made.isSome_field? among declared,
    fun _ _ known derived => field?_of_make known derived, fun _ settled => settled.field?_eq⟩

/-! ## Reports

Documents have a title. What is filed is a document as it is, what is numbered a document whose
title is a number, and a report is both. -/

/-- A title of some kind. -/
def title (kind : ScalarKind) : Field := ⟨.text "title", .scalar kind, true, true⟩

/-- The body of a class that declares a title of some kind. -/
def titled (kind : ScalarKind) : Ordered String ClassAttribute :=
  [("title", .declared ⟨.scalar kind, true, true, .null⟩)]

/-- What the classes declare, by the order in which they are made. -/
def reportBodies : ClassBodies where
  body ref :=
    match ref.id with
    | 1 => titled .string
    | 3 => titled .number
    | _ => []
  root_eq := rfl

def documents : EntityClass :=
  ⟨⟨1, "Document"⟩, .text "Document", [title .string], [⟨1, "Document"⟩, rootClass]⟩

def filed : EntityClass :=
  ⟨⟨2, "Filed"⟩, .text "Filed", [title .string], ⟨2, "Filed"⟩ :: documents.lineage⟩

def numbered : EntityClass :=
  ⟨⟨3, "Numbered"⟩, .text "Numbered", [title .number], ⟨3, "Numbered"⟩ :: documents.lineage⟩

def reports : EntityClass :=
  ⟨⟨4, "Report"⟩, .text "Report", [title .string],
    [⟨4, "Report"⟩, numbered.ref, filed.ref, documents.ref, rootClass]⟩

theorem make_documents :
    make documents.ref [] (reportBodies.body documents.ref) = .ok documents := rfl

theorem make_filed : make filed.ref [documents] (reportBodies.body filed.ref) = .ok filed := rfl

theorem make_numbered :
    make numbered.ref [documents] (reportBodies.body numbered.ref) = .ok numbered := rfl

theorem make_reports :
    make reports.ref [numbered, filed] (reportBodies.body reports.ref) = .ok reports := rfl

theorem made_documents : Made reportBodies documents :=
  .derived (List.forall_mem_nil _) make_documents

theorem made_numbered : Made reportBodies numbered :=
  .derived (List.forall_mem_singleton.2 made_documents) make_numbered

/-- What is filed has its title from its only base. -/
theorem settled_filed : Settled reportBodies (.text "title") filed :=
  .of_single (.own (List.forall_mem_nil _) make_documents rfl) make_filed

/-- What is numbered declares its title anew, which settles it. -/
theorem settled_numbered : Settled reportBodies (.text "title") numbered :=
  .own (List.forall_mem_singleton.2 made_documents) make_numbered rfl

theorem made_bases : ∀ base ∈ [numbered, filed], Made reportBodies base :=
  List.forall_mem_cons.2 ⟨made_numbered, List.forall_mem_singleton.2 settled_filed.made⟩

theorem made_reports : Made reportBodies reports := .derived made_bases make_reports

/-- The titles of what is filed and of what is numbered are those that their lineages decide on;
the title that reports have they have from the last of their bases. -/
theorem Made.fields_inherited_reports :
    filed.field? (.text "title") = some (title .string) ∧
      numbered.field? (.text "title") = some (title .number) ∧
      reports.field? (.text "title") = filed.field? (.text "title") := by
  obtain ⟨-, -, -, -, ofFiled⟩ := Made.fields_inherited settled_filed.made
  obtain ⟨-, -, -, -, ofNumbered⟩ := Made.fields_inherited made_numbered
  obtain ⟨-, -, -, inherited, -⟩ := Made.fields_inherited made_reports
  refine ⟨?_, ?_, ?_⟩
  · rw [ofFiled _ settled_filed]
    decide
  · rw [ofNumbered _ settled_numbered]
    decide
  · rw [inherited _ _ made_bases make_reports]
    decide

/-- The title that reports have is not that of the first class of their lineage that declares
one: it is numbered there. -/
theorem override_lost :
    Made reportBodies reports ∧
      reportBodies.origin? (.text "title") reports.lineage = some numbered.ref ∧
      reportBodies.lastDeclared? (.text "title") numbered.ref = some (title .number) ∧
      reports.field? (.text "title") = some (title .string) :=
  ⟨made_reports, by decide, by decide, by decide⟩

end EntityClass

end ListQuery
