import ListQuery.Proofs.Filter.Operators
import ListQuery.Proofs.Filter.Visits

/-!
# The depth bound

A bound on the depth does two things and no third. A filter that stays within it compiles as if
there were no bound. Of one that does not, exactly the containers on the first level beyond the
bound are reported, each by one notice, and nothing below these is visited.

Levels are counted at two places, where groups are entered and where the maps of relations are. So
all that is to be said about compiling is said of single steps first: a computation `Agrees` with
the containers it is about, and the ways in which compiling puts computations together keep that.
Then one induction over the values of fields and one over nodes remain.

## Main definitions

* `Bound.unlimited` admits every level.
* `Widens` relates settings whose depth bound is `m` to others that admit as much or more.
* `Agrees` relates a computation with its visits to the same without, to the same under a wider
  bound, and to the containers of what is compiled.

## Main results

* `agrees_traceWithin` and `agrees_traceAt`: compiling agrees with the containers of the value of a
  field, and with those of a node.
* `compile_depthBound`: the depth bound is transparent below and exact above.
-/

namespace ListQuery

/-- A notice of a container that is nested too deep. -/
def Notice.isTooDeep : Notice → Bool
  | .tooDeep _ => true
  | _ => false

/-- The bound that admits every level. -/
def Bound.unlimited : Bound := .float (Binary64.infinity false)

theorem Bound.admits_unlimited (n : Int) : Bound.unlimited.admits n = true := by
  have infinite : (Binary64.infinity false).compareInt n = some .gt := by
    rw [Binary64.compareInt, show (Binary64.infinity false).kind = .infinite by decide]
    rfl
  rw [Bound.admits, Bound.unlimited, Bound.compareInt, infinite]

namespace Filter

/-- Two ways of compiling that differ in the depth bound only: the first admits the levels up to
`m` and no more, the second admits these at least. -/
structure Widens (m : Nat) (s wide : Settings) : Prop where
  admits_iff : ∀ level : Nat, s.maxDepth.admits level = true ↔ level ≤ m
  admits_wide : ∀ level : Nat, level ≤ m → wide.maxDepth.admits level = true
  warnOnDiscarded : wide.warnOnDiscarded = s.warnOnDiscarded

/-- A computation under the depth bound `m`, with its visits and without, agrees with one under a
wider bound, and with the containers of what is compiled: up to the first level beyond the bound all
of them are visited, those on that level are reported, and if there are none on that level the wider
bound makes no difference. -/
structure Agrees {α : Type} (m : Nat) (containers : List Visit) (traced : Traced α)
    (bounded wide : Logged α) : Prop where
  logged : traced.logged = bounded
  visits : traced.visits = containers.filter fun visit => visit.level ≤ m + 1
  reported : bounded.notices.countP Notice.isTooDeep =
    containers.countP fun visit => visit.level = m + 1
  transparent : (∀ visit ∈ containers, visit.level ≠ m + 1) → wide = bounded

/-! ## What is kept by a single step -/

section Steps

variable {α β : Type} {m level : Nat} {s wide : Settings} {here below : List Visit}

theorem Agrees.ofLogged {l : Logged α} (quiet : l.notices.countP Notice.isTooDeep = 0) :
    Agrees m [] (.ofLogged l) l l := ⟨rfl, rfl, quiet, fun _ => rfl⟩

theorem Agrees.pure (x : α) : Agrees m [] (pure x) (pure x) (pure x) := .ofLogged rfl

theorem Agrees.bind {t : Traced α} {l u : Logged α} {t' : α → Traced β} {l' u' : α → Logged β}
    (first : Agrees m here t l u) (next : ∀ x, Agrees m below (t' x) (l' x) (u' x)) :
    Agrees m (here ++ below) (t >>= t') (l >>= l') (u >>= u') where
  logged := by
    change (t.logged >>= fun x => (t' x).logged) = l >>= l'
    rw [first.logged, funext fun x => (next x).logged]
  visits := by
    change t.visits ++ (t' t.logged.value).visits = _
    rw [first.visits, (next t.logged.value).visits, List.filter_append]
  reported := by
    rw [Logged.notices_bind, List.countP_append, List.countP_append, first.reported,
      (next l.value).reported]
  transparent := by
    intro none
    have noneHere := fun visit there => none visit (List.mem_append_left below there)
    have noneBelow := fun visit there => none visit (List.mem_append_right here there)
    -- the first parts are the same, so what goes on from their results may be compared
    rw [first.transparent noneHere, funext fun x => (next x).transparent noneBelow]

theorem Agrees.map (f : α → β) {t : Traced α} {l u : Logged α} (first : Agrees m here t l u) :
    Agrees m here (f <$> t) (f <$> l) (f <$> u) :=
  List.append_nil here ▸ first.bind fun x => .pure (f x)

/-- A container on a level up to the first beyond the bound, with what goes on inside. -/
theorem Agrees.enter (widens : Widens m s wide) (within : level ≤ m + 1) (node : Value)
    {t : Traced Value} {l u : Logged Value} (deeper : ∀ visit ∈ below, level < visit.level)
    (inside : level ≤ m → Agrees m below t l u) :
    Agrees m (⟨level, node⟩ :: below) (.enter s level node t)
      (if s.maxDepth.admits level then l else s.passOver node)
      (if wide.maxDepth.admits level then u else wide.passOver node) := by
  rcases Nat.lt_or_eq_of_le within with lower | rfl
  · have low : level ≤ m := Nat.le_of_lt_succ lower
    have agrees := inside low
    have apart : level ≠ m + 1 := Nat.ne_of_lt lower
    -- all of the tests succeed, and the container counts as visited, but not as reported
    rw [Traced.enter, if_pos ((widens.admits_iff level).2 low),
      if_pos ((widens.admits_iff level).2 low), if_pos (widens.admits_wide level low)]
    refine ⟨agrees.logged, ?_, ?_, fun none => ?_⟩
    · rw [agrees.visits, List.filter_cons_of_pos (by simpa using within)]
    · rw [agrees.reported, List.countP_cons_of_neg (by simpa using apart)]
    · exact agrees.transparent fun visit there => none visit (List.mem_cons_of_mem _ there)
  · -- on the first level beyond the bound the container is reported, and hides what is below it
    have beyond : ¬ s.maxDepth.admits ((m + 1 : Nat) : Int) = true := by
      rw [widens.admits_iff]
      exact Nat.not_succ_le_self m
    rw [Traced.enter, if_neg beyond, if_neg beyond]
    refine ⟨rfl, ?_, ?_, fun none => absurd rfl (none _ List.mem_cons_self)⟩
    · have hidden : below.filter (fun visit => visit.level ≤ m + 1) = [] :=
        List.filter_eq_nil_iff.2 fun visit there => by simpa using deeper visit there
      rw [List.filter_cons_of_pos (by simp), hidden]
    · have hidden : below.countP (fun visit => visit.level = m + 1) = 0 :=
        List.countP_eq_zero.2 fun visit there => by
          simpa using Nat.ne_of_gt (deeper visit there)
      rw [List.countP_cons_of_pos (by simp), hidden]
      rfl

end Steps

/-! ## Notices of other kinds -/

theorem countP_isTooDeep_reduce (c : Combinator) (compiled : Value) :
    (c.reduce compiled).notices.countP Notice.isTooDeep = 0 := by
  refine List.countP_eq_zero.2 fun notice there => ?_
  obtain ⟨dropped, rfl⟩ := exists_dropNotice_of_mem_reduce c compiled notice there
  cases c <;> exact Bool.false_ne_true

theorem countP_isTooDeep_apply (op : OperatorName) (operand : Value) :
    (op.apply operand).notices.countP Notice.isTooDeep = 0 := by
  refine List.countP_eq_zero.2 fun notice there => ?_
  rw [eq_malformedRange_of_mem_apply op operand notice there]
  exact Bool.false_ne_true

theorem countP_isTooDeep_applyFirst (s : Settings) (path : Option String)
    (entries : List (Value × Value)) :
    (applyFirst s path entries).notices.countP Notice.isTooDeep = 0 := by
  cases entries with
  | nil => rfl
  | cons first rest =>
    obtain ⟨key, operand⟩ := first
    have applied := countP_isTooDeep_apply (OperatorName.ofKey key) operand
    rw [applyFirst]
    split
    · rw [Logged.notices_bind, List.countP_append, applied]
      rfl
    · exact applied

/-! ## Compiling -/

variable {m depth : Nat} {s wide : Settings}

theorem Widens.applyFirst_eq (widens : Widens m s wide) (path : Option String)
    (entries : List (Value × Value)) :
    applyFirst wide path entries = applyFirst s path entries := by
  cases entries with
  | nil => rfl
  | cons first rest => rw [applyFirst, applyFirst, widens.warnOnDiscarded]

theorem agrees_traceFields (path : Option String) {entries : List (Value × Value)}
    (each : ∀ field ∈ fieldsOf entries, ∀ path, Agrees m (containersWithin depth field.2)
      (traceWithin s depth path field.2) (convertAt s depth path field.2)
      (convertAt wide depth path field.2)) :
    Agrees m ((fieldsOf entries).flatMap fun field => containersWithin depth field.2)
      (traceFields s depth path entries) (compileFields s depth path entries)
      (compileFields wide depth path entries) := by
  induction entries with
  | nil => simpa [traceFields, compileFields, fieldsOf] using Agrees.pure []
  | cons entry rest ih =>
    obtain ⟨key, value⟩ := entry
    rw [traceFields, compileFields, compileFields]
    cases word : isCombinatorKey key with
    | true =>
      rw [fieldsOf_cons, if_pos word] at each ⊢
      exact ih each
    | false =>
      rw [fieldsOf_cons, if_neg (by simp [word])] at each ⊢
      have others := ih fun field there => each field (List.mem_cons_of_mem _ there)
      exact (each _ List.mem_cons_self _).bind fun converted => others.map ((key, converted) :: ·)

theorem agrees_traceWithin (widens : Widens m s wide) (value : Value) :
    ∀ depth ≤ m, ∀ path, Agrees m (containersWithin depth value) (traceWithin s depth path value)
      (convertAt s depth path value) (convertAt wide depth path value) := by
  induction value using field_induction with
  | nested entries nested ih =>
    intro depth low path
    have deeper := List.forall_mem_flatMap.2 fun field (_ : field ∈ fieldsOf entries) visit there =>
      (of_mem_containersWithin field.2 (depth + 1) visit there).1
    rw [containersWithin_map, traceWithin, convertAt, convertAt, nested]
    -- the bound is tried here on the level of the map, one below that of its field
    refine .enter widens (Nat.succ_le_succ low) (.map entries) deeper fun inner => ?_
    refine (agrees_traceFields path fun field there path' => ?_).map Value.map
    exact ih field there (depth + 1) inner path'
  | operators entries object =>
    intro depth low path
    -- an operator object is applied, and the bound is not tried
    rw [containersWithin_map, traceWithin, convertAt, convertAt, object, widens.applyFirst_eq]
    exact .ofLogged (countP_isTooDeep_applyFirst s path entries)
  | plain value plain =>
    intro depth low path
    rw [containersWithin_of_plain plain, traceWithin_of_plain plain, convertAt_of_plain plain,
      convertAt_of_plain plain]
    exact .pure value

theorem agrees_traceEach {items : List Value}
    (each : ∀ item ∈ items, Agrees m (containersAt depth item) (traceAt s depth item)
      (compileAt s depth item) (compileAt wide depth item)) :
    Agrees m (items.flatMap (containersAt depth)) (traceEach s depth items)
      (compileEach s depth items) (compileEach wide depth items) := by
  induction items with
  | nil => simpa [traceEach, compileEach] using Agrees.pure []
  | cons item rest ih =>
    rw [traceEach, compileEach, compileEach, List.flatMap_cons]
    have others := ih fun item there => each item (List.mem_cons_of_mem _ there)
    exact (each item List.mem_cons_self).bind fun compiled => others.map (compiled :: ·)

theorem agrees_traceChildren (c : Combinator) {items : List Value}
    (each : ∀ item ∈ items, Agrees m (containersAt depth item) (traceAt s depth item)
      (compileAt s depth item) (compileAt wide depth item)) :
    Agrees m (items.flatMap (containersAt depth)) (traceChildren s depth c items)
      (compileChildren s depth c items) (compileChildren wide depth c items) := by
  induction items with
  | nil => simpa [traceChildren, compileChildren] using Agrees.pure []
  | cons item rest ih =>
    rw [traceChildren, compileChildren, compileChildren, List.flatMap_cons]
    have others := ih fun item there => each item (List.mem_cons_of_mem _ there)
    refine (each item List.mem_cons_self).bind fun compiled => ?_
    -- what reducing reports is about branches, never about depth
    have reduced := Agrees.ofLogged (m := m) (countP_isTooDeep_reduce c compiled)
    exact reduced.bind fun part => others.map (part ++ ·)

theorem agrees_traceAt (widens : Widens m s wide) (node : Value) :
    ∀ depth ≤ m + 1, Agrees m (containersAt depth node) (traceAt s depth node)
      (compileAt s depth node) (compileAt wide depth node) := by
  induction node using node_induction with
  | sequence node items members ih =>
    intro depth low
    have deeper := List.forall_mem_flatMap.2 fun item (_ : item ∈ items) visit there =>
      (of_mem_containersAt item (depth + 1) visit there).1
    rw [containersAt_of_members members, traceAt_of_members members, compileAt_sequence members,
      compileAt_sequence members]
    refine .enter widens low node deeper fun inner => ?_
    refine (agrees_traceEach fun item there => ?_).map disjunction
    exact ih item there (depth + 1) (Nat.succ_le_succ inner)
  | group entries c children found ih =>
    intro depth low
    have deeper := List.forall_mem_flatMap.2 fun child (_ : child ∈ children) visit there =>
      (of_mem_containersAt child (depth + 1) visit there).1
    rw [containersAt_map, traceAt_map, compileAt_entries, compileAt_entries, found]
    refine .enter widens low (.map entries) deeper fun inner => ?_
    refine (agrees_traceChildren c fun child there => ?_).map c.join
    exact ih child there (depth + 1) (Nat.succ_le_succ inner)
  | fields entries plain =>
    intro depth low
    -- the fields stand on the level of the map itself, only maps in them are a level below
    have deeper := List.forall_mem_flatMap.2 fun field (_ : field ∈ fieldsOf entries) visit there =>
      (of_mem_containersWithin field.2 depth visit there).1
    rw [containersAt_map, traceAt_map, compileAt_entries, compileAt_entries, plain]
    refine .enter widens low (.map entries) deeper fun inner => ?_
    refine (agrees_traceFields none fun field _ path => ?_).map Value.map
    exact agrees_traceWithin widens field.2 depth inner path
  | leaf node alone plain =>
    intro depth _
    cases node with
    | list items => cases alone
    | tuple items => cases alone
    | map entries => cases plain
    | null => simpa [containersAt, traceAt, compileAt] using Agrees.pure Value.emptyMap
    | _ => simpa [containersAt, traceAt, compileAt] using Agrees.pure _

theorem widens_int {warn : Bool} {bound : Bound}
    (admits : ∀ level : Nat, level ≤ m → bound.admits level = true) :
    Widens m ⟨warn, .int m⟩ ⟨warn, bound⟩ where
  admits_iff _ := Bound.admits_int.trans Int.ofNat_le
  admits_wide := admits
  warnOnDiscarded := rfl

/-- The depth bound is transparent below and exact above. A compiler with the depth bound `m`, which
records what it visits and does nothing else besides, visits all containers on the levels up to
`m + 1` and no others. As many notices of nodes that are nested too deep are given as there are
containers on level `m + 1`. If there are none on that level, neither a larger bound nor the lack of
any changes the compiled filter or the notices. -/
theorem compile_depthBound (warn : Bool) (m : Nat) (node : Value) :
    (trace ⟨warn, .int m⟩ node).logged = compile ⟨warn, .int m⟩ node ∧
    (trace ⟨warn, .int m⟩ node).visits =
      (containers node).filter (fun visit => visit.level ≤ m + 1) ∧
    (compile ⟨warn, .int m⟩ node).notices.countP Notice.isTooDeep =
      (containers node).countP (fun visit => visit.level = m + 1) ∧
    ((∀ visit ∈ containers node, visit.level ≠ m + 1) →
      compile ⟨warn, .unlimited⟩ node = compile ⟨warn, .int m⟩ node ∧
      ∀ larger : Nat, m ≤ larger →
        compile ⟨warn, .int larger⟩ node = compile ⟨warn, .int m⟩ node) := by
  have agrees (bound : Bound) (admits : ∀ level : Nat, level ≤ m → bound.admits level = true) :
      Agrees m (containers node) (trace ⟨warn, .int m⟩ node) (compile ⟨warn, .int m⟩ node)
        (compile ⟨warn, bound⟩ node) :=
    agrees_traceAt (widens_int admits) node 0 (Nat.zero_le _)
  have without := agrees .unlimited fun level _ => Bound.admits_unlimited level
  refine ⟨without.logged, without.visits, without.reported, fun none => ?_⟩
  refine ⟨without.transparent none, fun larger more => ?_⟩
  refine (agrees (.int larger) fun level low => ?_).transparent none
  exact Bound.admits_int.2 (Int.ofNat_le.2 (Nat.le_trans low more))

/-- A filter through three relations, one inside the other. -/
def nestedRelations : Value :=
  .map [(.text "customer", .map [(.text "orders", .map [(.text "customer",
    .map [(.text "id", .map [(.text "eq", .int 1)])])])])]

/-- The operator object on the field is not counted. -/
theorem levels_nestedRelations :
    (containers nestedRelations).map Visit.level = [0, 1, 2, 3] := by
  simp [containers, nestedRelations, containersAt_map, containersWithin_map, groupOf?, childrenOf?,
    fieldsOf, isCombinatorKey, Combinator.word, isOperatorObject, isOperatorKey, operatorOfKey?,
    Operator.ofName?, Operator.all, Operator.name]

theorem compile_depthBound_nestedRelations :
    (compile ⟨true, .int 2⟩ nestedRelations).notices.countP Notice.isTooDeep = 1 ∧
      compile ⟨true, .unlimited⟩ nestedRelations = compile ⟨true, .int 3⟩ nestedRelations := by
  constructor
  · have counted : (containers nestedRelations).countP (fun visit => visit.level = 2 + 1) =
        ((containers nestedRelations).map Visit.level).countP fun level => level = 2 + 1 := by
      rw [List.countP_map]
      rfl
    refine (compile_depthBound true 2 nestedRelations).2.2.1.trans ?_
    rw [counted, levels_nestedRelations]
    rfl
  · refine ((compile_depthBound true 3 nestedRelations).2.2.2 fun visit there deep => ?_).1
    have level := List.mem_map_of_mem (f := Visit.level) there
    rw [levels_nestedRelations, deep] at level
    exact absurd level (by decide)

end Filter

end ListQuery
