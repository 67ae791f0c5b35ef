import ListQuery.Proofs.Filter.Assembly

/-!
# Where tests come from

A filter of plain data holds no tests; compiling makes them of the operators in it. An operator
is applied only where it comes first in an operator object. So whatever a compiled predicate
holds, at any depth, its tests are those that the first operators of operator objects make of
their operands. Raw expressions, in particular, are operands of operator objects of the filter
that begin with `raw`; the operand of a `raw` that comes later in an operator object, or in a map
that is no operator object, makes none. And what holds the bounds of a range is always a pair.

## Main definitions

* `Value.IsTestless` holds of plain data.
* `IsRawOperand` says that a filter has an operator object that begins with `raw` and an
  operand.
* `TestsAmong` bounds the tests in a value, `RawsAmong` the raw expressions; `MakesAllowed` bounds
  the tests that operator objects stand for.

## Main results

* `testsAmong_convertAt` and `testsAmong_compileAt` bound the tests in a compiled value.
* `rawsAmong_compileAt` and `exists_pair_of_compileAt` are the cases of raw expressions and
  ranges.
-/

namespace ListQuery

/-- No test occurs in a value. -/
def Value.IsTestless (value : Value) : Prop :=
  ∀ comparator operand, ¬ Occurs (.test comparator operand) value

theorem Value.isTestless_of_parts {value : Value} (noTest : ∀ c operand, value ≠ .test c operand)
    (each : ∀ part ∈ value.parts, part.IsTestless) : value.IsTestless := by
  intro comparator operand occurs
  rcases Value.occurs_iff.1 occurs with same | ⟨part, held, deeper⟩
  · exact noTest comparator operand same.symm
  · exact each part held comparator operand deeper

theorem Value.IsTestless.of_occurs {value part : Value} (testless : value.IsTestless)
    (occurs : Occurs part value) : part.IsTestless :=
  fun comparator operand deeper => testless comparator operand (deeper.trans occurs)

@[simp]
theorem Value.isTestless_text (s : String) : (Value.text s).IsTestless :=
  Value.isTestless_of_parts nofun nofun

@[simp]
theorem Value.isTestless_map {entries : List (Value × Value)} :
    (Value.map entries).IsTestless ↔
      ∀ entry ∈ entries, entry.1.IsTestless ∧ entry.2.IsTestless := by
  constructor
  · intro testless entry there
    exact ⟨testless.of_occurs (.within (key_mem_parts there) .here),
      testless.of_occurs (.within (value_mem_parts there) .here)⟩
  · intro each
    refine Value.isTestless_of_parts nofun fun part held => ?_
    obtain ⟨entry, there, either⟩ := List.mem_flatMap.1 held
    rcases List.mem_cons.1 either with rfl | other
    · exact (each entry there).1
    · rw [List.mem_singleton.1 other]
      exact (each entry there).2

namespace Filter

open Value (Occurs Inside)
open disjunction (branches)

/-- An operand stands in a filter under the first operator of an operator object, which is
`raw`. -/
def IsRawOperand (node operand : Value) : Prop :=
  ∃ others, isOperatorObject ((.text Operator.raw.name, operand) :: others) = true ∧
    Occurs (.map ((.text Operator.raw.name, operand) :: others)) node

/-- Every test that occurs in a value is an allowed one. -/
def TestsAmong (allowed : Comparator → Value → Prop) (value : Value) : Prop :=
  ∀ comparator operand, Occurs (.test comparator operand) value → allowed comparator operand

/-- Every raw expression that occurs in a value is one of some operands. -/
def RawsAmong (operands : Value → Prop) (value : Value) : Prop :=
  ∀ operand, Occurs (.test .raw operand) value → operands operand

/-- The first operator of every operator object in a filter makes allowed tests only. -/
def MakesAllowed (allowed : Comparator → Value → Prop) (root : Value) : Prop :=
  ∀ key operand others, isOperatorObject ((key, operand) :: others) = true →
    Occurs (.map ((key, operand) :: others)) root →
      TestsAmong allowed ((OperatorName.ofKey key).apply operand).value

variable {s : Settings} {allowed : Comparator → Value → Prop} {value : Value} {items : List Value}
  {entries : List (Value × Value)}

/-! ## Tests in the parts of a value -/

theorem TestsAmong.of_testless (testless : value.IsTestless) : TestsAmong allowed value :=
  fun comparator operand occurs => absurd occurs (testless comparator operand)

theorem TestsAmong.of_occurs {part : Value} (all : TestsAmong allowed value)
    (occurs : Occurs part value) : TestsAmong allowed part :=
  fun comparator operand deeper => all comparator operand (deeper.trans occurs)

theorem testsAmong_of_parts (noTest : ∀ comparator operand, value ≠ .test comparator operand)
    (each : ∀ part ∈ value.parts, TestsAmong allowed part) : TestsAmong allowed value := by
  intro comparator operand occurs
  rcases Value.occurs_iff.1 occurs with same | ⟨part, held, deeper⟩
  · exact absurd same.symm (noTest comparator operand)
  · exact each part held comparator operand deeper

theorem testsAmong_list (each : ∀ item ∈ items, TestsAmong allowed item) :
    TestsAmong allowed (.list items) := testsAmong_of_parts nofun each

theorem testsAmong_map
    (each : ∀ entry ∈ entries, TestsAmong allowed entry.1 ∧ TestsAmong allowed entry.2) :
    TestsAmong allowed (.map entries) := by
  refine testsAmong_of_parts nofun fun part held => ?_
  obtain ⟨entry, there, either⟩ := List.mem_flatMap.1 held
  rcases List.mem_cons.1 either with rfl | other
  · exact (each entry there).1
  · rw [List.mem_singleton.1 other]
    exact (each entry there).2

theorem TestsAmong.of_mem_map {key : Value} (all : TestsAmong allowed (.map entries))
    (there : (key, value) ∈ entries) : TestsAmong allowed key ∧ TestsAmong allowed value :=
  ⟨all.of_occurs (.within (Value.key_mem_parts there) .here),
    all.of_occurs (.within (Value.value_mem_parts there) .here)⟩

/-! ## Putting compiled children together -/

theorem TestsAmong.of_branch {branch : Value} (all : TestsAmong allowed value)
    (there : branch ∈ branches value) : TestsAmong allowed branch := by
  cases value with
  | list items => exact all.of_occurs (.within there .here)
  | _ => exact List.mem_singleton.1 there ▸ all

theorem testsAmong_disjunction (each : ∀ item ∈ items, TestsAmong allowed item) :
    TestsAmong allowed (disjunction items) := by
  have spliced : ∀ branch ∈ items.flatMap branches, TestsAmong allowed branch := by
    intro branch there
    obtain ⟨item, among, here⟩ := List.mem_flatMap.1 there
    exact (each item among).of_branch here
  unfold disjunction
  split
  · split
    · exact testsAmong_map (List.forall_mem_nil _)
    · exact testsAmong_list (List.forall_mem_nil _)
  · next branch single => exact spliced branch (by simp [single])
  · exact testsAmong_list spliced

theorem testsAmong_join (c : Combinator) (each : ∀ item ∈ items, TestsAmong allowed item) :
    TestsAmong allowed (c.join items) := by
  cases c with
  | any => exact testsAmong_list each
  | all =>
    rw [join_all]
    have tests (key test : Value) (there : (key, test) ∈ items.flatMap testsOf) :
        TestsAmong allowed key ∧ TestsAmong allowed test := by
      obtain ⟨item, among, here⟩ := List.mem_flatMap.1 there
      cases item with
      | map entries => exact (each _ among).of_mem_map here
      | _ => cases here
    refine testsAmong_map fun ⟨key, test⟩ there => ?_
    -- the key and the test may come from different children
    obtain ⟨known, other, among, -⟩ := Ordered.mem_ofEntries there
    obtain ⟨⟨key, older⟩, first, rfl⟩ := List.mem_map.1 known
    exact ⟨(tests key older first).1, (tests other test among).2⟩

theorem isKept_testsAmong : IsKept (TestsAmong allowed) where
  sequence _ each := testsAmong_disjunction each
  group c _ each := by
    refine testsAmong_join c (List.forall_mem_flatMap.2 fun item there branch here => ?_)
    exact (each item there).of_branch (List.mem_of_mem_take here)

theorem testsAmong_compileFields {depth : Nat} {path : Option String}
    (keys : ∀ entry ∈ entries, TestsAmong allowed entry.1)
    (each : ∀ entry ∈ entries, ∀ path,
      TestsAmong allowed (convertAt s depth path entry.2).value) :
    TestsAmong allowed (.map (compileFields s depth path entries).value) := by
  rw [value_compileFields]
  refine testsAmong_map fun converted there => ?_
  obtain ⟨entry, field, rfl⟩ := List.mem_map.1 there
  have among := (List.mem_filter.1 field).1
  exact ⟨keys entry among, each entry among _⟩

/-! ## Compiling -/

/-- What is known of the tests that an operator makes of plain data: a raw expression is that of
the data itself, made by the operator `raw`, and what holds the bounds of a range is a pair. -/
structure IsTestOf (op : OperatorName) (value : Value) (comparator : Comparator) (operand : Value) :
    Prop where
  raw : comparator = .raw → op = .known .raw ∧ operand = value
  range : comparator = .between → ∃ low high, operand = .tuple [low, high]

theorem testsAmong_apply {op : OperatorName} (testless : value.IsTestless) :
    TestsAmong (IsTestOf op value) (op.apply value).value := by
  have plain : TestsAmong (IsTestOf op value) value := .of_testless testless
  have wrapped {comparator : Comparator} {inner : Value}
      (here : IsTestOf op value comparator inner) (below : TestsAmong (IsTestOf op value) inner) :
      TestsAmong (IsTestOf op value) (.test comparator inner) := by
    intro c operand occurs
    rcases Value.occurs_iff.1 occurs with same | ⟨part, held, deeper⟩
    · obtain ⟨rfl, rfl⟩ := Value.test.inj same
      exact here
    · exact (List.mem_singleton.1 held ▸ below) c operand deeper
  have null : TestsAmong (IsTestOf op value) .null := testsAmong_of_parts nofun nofun
  have named (label : String) : TestsAmong (IsTestOf op value) (.map [(.text label, value)]) :=
    testsAmong_map fun entry there => List.mem_singleton.1 there ▸
      ⟨testsAmong_of_parts nofun nofun, plain⟩
  cases op with
  | unknown label => exact named label
  | known op =>
    cases op with
    | eq => exact plain
    | notAmong => exact wrapped ⟨nofun, nofun⟩ (wrapped ⟨nofun, nofun⟩ plain)
    | between =>
      rw [OperatorName.apply, Operator.apply, Operator.range.eq_def]
      split
      · next low high pair =>
        refine wrapped ⟨nofun, fun _ => ⟨low, high, rfl⟩⟩
          (testsAmong_of_parts nofun fun part held => ?_)
        exact plain.of_occurs (.within (Value.mem_parts_of_members pair held) .here)
      · exact named _
    | isNull =>
      rw [OperatorName.apply, Operator.apply, Logged.value_pure]
      split
      · exact wrapped ⟨nofun, nofun⟩ null
      · exact wrapped ⟨nofun, nofun⟩ (wrapped ⟨nofun, nofun⟩ null)
    | raw => exact wrapped ⟨fun _ => ⟨rfl, rfl⟩, nofun⟩ plain
    | _ => exact wrapped ⟨nofun, nofun⟩ plain

section Compiling

variable {root : Value}

theorem testsAmong_convertAt (testless : root.IsTestless) (made : MakesAllowed allowed root)
    (value : Value) :
    ∀ (depth : Nat) (path : Option String), Occurs value root →
      TestsAmong allowed (convertAt s depth path value).value := by
  induction value using Value.inside_induction with
  | step value ih =>
    intro depth path occurs
    have unchanged : TestsAmong allowed value :=
      .of_testless (Value.IsTestless.of_occurs testless occurs)
    cases value with
    | map entries =>
      cases object : isOperatorObject entries with
      | true =>
        rw [convertAt_operators object]
        cases entries with
        | nil => exact unchanged
        | cons first others =>
          obtain ⟨key, operand⟩ := first
          rw [value_applyFirst]
          exact made key operand others object occurs
      | false =>
        cases within : s.maxDepth.admits (depth + 1) with
        | false =>
          rw [convertAt_of_beyond object within]
          exact unchanged
        | true =>
          rw [convertAt_nested object within, Logged.value_map]
          refine testsAmong_compileFields (fun entry there => ?_) fun entry there path' => ?_
          · exact (unchanged.of_mem_map there).1
          · have held := Value.value_mem_parts there
            exact ih entry.2 (.of_part held) (depth + 1) path'
              ((Occurs.within held .here).trans occurs)
    | _ =>
      rw [convertAt_of_plain rfl]
      exact unchanged

/-- Whatever a node of plain data compiles to, its tests are made by the first operators of
operator objects. -/
theorem testsAmong_compileAt (testless : root.IsTestless) (made : MakesAllowed allowed root)
    (node : Value) :
    ∀ depth : Nat, Occurs node root →
      TestsAmong allowed (compileAt s depth node).value := by
  intro depth occurs
  have unchanged (part : Value) (inner : Occurs part node) : TestsAmong allowed part :=
    .of_testless (testless.of_occurs (inner.trans occurs))
  have contained (visit : Visit) (there : visit ∈ containersAt depth node) :=
    (of_mem_containersAt node depth visit there).2
  refine isKept_testsAmong.compileAt node depth ?_ ?_ ?_
  · intro part inner _ _
    exact unchanged part inner
  · intro visit there _
    exact unchanged visit.node (contained visit there)
  · intro visit there entries same
    have inner : Occurs (.map entries) node := same ▸ contained visit there
    refine testsAmong_compileFields (fun entry among => ?_) fun entry among path => ?_
    · exact ((unchanged _ inner).of_mem_map among).1
    · have held := Value.value_mem_parts among
      exact testsAmong_convertAt testless made entry.2 visit.level path
        ((Occurs.within held .here).trans (inner.trans occurs))

/-- The first operator of an operator object is `raw` where its key is the name of `raw`. -/
theorem eq_raw_of_ofKey {key : Value} (named : OperatorName.ofKey key = .known .raw) :
    key = .text Operator.raw.name := by
  rw [OperatorName.ofKey] at named
  split at named
  · next op found =>
    cases named
    cases key with
    | text name => rw [Operator.name_of_ofName? found]
    | _ => cases found
  · cases named

/-- The operand of an operator object in plain data is plain data. -/
theorem testsAmong_applied (testless : root.IsTestless) {key operand : Value}
    {others : List (Value × Value)} (there : Occurs (.map ((key, operand) :: others)) root) :
    TestsAmong (IsTestOf (OperatorName.ofKey key) operand)
      ((OperatorName.ofKey key).apply operand).value :=
  testsAmong_apply <| testless.of_occurs <|
    (Occurs.within (Value.value_mem_parts List.mem_cons_self) .here).trans there

/-- Whatever a node of plain data compiles to, its raw expressions are operands of operator
objects that begin with `raw`. -/
theorem rawsAmong_compileAt (testless : root.IsTestless) (node : Value) (depth : Nat)
    (occurs : Occurs node root) :
    RawsAmong (IsRawOperand root) (compileAt s depth node).value := by
  have made : MakesAllowed (fun comparator operand => comparator = .raw →
      IsRawOperand root operand) root := by
    intro key operand others object there comparator below deeper raw
    obtain ⟨named, rfl⟩ := (testsAmong_applied testless there comparator below deeper).raw raw
    obtain rfl := eq_raw_of_ofKey named
    exact ⟨others, object, there⟩
  intro operand deeper
  exact testsAmong_compileAt testless made node depth occurs .raw operand deeper rfl

/-- Whatever a node of plain data compiles to, what holds the bounds of a range in it is a
pair. -/
theorem exists_pair_of_compileAt (testless : root.IsTestless) (node : Value) (depth : Nat)
    (occurs : Occurs node root) {operand : Value}
    (deeper : Occurs (.test .between operand) (compileAt s depth node).value) :
    ∃ low high, operand = .tuple [low, high] := by
  have made : MakesAllowed (fun comparator operand => comparator = .between →
      ∃ low high, operand = .tuple [low, high]) root := by
    intro key operand others object there comparator below among
    exact (testsAmong_applied testless there comparator below among).range
  exact testsAmong_compileAt testless made node depth occurs .between operand deeper rfl

end Compiling

end Filter

end ListQuery
