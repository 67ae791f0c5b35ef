import ListQuery.Value.Key

/-!
# What a value is made of

A value may hold others: a sequence its items, a map its keys and what stands under them, a
test its operand, the kind of a relation its target. Whatever is held so, directly or deep
inside, occurs in the value.

## Main definitions

* `Value.parts` lists what a value holds directly.
* `Value.Occurs` says that a value occurs in another, `Value.Inside` that it does so below
  the top.
* `Value.Keyed` says that no map in a value has the same key twice.
* `Value.Level` holds of the entries of a map and of the maps that are nested in it as values,
  which is how far sort orders are read; `Value.StringKeyed` says that their keys are texts.

## Main results

* `Value.inside_induction`: what holds of a value whenever it holds of all that is inside
  holds of every value. `Value.members_induction` is for what depends on sequences only.
-/

namespace ListQuery.Value

/-- What a value holds directly. -/
def parts : Value → List Value
  | .list items => items
  | .tuple items => items
  | .map entries => entries.flatMap fun entry => [entry.1, entry.2]
  | .test _ operand => [operand]
  | .relation target => [target]
  | _ => []

/-- A value is another one, or occurs in one of its parts. -/
inductive Occurs (x : Value) : Value → Prop
  | here : Occurs x x
  | within {part whole : Value} (held : part ∈ whole.parts) (deeper : Occurs x part) :
      Occurs x whole

/-- A value occurs in one of the parts of another. -/
def Inside (x whole : Value) : Prop := ∃ part ∈ whole.parts, Occurs x part

variable {x y whole key value : Value} {items : List Value} {entries : List (Value × Value)}

theorem Occurs.of_inside (inside : x.Inside whole) : Occurs x whole := by
  obtain ⟨part, held, deeper⟩ := inside
  exact .within held deeper

theorem occurs_iff : Occurs x whole ↔ x = whole ∨ x.Inside whole := by
  constructor
  · rintro (_ | ⟨held, deeper⟩)
    · exact Or.inl rfl
    · exact Or.inr ⟨_, held, deeper⟩
  · rintro (rfl | inside)
    · exact .here
    · exact .of_inside inside

theorem Occurs.trans (inner : Occurs x y) (outer : Occurs y whole) : Occurs x whole := by
  induction outer with
  | here => exact inner
  | within held _ ih => exact .within held ih

theorem Inside.of_part (held : x ∈ whole.parts) : x.Inside whole := ⟨x, held, .here⟩

theorem Inside.deeper (inner : Occurs x y) (inside : y.Inside whole) : x.Inside whole := by
  obtain ⟨part, held, outer⟩ := inside
  exact ⟨part, held, inner.trans outer⟩

theorem mem_parts_of_members (sequence : whole.members? = some items) (there : x ∈ items) :
    x ∈ whole.parts := by
  cases whole <;> simp_all [members?, parts]

theorem key_mem_parts (there : (key, value) ∈ entries) : key ∈ (Value.map entries).parts :=
  List.mem_flatMap.2 ⟨(key, value), there, List.mem_cons_self⟩

theorem value_mem_parts (there : (key, value) ∈ entries) : value ∈ (Value.map entries).parts :=
  List.mem_flatMap.2 ⟨(key, value), there, List.mem_cons_of_mem _ List.mem_cons_self⟩

/-- What is in a part is smaller than the whole. -/
theorem sizeOf_lt_of_mem_parts (held : x ∈ whole.parts) : sizeOf x < sizeOf whole := by
  cases whole with
  | list items =>
    have smaller := List.sizeOf_lt_of_mem (show x ∈ items from held)
    rw [list.sizeOf_spec]
    omega
  | tuple items =>
    have smaller := List.sizeOf_lt_of_mem (show x ∈ items from held)
    rw [tuple.sizeOf_spec]
    omega
  | map entries =>
    obtain ⟨entry, there, either⟩ := List.mem_flatMap.1 held
    have smaller := List.sizeOf_lt_of_mem there
    rw [map.sizeOf_spec]
    rw [Prod.mk.sizeOf_spec] at smaller
    rcases List.mem_cons.1 either with rfl | other
    · omega
    · rw [List.mem_singleton.1 other]
      omega
  | test comparator operand =>
    rw [List.mem_singleton.1 (show x ∈ [operand] from held), test.sizeOf_spec]
    omega
  | relation target =>
    rw [List.mem_singleton.1 (show x ∈ [target] from held), relation.sizeOf_spec]
    omega
  | _ => cases held

theorem Occurs.sizeOf_le (occurs : Occurs x whole) : sizeOf x ≤ sizeOf whole := by
  induction occurs with
  | here => exact Nat.le_refl _
  | within held _ ih =>
    have smaller := sizeOf_lt_of_mem_parts held
    omega

theorem Inside.sizeOf_lt (inside : x.Inside whole) : sizeOf x < sizeOf whole := by
  obtain ⟨part, held, deeper⟩ := inside
  have smaller := sizeOf_lt_of_mem_parts held
  have nested := deeper.sizeOf_le
  omega

/-- To prove something of all values, prove it of a value inside which everything has it. -/
theorem inside_induction {motive : Value → Prop}
    (step : ∀ whole : Value, (∀ x : Value, x.Inside whole → motive x) → motive whole)
    (value : Value) : motive value :=
  step value fun x _ => inside_induction step x
termination_by sizeOf value
decreasing_by exact Inside.sizeOf_lt ‹_›

/-- To prove something of all values, prove it of sequences whose items have it and of all else. -/
theorem members_induction {motive : Value → Prop}
    (sequence : ∀ (whole : Value) (items : List Value), whole.members? = some items →
      (∀ item ∈ items, motive item) → motive whole)
    (leaf : ∀ whole : Value, whole.members? = none → motive whole) (value : Value) :
    motive value := by
  induction value using inside_induction with
  | step whole ih =>
    cases members : whole.members? with
    | none => exact leaf whole members
    | some items =>
      refine sequence whole items members fun item there => ih item ?_
      exact .of_part (mem_parts_of_members members there)

/-! ## Keys -/

/-- No map in a value has two entries under the same key. -/
def Keyed (value : Value) : Prop :=
  ∀ entries, Occurs (.map entries) value → Ordered.Distinct entries

theorem Keyed.of_occurs (keyed : whole.Keyed) (occurs : Occurs x whole) : x.Keyed :=
  fun entries deeper => keyed entries (deeper.trans occurs)

theorem keyed_of_parts (alone : whole.entries? = none) (each : ∀ part ∈ whole.parts, part.Keyed) :
    whole.Keyed := by
  intro entries occurs
  rcases occurs_iff.1 occurs with rfl | ⟨part, held, deeper⟩
  · cases alone
  · exact each part held entries deeper

@[simp]
theorem keyed_list : (list items).Keyed ↔ ∀ item ∈ items, item.Keyed := by
  constructor
  · intro keyed item there
    have held : item ∈ (list items).parts := there
    exact keyed.of_occurs (.within held .here)
  · intro each
    refine keyed_of_parts rfl ?_
    exact each

@[simp]
theorem keyed_map : (map entries).Keyed ↔
    Ordered.Distinct entries ∧ ∀ entry ∈ entries, entry.1.Keyed ∧ entry.2.Keyed := by
  constructor
  · intro keyed
    refine ⟨keyed entries .here, fun entry there => ⟨?_, ?_⟩⟩
    · exact keyed.of_occurs (.within (key_mem_parts there) .here)
    · exact keyed.of_occurs (.within (value_mem_parts there) .here)
  · rintro ⟨distinct, each⟩ others occurs
    rcases occurs_iff.1 occurs with same | ⟨part, held, deeper⟩
    · rwa [map.inj same]
    · obtain ⟨entry, there, either⟩ := List.mem_flatMap.1 held
      rcases List.mem_cons.1 either with rfl | other
      · exact (each entry there).1 others deeper
      · exact (each entry there).2 others (List.mem_singleton.1 other ▸ deeper)

/-- What has no parts has no maps in it. -/
theorem keyed_of_plain (alone : whole.entries? = none) (none : whole.parts = []) : whole.Keyed :=
  keyed_of_parts alone (none ▸ List.forall_mem_nil _)

@[simp]
theorem keyed_text (s : String) : (text s).Keyed := keyed_of_plain rfl rfl

@[simp]
theorem keyed_int (n : Int) : (int n).Keyed := keyed_of_plain rfl rfl

/-! ## Maps within maps -/

/-- The entries of a map, or of a map that is nested in it as a value, at any depth. -/
inductive Level : Value → List (Value × Value) → Prop
  | top (entries : List (Value × Value)) : Level (.map entries) entries
  | nested {key value : Value} {entries inner : List (Value × Value)}
      (there : (key, value) ∈ entries) (deeper : value.Level inner) : Level (.map entries) inner

/-- At every level the keys are texts, and no two of them are the same. -/
def StringKeyed (value : Value) : Prop :=
  ∀ entries, value.Level entries →
    Ordered.Distinct entries ∧ ∀ entry ∈ entries, entry.1.text?.isSome = true

theorem stringKeyed_map : (map entries).StringKeyed ↔
    Ordered.Distinct entries ∧
      ∀ entry ∈ entries, entry.1.text?.isSome = true ∧ entry.2.StringKeyed := by
  constructor
  · intro keyed
    obtain ⟨distinct, text⟩ := keyed entries (.top entries)
    exact ⟨distinct, fun entry there =>
      ⟨text entry there, fun inner level => keyed inner (.nested there level)⟩⟩
  · rintro ⟨distinct, each⟩ inner level
    cases level with
    | top => exact ⟨distinct, fun entry there => (each entry there).1⟩
    | nested there deeper => exact (each _ there).2 inner deeper

/-- The first of some entries is under a text that the others are not under, and what it holds
and what is left have text keys as well. -/
theorem StringKeyed.cons {rest : List (Value × Value)}
    (keyed : (map ((key, value) :: rest)).StringKeyed) :
    ∃ name, key.text? = some name ∧ (∀ entry ∈ rest, entry.1.text? ≠ some name) ∧
      value.StringKeyed ∧ (map rest).StringKeyed := by
  obtain ⟨distinct, each⟩ := stringKeyed_map.1 keyed
  obtain ⟨⟨text, within⟩, later⟩ := List.forall_mem_cons.1 each
  obtain ⟨name, text⟩ := Option.isSome_iff_exists.1 text
  obtain ⟨apart, distinct⟩ := List.pairwise_cons.1 distinct
  refine ⟨name, text, fun entry there same => ?_, within, stringKeyed_map.2 ⟨distinct, later⟩⟩
  have other := apart entry.1 (List.mem_map_of_mem there)
  rw [beq_of_text? text same] at other
  cases other

theorem stringKeyed_of_plain (plain : whole.entries? = none) : whole.StringKeyed := by
  intro entries level
  cases level <;> cases plain

end ListQuery.Value
