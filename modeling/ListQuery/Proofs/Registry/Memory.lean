import ListQuery.Proofs.Registry.Completion
import Mathlib.Data.List.Nodup

/-!
# Specifications in memory

Specifications refer to one another, also around circles, so none of them can contain those that it
refers to. In memory each of them has a cell, and a reference holds the cell of its target beside
the name. What is written to a cell is seen through every reference that holds it, however early it
was made. A specification that is made anew gets a cell of its own; a reference that holds the old
cell would go on leading to the old specification.

A table tells which cell belongs to a name. No two names share a cell, so writing to the cell of one
of them leaves the specifications of the others as they are.

## Main definitions

* `HeldSlot` is a slot with the specification that it holds, `HeldSpec` a specification in memory.
* `HeldSpec.ofSort` and `HeldSpec.ofFilter` make the specifications of an entity, given what
  references are to hold.
* `Specs` are the specifications of one kind: the memory, and the table of their names.
* `Specs.Shows` says which specifications are found under the names.

## Main results

* `Specs.Shows.allocate`: a specification that is made anew is found under its name.
* `Specs.Shows.write`: what is written to the cell of a name changes nothing under other names.
* `Specs.Shows.freeze`: all that is found under a name is frozen.
-/

namespace ListQuery

/-- The place of a specification in memory. -/
abbrev Cell := Nat

/-- A slot of a specification in memory: what the field takes and, if it refers to another entity,
the specification that it holds. -/
structure HeldSlot (σ : Type) where
  takes : σ
  holds : Option Cell

/-- A specification in memory, of which all slots may be replaced at once. Once it is frozen they
cannot be written one by one any more. -/
structure HeldSpec (α σ : Type) where
  head : α
  slots : Ordered Value (HeldSlot σ)
  frozen : Bool

/-- What a filter specification has beside its slots. -/
structure FilterHead where
  entity : Value
  supportsAnd : Bool
  supportsOr : Bool

/-- The slot for a field, where `resolve` tells what a reference to an entity is to hold. -/
def HeldSlot.ofField {σ : Type} (takes : Field → σ) (resolve : Value → Option Cell) (f : Field) :
    HeldSlot σ :=
  ⟨takes f, f.target?.bind resolve⟩

namespace HeldSpec

variable {α σ : Type}

/-- The sort specification by the sortable fields of an entity. -/
def ofSort (resolve : Value → Option Cell) (spec : EntitySpec) : HeldSpec Value SortSlot where
  head := spec.name
  slots := Field.slots Field.sortable (.ofField .ofField resolve) spec.fields
  frozen := false

/-- The filter specification by the filterable fields of an entity. -/
def ofFilter (resolve : Value → Option Cell) (spec : EntitySpec) :
    HeldSpec FilterHead FilterSlot where
  head := ⟨spec.name, true, true⟩
  slots := Field.slots Field.filterable (.ofField .ofField resolve) spec.fields
  frozen := false

/-- A specification with other slots. -/
def withSlots (slots : Ordered Value (HeldSlot σ)) (spec : HeldSpec α σ) : HeldSpec α σ :=
  { spec with slots }

/-- A specification whose slots cannot be written any more. -/
def freeze (spec : HeldSpec α σ) : HeldSpec α σ := { spec with frozen := true }

/-- What the fields of an entity take, whatever references hold. -/
def plainSlots (spec : HeldSpec α σ) : Ordered Value σ :=
  spec.slots.map fun entry => (entry.1, entry.2.takes)

/-- A sort specification in memory, with references by name. -/
def toSort (spec : HeldSpec Value SortSlot) : SortSpec := ⟨spec.head, spec.plainSlots⟩

/-- A filter specification in memory, with references by name. -/
def toFilter (spec : HeldSpec FilterHead FilterSlot) : FilterSpec :=
  ⟨spec.head.entity, spec.plainSlots, spec.head.supportsAnd, spec.head.supportsOr⟩

/-- What fields take does not depend on what their references hold. -/
theorem plainSlots_of_slots {spec : HeldSpec α σ} {wanted : Field → Bool} {takes : Field → σ}
    {resolve : Value → Option Cell} {fields : List Field}
    (slots : spec.slots = Field.slots wanted (.ofField takes resolve) fields) :
    spec.plainSlots = Field.slots wanted takes fields := by
  have merged := Ordered.merge_map_snd HeldSlot.takes
    ((fields.filter wanted).map fun f => (f.name, HeldSlot.ofField takes resolve f)) []
  rw [List.map_map] at merged
  rw [plainSlots, slots]
  exact merged.symm

end HeldSpec

/-- Specifications of one kind. Those that no name leads to any more stay in memory. -/
structure Specs (α σ : Type) where
  /-- The cell of the specification of a name. -/
  table : Ordered Value Cell
  memory : List (HeldSpec α σ)

namespace Specs

variable {α σ : Type}

/-- No specifications. -/
def empty : Specs α σ := ⟨[], []⟩

/-- The cell of the specification of a name. -/
def find? (s : Specs α σ) (name : Value) : Option Cell := Ordered.find? name s.table

/-- The specification in a cell. -/
def read? (s : Specs α σ) (c : Cell) : Option (HeldSpec α σ) := s.memory[c]?

/-- Puts a specification into a new cell, which belongs to a name from then on. -/
def allocate (s : Specs α σ) (name : Value) (spec : HeldSpec α σ) : Specs α σ where
  table := Ordered.insert name s.memory.length s.table
  memory := s.memory ++ [spec]

/-- Replaces the slots of the specification in a cell. -/
def write (s : Specs α σ) (c : Cell) (slots : Ordered Value (HeldSlot σ)) : Specs α σ :=
  { s with memory := s.memory.modify c (HeldSpec.withSlots slots) }

/-- Freezes the specifications of all names. -/
def freeze (s : Specs α σ) : Specs α σ :=
  { s with memory :=
      s.table.foldl (fun memory entry => memory.modify entry.2 HeldSpec.freeze) s.memory }

/-- Under the names of a table there are the given specifications, each in a cell of its own. -/
structure Shows (s : Specs α σ) (specs : Ordered Value (HeldSpec α σ)) : Prop where
  reads : (s.table.map fun entry => (entry.1, s.read? entry.2)) =
    specs.map fun entry => (entry.1, some entry.2)
  apart : (s.table.map Prod.snd).Nodup

variable {s : Specs α σ} {specs : Ordered Value (HeldSpec α σ)}

theorem shows_empty : (empty : Specs α σ).Shows [] := ⟨rfl, List.nodup_nil⟩

theorem Shows.keys (shows : s.Shows specs) : Ordered.keys s.table = Ordered.keys specs := by
  have same := congrArg Ordered.keys shows.reads
  simpa only [Ordered.keys, List.map_map, Function.comp_def] using same

/-- What is shown under a name is in the cell of the name. -/
theorem Shows.exists_cell (shows : s.Shows specs) {name : Value} {spec : HeldSpec α σ}
    (found : Ordered.find? name specs = some spec) :
    ∃ c, s.find? name = some c ∧ s.read? c = some spec := by
  have read : (s.find? name).map s.read? = (Ordered.find? name specs).map some := by
    rw [find?, ← Ordered.find?_map_snd, ← Ordered.find?_map_snd, shows.reads]
  rw [found, Option.map_some, Option.map_eq_some_iff] at read
  exact read

/-- The cell of a name is in memory. -/
theorem Shows.lt_length (shows : s.Shows specs) {entry : Value × Cell} (there : entry ∈ s.table) :
    entry.2 < s.memory.length := by
  have read : (entry.1, s.read? entry.2) ∈ specs.map fun entry => (entry.1, some entry.2) :=
    shows.reads ▸ List.mem_map_of_mem there
  obtain ⟨_, _, same⟩ := List.mem_map.1 read
  exact (List.getElem?_eq_some_iff.1 (Prod.mk.inj same).2.symm).1

/-! ## Making specifications anew -/

theorem mem_cells_insert {table : Ordered Value Cell} {name : Value} {c other : Cell}
    (there : other ∈ (Ordered.insert name c table).map Prod.snd) :
    other = c ∨ other ∈ table.map Prod.snd := by
  obtain ⟨⟨key, _⟩, among, rfl⟩ := List.mem_map.1 there
  rcases Ordered.mem_insert among with before | ⟨new, -⟩
  · exact Or.inr (List.mem_map_of_mem before)
  · exact Or.inl new

/-- A new cell is shared with no name. -/
theorem nodup_cells_insert {table : Ordered Value Cell} {name : Value} {c : Cell}
    (apart : (table.map Prod.snd).Nodup) (new : c ∉ table.map Prod.snd) :
    ((Ordered.insert name c table).map Prod.snd).Nodup := by
  induction table with
  | nil => exact List.nodup_singleton c
  | cons entry rest ih =>
    obtain ⟨here, later⟩ := List.nodup_cons.1 apart
    obtain ⟨other, newLater⟩ := not_or.1 (mt List.mem_cons.2 new)
    rw [Ordered.insert]
    split
    · exact List.nodup_cons.2 ⟨newLater, later⟩
    · refine List.nodup_cons.2 ⟨fun again => ?_, ih later newLater⟩
      exact (mem_cells_insert again).elim (fun same => other same.symm) here

/-- A specification that is made anew is found under its name, and all others are where they
were. -/
theorem Shows.allocate (shows : s.Shows specs) (name : Value) (spec : HeldSpec α σ) :
    (s.allocate name spec).Shows (Ordered.insert name spec specs) where
  reads := by
    -- the new cell is at the end of the memory, where no name had one
    have here : (s.allocate name spec).read? s.memory.length = some spec :=
      List.getElem?_concat_length
    have others : (s.table.map fun entry => (entry.1, (s.allocate name spec).read? entry.2)) =
        s.table.map fun entry => (entry.1, s.read? entry.2) := by
      refine List.map_congr_left fun entry there => ?_
      rw [read?, read?, Specs.allocate, List.getElem?_append_left (shows.lt_length there)]
    have written := Ordered.insert_map_snd name (s.allocate name spec).read? s.memory.length s.table
    rw [here, others, shows.reads, Ordered.insert_map_snd] at written
    exact written.symm
  apart := by
    refine nodup_cells_insert shows.apart fun there => ?_
    obtain ⟨entry, among, same⟩ := List.mem_map.1 there
    exact Nat.lt_irrefl _ (same ▸ shows.lt_length among)

/-! ## Writing in place -/

/-- What is changed in one place of a memory is changed there only. -/
theorem getElem?_modify (f : HeldSpec α σ → HeldSpec α σ) (memory : List (HeldSpec α σ))
    (c other : Cell) : (memory.modify c f)[other]? =
      if c = other then memory[other]?.map f else memory[other]? := by
  rw [List.getElem?_modify, Option.map_eq_map]
  by_cases same : c = other
  · simp only [same, if_true]
  · simp only [same, if_false, Option.map_id']

/-- Writing to the cell of a name changes what is found there, and nothing under other names. -/
theorem Shows.write {done rest : Ordered Value (HeldSpec α σ)} {name : Value}
    {old : HeldSpec α σ} (shows : s.Shows (done ++ (name, old) :: rest))
    (apart : ∀ other ∈ Ordered.keys done, (other == name) = false)
    (same : (name == name) = true) :
    ∃ c, s.find? name = some c ∧ s.read? c = some old ∧
      ∀ slots, (s.write c slots).Shows (done ++ (name, old.withSlots slots) :: rest) := by
  have reads := shows.reads
  rw [List.map_append, List.map_cons] at reads
  obtain ⟨before, behind, split, first, last⟩ := List.map_eq_append_iff.1 reads
  obtain ⟨⟨key, c⟩, after, rfl, here, later⟩ := List.map_eq_cons_iff.1 last
  obtain ⟨rfl, read⟩ := Prod.mk.inj here
  have keys : Ordered.keys before = Ordered.keys done := by
    simpa only [Ordered.keys, List.map_map, Function.comp_def] using congrArg Ordered.keys first
  refine ⟨c, ?_, read, fun slots => ⟨?_, shows.apart⟩⟩
  · rw [find?, split]
    exact Ordered.find?_middle (keys ▸ apart) same c
  · -- no other name has this cell, so nothing else is read differently
    have distinct := shows.apart
    rw [split, List.map_append, List.map_cons, List.nodup_middle, List.nodup_cons,
      List.mem_append, not_or] at distinct
    have kept {entries : Ordered Value Cell} (others : c ∉ entries.map Prod.snd) :
        (entries.map fun entry => (entry.1, (s.write c slots).read? entry.2)) =
          entries.map fun entry => (entry.1, s.read? entry.2) := by
      refine List.map_congr_left fun entry there => ?_
      have other : c ≠ entry.2 := fun same => others (same ▸ List.mem_map_of_mem there)
      rw [read?, read?, Specs.write, getElem?_modify, if_neg other]
    have table : (s.write c slots).table = before ++ (key, c) :: after := split
    have written : (s.write c slots).read? c = some (old.withSlots slots) := by
      have here : s.memory[c]? = some old := read
      rw [read?, Specs.write, getElem?_modify, if_pos rfl, here, Option.map_some]
    rw [table, List.map_append, List.map_cons, kept distinct.1.1, kept distinct.1.2, first, later,
      List.map_append, List.map_cons, written]

/-! ## Freezing -/

/-- Freezing goes from cell to cell, and comes to each of them once. -/
theorem getElem?_freezeAll {table : Ordered Value Cell} {c : Cell} :
    ∀ memory : List (HeldSpec α σ), (table.map Prod.snd).Nodup →
      (table.foldl (fun memory entry => memory.modify entry.2 HeldSpec.freeze) memory)[c]? =
        if c ∈ table.map Prod.snd then memory[c]?.map HeldSpec.freeze else memory[c]? := by
  induction table with
  | nil => exact fun memory _ => rfl
  | cons entry rest ih =>
    intro memory apart
    obtain ⟨alone, later⟩ := List.nodup_cons.1 apart
    rw [List.foldl_cons, ih _ later, getElem?_modify, List.map_cons]
    -- a cell that is frozen here is frozen no second time later
    by_cases here : entry.2 = c
    · rw [here] at alone ⊢
      rw [if_neg alone, if_pos rfl, if_pos List.mem_cons_self]
    · have elsewhere : c ∈ entry.2 :: rest.map Prod.snd ↔ c ∈ rest.map Prod.snd := by
        rw [List.mem_cons, or_iff_right (Ne.symm here)]
      simp only [here, if_false, elsewhere]

/-- All that is found under a name is frozen. -/
theorem Shows.freeze (shows : s.Shows specs) :
    s.freeze.Shows (specs.map fun entry => (entry.1, entry.2.freeze)) where
  reads := by
    have frozen : (s.table.map fun entry => (entry.1, s.freeze.read? entry.2)) =
        s.table.map fun entry => (entry.1, (s.read? entry.2).map HeldSpec.freeze) := by
      refine List.map_congr_left fun entry there => ?_
      have among : entry.2 ∈ s.table.map Prod.snd := List.mem_map_of_mem there
      rw [read?, Specs.freeze, getElem?_freezeAll s.memory shows.apart, if_pos among]
      rfl
    have each := congrArg
      (List.map fun entry => (entry.1, entry.2.map HeldSpec.freeze)) shows.reads
    rw [List.map_map, List.map_map] at each
    rw [List.map_map]
    exact frozen.trans each
  apart := shows.apart

end Specs

end ListQuery
