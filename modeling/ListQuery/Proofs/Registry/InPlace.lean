import ListQuery.Proofs.Registry.History
import ListQuery.Proofs.Registry.Memory

/-!
# Registries that change in place

A registry can be kept in tables that are written one after the other: one of entities, one of
pending relations, and one for either kind of specification, which leads to the specifications in
memory. An operation that fails in the middle then leaves behind what it has written so far. Nor is
it clear that a look-up succeeds, as a key that stands in one table might be missing from another.

Here the operations are carried out on such tables, in the order in which they read and write
them. A registration writes nothing before it has checked everything, and then puts the
specifications of the entity into new cells. Finalizing checks every relation before it attaches the
first one. From then on it looks up the specifications to which the relations refer, which are
expected to be there; a slot holds what was found at that moment, whether or not it is complete
already, and the specification of the owner is changed in its cell.

A registry is shown by tables if they have its entities, and in the cells there are the
specifications of its entries, with references that hold the cells of their targets.

## Main definitions

* `Tables` are the tables, and `InPlace` a computation that changes them.
* `InPlace.IsAtomicOn` holds of computations that leave no traces where they fail.
* `Tables.register`, `Tables.finalize` and `Tables.lookUp` are the operations.
* `Tables.step` and `Tables.run` carry out operations as far as they get, `Tables.history` lists the
  registrations that succeed.
* `Tables.Shows` relates tables to the registry that they show.
* `Tables.Mirrors` says that a computation on tables does what an operation on the registry does.

## Main results

* `Tables.mirrors_register`: registering in place does what registering does.
-/

namespace ListQuery

/-- The tables of a registry, with the specifications in memory. -/
structure Tables where
  entities : Ordered Value EntitySpec
  pending : Ordered Value (List Field)
  sorts : Specs Value SortSlot
  filters : Specs FilterHead FilterSlot
  finalized : Bool

/-- Why a computation on tables ends early: it is refused, or a key that is expected in a table
is missing, or a cell that is expected in memory. -/
inductive Fault (ε : Type)
  | refused (e : ε)
  | missingKey (key : Value)
  | missingCell (cell : Cell)

/-- A computation that changes tables as it goes. What it has changed stays changed when it ends
early. -/
abbrev InPlace (ε : Type) := ExceptT (Fault ε) (StateM Tables)

namespace InPlace

variable {ε α β : Type}

/-- The result of a computation on tables, and the tables afterwards. -/
def on (c : InPlace ε α) (t : Tables) : Except (Fault ε) α × Tables := (ExceptT.run c).run t

/-- A computation that may be refused, and changes nothing. -/
def refuse (e : Except ε α) : InPlace ε α :=
  match e with
  | .ok a => pure a
  | .error e => throw (.refused e)

/-- If a computation fails on some tables, then because it is refused, and it leaves them as they
are. -/
def IsAtomicOn (c : InPlace ε α) (t : Tables) : Prop :=
  ∀ fault after, c.on t = (.error fault, after) → after = t ∧ ∃ e, fault = .refused e

@[simp] theorem on_pure (a : α) (t : Tables) : (pure a : InPlace ε α).on t = (.ok a, t) := rfl

@[simp] theorem on_throw (fault : Fault ε) (t : Tables) :
    (throw fault : InPlace ε α).on t = (.error fault, t) := rfl

@[simp] theorem on_get (t : Tables) : (get : InPlace ε Tables).on t = (.ok t, t) := rfl

@[simp] theorem on_modify (f : Tables → Tables) (t : Tables) :
    (modify f : InPlace ε PUnit).on t = (.ok ⟨⟩, f t) := rfl

@[simp] theorem on_bind (c : InPlace ε α) (next : α → InPlace ε β) (t : Tables) :
    (c >>= next).on t = match c.on t with
      | (.ok a, after) => (next a).on after
      | (.error fault, after) => (.error fault, after) := by
  change (ExceptT.run (c >>= next)).run t = _
  rw [ExceptT.run_bind, StateT.run_bind, on]
  cases (ExceptT.run c).run t with
  | mk result after => cases result <;> rfl

@[simp] theorem on_map (f : α → β) (c : InPlace ε α) (t : Tables) :
    (f <$> c).on t = ((c.on t).1.map f, (c.on t).2) := by
  rw [← bind_pure_comp, on_bind]
  cases c.on t with
  | mk result after => cases result <;> rfl

@[simp] theorem on_refuse_ok (a : α) (t : Tables) :
    (refuse (.ok a) : InPlace ε α).on t = (.ok a, t) := rfl

@[simp] theorem on_refuse_error (e : ε) (t : Tables) :
    (refuse (.error e) : InPlace ε α).on t = (.error (.refused e), t) := rfl

end InPlace

namespace Tables

open InPlace (refuse)

variable {ε α σ : Type}

/-- The tables to start from. -/
def empty : Tables := ⟨[], [], .empty, .empty, false⟩

/-- The cells of the sort specifications. -/
def sortTable (t : Tables) : Ordered Value Cell := t.sorts.table

/-- The cells of the filter specifications. -/
def filterTable (t : Tables) : Ordered Value Cell := t.filters.table

/-- What stands under a key in a table where it is expected. -/
def require (table : Tables → Ordered Value α) (key : Value) : InPlace ε α := do
  let t ← get
  match Ordered.find? key (table t) with
  | some x => pure x
  | none => throw (.missingKey key)

/-- The specification in a cell. -/
def load (specs : Tables → Specs α σ) (c : Cell) : InPlace ε (HeldSpec α σ) := do
  let t ← get
  match (specs t).read? c with
  | some spec => pure spec
  | none => throw (.missingCell c)

/-- Writes an entity to the four tables. Its specifications are made of the scalar fields, anew and
without references. -/
def enter (key : Value) (fields : List Field) : InPlace RegistrationError EntitySpec := do
  let kept := Registry.lastOfEachName fields
  let spec : EntitySpec := ⟨key, kept.filter fun f => !f.isRelation⟩
  modify fun t => { t with entities := Ordered.insert key spec t.entities }
  modify fun t => { t with pending := Ordered.insert key (kept.filter Field.isRelation) t.pending }
  modify fun t => { t with sorts := t.sorts.allocate key (.ofSort (fun _ => none) spec) }
  modify fun t => { t with filters := t.filters.allocate key (.ofFilter (fun _ => none) spec) }
  pure spec

/-- Registers an entity, once everything is checked. -/
def register (name : Value) (items : List FieldItem) : InPlace RegistrationError EntitySpec := do
  let t ← get
  if t.finalized then throw (.refused (.frozen name))
  else if !name.truthy then throw (.refused .namelessEntity)
  else
    let fields ← refuse (Registry.checkFields name items)
    let key ← refuse (name.asKey.mapError .unfitName)
    enter key fields

/-! ## Finalizing -/

/-- Checks that a relation of an owner leads to an entity. -/
def checkRelation (owner : Value) (f : Field) : InPlace FinalizeError Unit :=
  match f.target? with
  | some target => do
    let key ← refuse (target.asKey.mapError .unfitTarget)
    let t ← get
    if Ordered.has key t.entities then pure ()
    else throw (.refused (.dangling ⟨owner, f.name, key⟩))
  | none => pure ()

/-- Checks relations of an owner in their order. -/
def checkRelations (owner : Value) : List Field → InPlace FinalizeError Unit
  | [] => pure ()
  | f :: rest => do
    checkRelation owner f
    checkRelations owner rest

/-- Checks all pending relations. -/
def checkAll : Ordered Value (List Field) → InPlace FinalizeError Unit
  | [] => pure ()
  | (owner, relations) :: rest => do
    checkRelations owner relations
    checkAll rest

/-- The specification that the slot of a relation is to hold, if a slot is wanted: the one that the
table leads to now. -/
def capture (wanted : Bool) (table : Tables → Ordered Value Cell) (f : Field) :
    InPlace FinalizeError (Option Cell) :=
  match wanted, f.target? with
  -- the target may be waiting for its own relations, but it will get them in the same cell
  | true, some target => some <$> require table target
  | _, _ => pure none

/-- The slots of an owner together with those of some of its relations. -/
def attachSlots (sorts : Ordered Value (HeldSlot SortSlot))
    (filters : Ordered Value (HeldSlot FilterSlot)) : List Field → InPlace FinalizeError
      (Ordered Value (HeldSlot SortSlot) × Ordered Value (HeldSlot FilterSlot))
  | [] => pure (sorts, filters)
  | f :: rest => do
    let sort ← capture f.sortable sortTable f
    let filter ← capture f.filterable filterTable f
    attachSlots (if f.sortable then Ordered.insert f.name ⟨.ofField f, sort⟩ sorts else sorts)
      (if f.filterable then Ordered.insert f.name ⟨.ofField f, filter⟩ filters else filters) rest

/-- Attaches the relations of an owner, if there are any: its specifications get other slots, but
stay in their cells. -/
def attachOwner (owner : Value) (relations : List Field) : InPlace FinalizeError Unit :=
  if relations.isEmpty then pure ()
  else do
    let sort ← require sortTable owner
    let sortSpec ← load Tables.sorts sort
    let filter ← require filterTable owner
    let filterSpec ← load Tables.filters filter
    let slots ← attachSlots sortSpec.slots filterSpec.slots relations
    -- what refers to the owner already goes on holding these cells
    modify fun t => { t with sorts := t.sorts.write sort slots.1 }
    modify fun t => { t with filters := t.filters.write filter slots.2 }
    let current ← require Tables.entities owner
    let complete : EntitySpec := ⟨owner, current.fields ++ relations⟩
    modify fun t => { t with entities := Ordered.insert owner complete t.entities }

/-- Attaches all pending relations. -/
def attachAll : Ordered Value (List Field) → InPlace FinalizeError Unit
  | [] => pure ()
  | (owner, relations) :: rest => do
    attachOwner owner relations
    attachAll rest

/-- Resolves the relations, once all of them are checked, and freezes the specifications. -/
def finalize : InPlace FinalizeError Unit := do
  let t ← get
  if t.finalized then pure ()
  else
    checkAll t.pending
    attachAll t.pending
    modify fun t => { t with sorts := t.sorts.freeze }
    modify fun t => { t with filters := t.filters.freeze }
    modify fun t => { t with pending := [] }
    modify fun t => { t with finalized := true }

/-! ## Look-ups and runs -/

/-- What is known of an entity in a table. -/
def lookUp (table : Tables → Ordered Value α) (name : Value) : InPlace LookupError α := do
  let key ← refuse (name.asKey.mapError .unfit)
  let t ← get
  if !Ordered.has key t.entities then throw (.refused (.notFound key))
  else if !t.finalized then throw (.refused (.notFinalized key))
  else require table key

/-- The tables after an operation, as far as it got. -/
def step (t : Tables) (op : Registry.Operation) : Tables :=
  match op.registrant? with
  | some registrant => ((register registrant.name registrant.items).on t).2
  | none => (finalize.on t).2

/-- The tables after some operations. -/
def run (t : Tables) (ops : List Registry.Operation) : Tables := ops.foldl step t

/-- The entity that an operation registers and the fields it carries, if it succeeds in
registering one. -/
def registered? (t : Tables) (op : Registry.Operation) : Option (Value × List Field) :=
  op.registrant?.bind fun registrant =>
    match ((register registrant.name registrant.items).on t).1 with
    | .ok _ => (FieldItem.fields? registrant.items).map (registrant.name, ·)
    | .error _ => none

/-- The registrations that succeed while some operations run, in their order. -/
def history (t : Tables) : List Registry.Operation → List (Value × List Field)
  | [] => []
  | op :: rest => (t.registered? op).toList ++ history (t.step op) rest

/-- The pending relations, each with its owner, in the order of the owners. -/
def relations (t : Tables) : List (Value × Field) :=
  t.pending.flatMap fun entry => entry.2.map (entry.1, ·)

end Tables

/-! ## Registries in tables -/

namespace Registry

/-- The sort specification of an entry as it is in memory. -/
def Entry.heldSort (resolve : Value → Option Cell) (frozen : Bool) (entry : Entry) :
    HeldSpec Value SortSlot where
  head := entry.sort.entity
  slots := Field.slots Field.sortable (.ofField .ofField resolve) entry.spec.fields
  frozen := frozen

/-- The filter specification of an entry as it is in memory. -/
def Entry.heldFilter (resolve : Value → Option Cell) (frozen : Bool) (entry : Entry) :
    HeldSpec FilterHead FilterSlot where
  head := ⟨entry.filter.entity, entry.filter.supportsAnd, entry.filter.supportsOr⟩
  slots := Field.slots Field.filterable (.ofField .ofField resolve) entry.spec.fields
  frozen := frozen

/-- The pending relations of a registry that collects; once it is finalized, there are none. -/
def pendingTable (r : Registry) : Ordered Value (List Field) :=
  if r.finalized then [] else r.entries.map fun entry => (entry.1, entry.2.pending)

/-- As long as a registry collects, the fields of its entries lead nowhere. -/
def CollectsScalars (r : Registry) : Prop :=
  r.finalized = false → ∀ entry ∈ r.entries, ∀ f ∈ entry.2.spec.fields, f.target? = none

end Registry

namespace Tables

open Registry (Entry)

/-- The tables have the entities of some entries, and in memory there are their specifications, in
which references hold the cells of their targets. -/
structure ShowsEntries (t : Tables) (frozen : Bool) (entries : Ordered Value Entry) : Prop where
  entities : t.entities = entries.map fun entry => (entry.1, entry.2.spec)
  sorts : t.sorts.Shows <| entries.map fun entry => (entry.1, entry.2.heldSort t.sorts.find? frozen)
  filters : t.filters.Shows <|
    entries.map fun entry => (entry.1, entry.2.heldFilter t.filters.find? frozen)

/-- The tables show a registry: its entries, with specifications that are frozen once it is
finalized, and what is pending. -/
structure Shows (t : Tables) (r : Registry) : Prop extends
    ShowsEntries t r.finalized r.entries where
  pending : t.pending = r.pendingTable
  finalized : t.finalized = r.finalized

/-- On some tables a computation does what an operation on the registry does: it succeeds with the
same result and leaves tables that show the registry after the operation, or it is refused for the
same reason and changes nothing. -/
inductive Mirrors {ε α : Type} (c : InPlace ε α) (t : Tables) : Except ε (Registry × α) → Prop
  | ok {next : Registry} {a : α} {after : Tables} (succeeds : c.on t = (.ok a, after))
      (shown : after.Shows next) : Mirrors c t (.ok (next, a))
  | error {e : ε} (refused : c.on t = (.error (.refused e), t)) : Mirrors c t (.error e)

end Tables

namespace Registry

/-- Whatever its notices, a registration that is not refused writes the entry of the entity. -/
theorem value_register (r : Registry) (name : Value) (items : List FieldItem) :
    (r.register name items).outcome.value =
      if r.finalized then .error (.frozen name)
      else if !name.truthy then .error .namelessEntity
      else (do
        let fields ← checkFields name items
        let key ← name.asKey.mapError .unfitName
        let entry := Entry.collecting key fields
        pure ({ r with entries := Ordered.insert key entry r.entries }, entry.spec)) := by
  rw [register]
  split
  · rfl
  · split
    · rfl
    · simp only [Checked.value_outcome_bind, Checked.outcome_ofExcept]
      refine congrArg _ (funext fun fields => congrArg _ (funext fun key => ?_))
      split <;> rfl

end Registry

namespace Tables

open InPlace (refuse)
open Registry (Entry)

variable {r : Registry} {t : Tables}

/-- Whether or not an operation succeeds, the tables show the registry that it leaves behind. -/
theorem Mirrors.shows_settle {ε α : Type} {c : InPlace ε α} {result : Except ε (Registry × α)}
    (mirrors : Mirrors c t result) (shows : t.Shows r) {done : Checked ε Registry}
    (value : done.outcome.value = result.map Prod.fst) : (c.on t).2.Shows (r.settle done) := by
  rw [Registry.settle, value]
  cases mirrors with
  | ok succeeds shown => rwa [succeeds]
  | error refused => rwa [refused]

/-- Both operations have the same result, but for the registry. -/
theorem Mirrors.result_eq {ε α : Type} {c : InPlace ε α} {result : Except ε (Registry × α)}
    (mirrors : Mirrors c t result) :
    (c.on t).1 = (result.map Prod.snd).mapError Fault.refused := by
  cases mirrors with
  | ok succeeds => rw [succeeds]; rfl
  | error refused => rw [refused]; rfl

/-- A computation that does what an operation on the registry does leaves no traces where it
fails. -/
theorem Mirrors.isAtomicOn {ε α : Type} {c : InPlace ε α} {result : Except ε (Registry × α)}
    (mirrors : Mirrors c t result) : c.IsAtomicOn t := by
  intro fault after failed
  cases mirrors with
  | ok succeeds =>
    rw [succeeds] at failed
    cases failed
  | error refused =>
    rw [refused] at failed
    cases failed
    exact ⟨rfl, _, rfl⟩

theorem shows_empty (config : Config) : empty.Shows (.empty config) where
  entities := rfl
  sorts := Specs.shows_empty
  filters := Specs.shows_empty
  pending := rfl
  finalized := rfl

/-- Fields that lead nowhere have the same slots, whatever references hold. -/
theorem slots_of_no_targets {σ : Type} (wanted : Field → Bool) (takes : Field → σ)
    {fields : List Field} (scalar : ∀ f ∈ fields, f.target? = none)
    (resolve resolve' : Value → Option Cell) :
    Field.slots wanted (HeldSlot.ofField takes resolve) fields =
      Field.slots wanted (HeldSlot.ofField takes resolve') fields := by
  rw [Field.slots, Field.slots]
  refine congrArg Ordered.ofEntries (List.map_congr_left fun f chosen => ?_)
  rw [HeldSlot.ofField, HeldSlot.ofField, scalar f (List.mem_filter.1 chosen).1]
  rfl

/-- The fields of an entity that is just registered lead nowhere. -/
theorem target?_of_mem_collecting {name : Value} {fields : List Field} {f : Field}
    (there : f ∈ (Entry.collecting name fields).spec.fields) : f.target? = none := by
  have scalar : (!f.isRelation) = true := (List.mem_filter.1 there).2
  simpa [Field.isRelation, FieldKind.isRelation, Field.target?] using scalar

/-- An entry that is written to a registry is written to memory, too, if none of the entries has a
reference. -/
theorem shows_allocate {α σ : Type} (part : (Value → Option Cell) → Entry → HeldSpec α σ)
    {s : Specs α σ} {entries : Ordered Value Entry} {key : Value} {entry : Entry}
    {spec : HeldSpec α σ}
    (shows : s.Shows (entries.map fun other => (other.1, part s.find? other.2)))
    (kept : ∀ other ∈ entries, ∀ resolve, part s.find? other.2 = part resolve other.2)
    (new : ∀ resolve, part resolve entry = spec) :
    (s.allocate key spec).Shows <| (Ordered.insert key entry entries).map fun other =>
      (other.1, part (s.allocate key spec).find? other.2) := by
  have others : (entries.map fun other => (other.1, part s.find? other.2)) =
      entries.map fun other => (other.1, part (s.allocate key spec).find? other.2) :=
    List.map_congr_left fun other there => by rw [kept other there]
  rw [← Ordered.insert_map_snd, new, ← others]
  exact shows.allocate key spec

/-- Writing an entity to the tables of a registry that collects writes its entry to the registry. -/
theorem on_enter (shows : t.Shows r) (scalars : r.CollectsScalars)
    (collecting : r.finalized = false) (key : Value) (fields : List Field) :
    ∃ after, (enter key fields).on t = (.ok (Entry.collecting key fields).spec, after) ∧
      after.Shows
        { r with entries := Ordered.insert key (Entry.collecting key fields) r.entries } := by
  have scalars := scalars collecting
  have own : ∀ f ∈ (Entry.collecting key fields).spec.fields, f.target? = none :=
    fun f there => target?_of_mem_collecting there
  refine ⟨_, rfl, ⟨⟨?_, ?_, ?_⟩, ?_, shows.finalized⟩⟩
  · change Ordered.insert key _ t.entities = _
    rw [shows.entities]
    exact Ordered.insert_map_snd key Entry.spec (Entry.collecting key fields) r.entries
  · have sorts := shows.sorts
    rw [collecting] at sorts ⊢
    refine shows_allocate (fun resolve => Entry.heldSort resolve false) sorts ?_ ?_
    · intro other there resolve
      rw [Entry.heldSort, Entry.heldSort, slots_of_no_targets _ _ (scalars other there)]
    · intro resolve
      rw [Entry.heldSort, slots_of_no_targets _ _ own]
      rfl
  · have filters := shows.filters
    rw [collecting] at filters ⊢
    refine shows_allocate (fun resolve => Entry.heldFilter resolve false) filters ?_ ?_
    · intro other there resolve
      rw [Entry.heldFilter, Entry.heldFilter, slots_of_no_targets _ _ (scalars other there)]
    · intro resolve
      rw [Entry.heldFilter, slots_of_no_targets _ _ own]
      rfl
  · change Ordered.insert key _ t.pending = _
    rw [shows.pending]
    simp only [Registry.pendingTable, collecting, Bool.false_eq_true, if_false]
    exact Ordered.insert_map_snd key Entry.pending (Entry.collecting key fields) r.entries

/-- Registering in place fails where registering fails, and then changes nothing; where it
succeeds, the tables show the registry that registering returns. -/
theorem mirrors_register (shows : t.Shows r) (scalars : r.CollectsScalars) (name : Value)
    (items : List FieldItem) :
    Mirrors (register name items) t (r.register name items).outcome.value := by
  have flag : t.finalized = r.finalized := shows.finalized
  rw [Registry.value_register]
  by_cases finalized : r.finalized = true
  · rw [if_pos finalized]
    refine .error ?_
    rw [register, InPlace.on_bind, InPlace.on_get]
    simp only [flag, finalized, if_true, InPlace.on_throw]
  · by_cases nameless : (!name.truthy) = true
    · rw [if_neg finalized, if_pos nameless]
      refine .error ?_
      rw [register, InPlace.on_bind, InPlace.on_get]
      simp only [flag, finalized, nameless, Bool.false_eq_true, if_false, if_true, InPlace.on_throw]
    · -- what remains to be checked are the fields and the name, in this order
      have checks : (register name items).on t = (do
          let fields ← refuse (Registry.checkFields name items)
          let key ← refuse (name.asKey.mapError .unfitName)
          enter key fields : InPlace RegistrationError EntitySpec).on t := by
        rw [register, InPlace.on_bind, InPlace.on_get]
        simp only [flag, finalized, nameless, Bool.false_eq_true, if_false]
      rw [if_neg finalized, if_neg nameless]
      cases given : Registry.checkFields name items with
      | error e => exact .error (checks.trans (by rw [given]; rfl))
      | ok fields =>
        cases named : name.asKey.mapError RegistrationError.unfitName with
        | error e => exact .error (checks.trans (by rw [given, named]; rfl))
        | ok key =>
          obtain ⟨after, entered, shown⟩ :=
            on_enter shows scalars (by simpa using finalized) key fields
          refine .ok (checks.trans ?_) shown
          rw [given, named]
          exact entered

end Tables

end ListQuery
