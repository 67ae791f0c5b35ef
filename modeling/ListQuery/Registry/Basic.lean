import ListQuery.Entity.Hierarchy
import ListQuery.Filter.Spec
import ListQuery.Find.Config
import ListQuery.Sort.Spec

/-!
# The registry of entities

Entities are registered in any order, and relations may lead to entities that are
registered later. So a registry has two phases: while it collects, the relations of
each entity are kept aside; finalizing it checks that every relation leads to a
registered entity and attaches all of them. From then on nothing can be registered,
and the specifications of the entities can be looked up.

An operation that fails leaves the registry as it was. An entity that is registered again
under another value for the same name keeps the first of them as its name in the registry.

## Main definitions

* `Registry` is the registry, `Registry.empty` the one to start from.
* `Registry.register` and `Registry.registerClass` add an entity.
* `Registry.finalize` resolves the relations.
* `Registry.entity`, `Registry.sortSpec` and `Registry.filterSpec` look an entity up.
-/

namespace ListQuery

/-- What is known of a registered entity. -/
structure Registry.Entry where
  spec : EntitySpec
  /-- The relations that are not attached yet. -/
  pending : List Field
  sort : SortSpec
  filter : FilterSpec
  deriving DecidableEq

/-- A registry of entities. -/
structure Registry where
  config : Config
  /-- The entities in the order in which their names were first registered. -/
  entries : Ordered Value Registry.Entry
  finalized : Bool
  deriving DecidableEq

/-- Why a registration is refused. -/
inductive RegistrationError
  | frozen (entity : Value)
  | namelessEntity
  | notAField (entity : Value) (value : Value)
  | namelessField (entity : Value)
  | uselessField (entity field : Value)
  /-- The entity or a field of it has a name that can be no key. -/
  | unfitName (e : UnfitKey)
  deriving DecidableEq

/-- What is wrong with a registration. -/
def RegistrationError.message : RegistrationError → String
  | .frozen entity =>
    "Cannot register '" ++ entity.label ++ "': registry relations are already finalized"
  | .namelessEntity => "Entity name must be a non-empty string"
  | .notAField entity value =>
    "Expected FieldDescriptor for entity '" ++ entity.label ++ "', got " ++ value.literal
  | .namelessField entity => "Field of entity '" ++ entity.label ++ "' has no name"
  | .uselessField entity field =>
    "Field '" ++ entity.label ++ "." ++ field.label ++ "' is neither sortable nor filterable"
  | .unfitName e => e.message

/-- A relation that leads to an entity that is not registered. -/
structure DanglingRelation where
  owner : Value
  field : Value
  target : Value
  deriving DecidableEq

/-- What is wrong with a dangling relation. -/
def DanglingRelation.message (e : DanglingRelation) : String :=
  "Relation '" ++ e.owner.label ++ "." ++ e.field.label ++ "' targets entity '" ++
    e.target.label ++ "', which is not registered"

/-- Why the relations of a registry cannot be resolved. -/
inductive FinalizeError
  | dangling (e : DanglingRelation)
  /-- A relation leads to something that can be no key, so to no entity. -/
  | unfitTarget (e : UnfitKey)
  deriving DecidableEq

/-- What is wrong with the relations of a registry. -/
def FinalizeError.message : FinalizeError → String
  | .dangling e => e.message
  | .unfitTarget e => e.message

/-- Why an entity cannot be looked up. -/
inductive LookupError
  | notFound (entity : Value)
  | notFinalized (entity : Value)
  /-- What is looked up can be no key. -/
  | unfit (e : UnfitKey)
  deriving DecidableEq

/-- The entity that cannot be looked up. -/
def LookupError.entity? : LookupError → Option Value
  | .notFound entity => some entity
  | .notFinalized entity => some entity
  | .unfit _ => none

/-- What is wrong with a look-up. -/
def LookupError.message : LookupError → String
  | .notFound entity => "Spec for entity '" ++ entity.label ++ "' not found"
  | .notFinalized entity =>
    "Spec for entity '" ++ entity.label ++ "' is not available: relations are not finalized yet"
  | .unfit e => e.message

namespace Registry

/-- The registry to start from. -/
def empty (config : Config) : Registry := ⟨config, [], false⟩

/-- The names of the entities. -/
def names (r : Registry) : List Value := Ordered.keys r.entries

/-- Whether an entity is registered. -/
def has (r : Registry) (name : Value) : Bool := Ordered.has name r.entries

/-! ## Registration -/

/-- The field that an item is, if it may be a field of the entity. -/
def checkField (entity : Value) : FieldItem → Except RegistrationError Field
  | .stray value => .error (.notAField entity value)
  | .field f =>
    if !f.name.truthy then .error (.namelessField entity)
    else if f.sortable || f.filterable then (fun _ => f) <$> f.name.asKey.mapError .unfitName
    else .error (.uselessField entity f.name)

/-- The fields that the items are, if all of them may be fields of the entity. -/
def checkFields (entity : Value) : List FieldItem → Except RegistrationError (List Field)
  | [] => .ok []
  | item :: rest => do
    let f ← checkField entity item
    let others ← checkFields entity rest
    pure (f :: others)

/-- The last field of each name, in the order of these last fields. -/
def lastOfEachName : List Field → List Field
  | [] => []
  | f :: rest =>
    if rest.any fun other => other.name == f.name then lastOfEachName rest
    else f :: lastOfEachName rest

/-- The entry of an entity whose relations are not attached yet. -/
def Entry.collecting (name : Value) (fields : List Field) : Entry :=
  let kept := lastOfEachName fields
  let spec : EntitySpec := ⟨name, kept.filter fun f => !f.isRelation⟩
  ⟨spec, kept.filter Field.isRelation, SortSpec.ofEntity spec, FilterSpec.ofEntity spec⟩

/-- Registers an entity, or registers it anew, and returns what is known of it so far. -/
def register (r : Registry) (name : Value) (items : List FieldItem) :
    Checked RegistrationError (Registry × EntitySpec) := do
  if r.finalized then .ofExcept (.error (.frozen name))
  else if !name.truthy then .ofExcept (.error .namelessEntity)
  else
    let fields ← .ofExcept (checkFields name items)
    let key ← .ofExcept (name.asKey.mapError .unfitName)
    let entry := Entry.collecting key fields
    if r.has key then Checked.give (.overwriting key.label)
    Checked.give (.registered key.label entry.spec.fields.length entry.pending.length)
    pure ({ r with entries := Ordered.insert key entry r.entries }, entry.spec)

/-- Registers the entity that a class declares. -/
def registerClass (r : Registry) (c : EntityClass) : Checked RegistrationError Registry :=
  Prod.fst <$> r.register c.registeredName (c.fields.map .field)

/-! ## Finalizing -/

/-- What is wrong with a relation that is to lead to a target. -/
def targetFault? (r : Registry) (owner field target : Value) : Option FinalizeError :=
  match target.asKey with
  | .error e => some (.unfitTarget e)
  | .ok key => if r.has key then none else some (.dangling ⟨owner, field, key⟩)

/-- What is wrong with the first of the pending relations of an entity that leads nowhere. -/
def danglingField? (r : Registry) (owner : Value) (pending : List Field) : Option FinalizeError :=
  pending.findSome? fun f => f.target?.bind (targetFault? r owner f.name)

/-- What is wrong with the first relation that leads nowhere, by the order of the owners and of
their fields. -/
def dangling? (r : Registry) : Option FinalizeError :=
  r.entries.findSome? fun entry => danglingField? r entry.1 entry.2.pending

/-- Attaches a relation to an entry. -/
def Entry.attach (entry : Entry) (f : Field) : Entry where
  spec := { entry.spec with fields := entry.spec.fields ++ [f] }
  pending := entry.pending
  sort :=
    if f.sortable then
      { entry.sort with slots := Ordered.insert f.name (.ofField f) entry.sort.slots }
    else entry.sort
  filter :=
    if f.filterable then
      { entry.filter with slots := Ordered.insert f.name (.ofField f) entry.filter.slots }
    else entry.filter

/-- The entry of an owner with its pending relations attached. An entity to which relations
are attached is known by its name in the registry from then on. -/
def Entry.complete (owner : Value) (entry : Entry) : Entry :=
  let attached := entry.pending.foldl Entry.attach entry
  let name := if entry.pending.isEmpty then entry.spec.name else owner
  { attached with spec := { attached.spec with name }, pending := [] }

/-- The notices about the relations that are attached to an entity. -/
def attachNotices (owner : Value) (entry : Entry) : List Notice :=
  entry.pending.map fun f => .attaching (f.target?.getD .null).label f.name.label owner.label

/-- Resolves the relations. Where one leads nowhere, none is attached; a registry whose
relations are resolved stays as it is. -/
def finalize (r : Registry) : Checked FinalizeError Registry :=
  if r.finalized then pure r
  else match r.dangling? with
    | some e => .ofExcept (.error e)
    | none => .ofLogged
      { value := ⟨r.config, r.entries.map fun (name, entry) => (name, entry.complete name), true⟩
        notices := r.entries.flatMap (fun entry => attachNotices entry.1 entry.2) ++
          [.finalized r.entries.length] }

/-! ## Looking entities up -/

/-- Whether an entity is registered under a name, which has to be one that can be a key. -/
def contains (r : Registry) (name : Value) : Except UnfitKey Bool := r.has <$> name.asKey

/-- The entry of an entity; it is complete once the registry is finalized. -/
def entry (r : Registry) (name : Value) : Except LookupError Entry := do
  let key ← name.asKey.mapError .unfit
  match Ordered.find? key r.entries with
  | none => .error (.notFound key)
  | some entry => if r.finalized then .ok entry else .error (.notFinalized key)

/-- What is known of an entity. -/
def entity (r : Registry) (name : Value) : Except LookupError EntitySpec :=
  Entry.spec <$> r.entry name

/-- By which fields an entity may be sorted. -/
def sortSpec (r : Registry) (name : Value) : Except LookupError SortSpec :=
  Entry.sort <$> r.entry name

/-- By which fields an entity may be filtered. -/
def filterSpec (r : Registry) (name : Value) : Except LookupError FilterSpec :=
  Entry.filter <$> r.entry name

/-- The sort specification that a reference leads to, by the name of its target. A registry that
keeps its specifications in memory finds there what the reference holds (`Tables.FoundByName`). -/
def sortRef? (r : Registry) (target : Value) : Option SortSpec :=
  (Ordered.find? target r.entries).map Entry.sort

/-- The filter specification that a reference leads to, by the name of its target. -/
def filterRef? (r : Registry) (target : Value) : Option FilterSpec :=
  (Ordered.find? target r.entries).map Entry.filter

/-- The specification that a relation of a filter specification leads to, by name. -/
def refFor? (r : Registry) (spec : FilterSpec) (name : Value) : Option FilterSpec :=
  (spec.target? name).bind r.filterRef?

/-- The specification at the end of a path of relations, whose names have to be ones that can
be keys as far as the path leads. -/
def followPath (r : Registry) (spec : FilterSpec) :
    List Value → Except LookupError (Option FilterSpec)
  | [] => .ok (some spec)
  | name :: rest => do
    let key ← name.asKey.mapError .unfit
    match r.refFor? spec key with
    | some next => followPath r next rest
    | none => .ok none

/-- The filter specification at the end of a path of relations that starts at an entity. -/
def filterSpecAlong (r : Registry) (name : Value) (path : List Value) :
    Except LookupError (Option FilterSpec) := do
  r.followPath (← r.filterSpec name) path

/-- The operators that a filter may use on a scalar field of an entity. -/
def operatorsFor (r : Registry) (name field : Value) :
    Except LookupError (Option (List Operator)) := do
  let spec ← r.filterSpec name
  let key ← field.asKey.mapError .unfit
  pure (spec.operatorsFor? key)

/-- Whether a filter may use the operator that a value names on a scalar field of an entity. -/
def allows (r : Registry) (name field operator : Value) : Except LookupError Bool := do
  let spec ← r.filterSpec name
  let key ← field.asKey.mapError .unfit
  pure (spec.allows key operator)

/-- The sort specification of an entity and those that it refers to. -/
def sortGraph (r : Registry) (name : Value) : Except LookupError SortGraph :=
  (⟨·, r.sortRef?⟩) <$> r.sortSpec name

/-- A registry as it is shown. -/
def literal (r : Registry) : String :=
  "Registry(" ++ (if r.finalized then "finalized" else "collecting") ++ ", entities=" ++
    (Value.list r.names).literal ++ ")"

/-- What is known of every entity so far. -/
def snapshot (r : Registry) : List EntitySpec := r.entries.map fun entry => entry.2.spec

end Registry

end ListQuery
