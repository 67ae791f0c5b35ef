import ListQuery.Entity.Basic

/-!
# Sort specifications

A sort specification says by which fields an entity may be sorted: a scalar field
takes a direction, a relation takes a sort order of its target. Specifications refer
to one another by the names of their entities, so they may be cyclic; a reference is
followed through a table of the specifications that are known.

## Main definitions

* `SortSpec` is a specification, `SortSpec.ofEntity` that of an entity.
* `SortSpec.normalize` checks a sort order and brings it into its normal form, with
  directions in capitals and without empty entries.
* `SortError` says why a sort order is refused, and where.
-/

namespace ListQuery

/-- What a field takes in a sort order. A reference is by name; which specification it holds in
memory, and that this is the one found by name, is the matter of `Tables.Linked`. -/
inductive SortSlot
  | leaf (kind : FieldKind)
  | ref (target : Value)
  deriving DecidableEq

/-- Whether two slots are taken for the same. -/
def SortSlot.agrees : SortSlot → SortSlot → Bool
  | .leaf a, .leaf b => a.agrees b
  | .ref a, .ref b => a.canonical = b.canonical
  | _, _ => false

/-- By which fields an entity may be sorted. -/
structure SortSpec where
  entity : Value
  slots : Ordered Value SortSlot
  deriving DecidableEq

/-- What a field takes in a sort order, by its kind. -/
def SortSlot.ofField (f : Field) : SortSlot :=
  match f.target? with
  | some target => .ref target
  | none => .leaf f.kind

namespace SortSpec

/-- The specification by the sortable fields of an entity. -/
def ofEntity (spec : EntitySpec) : SortSpec where
  entity := spec.name
  slots := Ordered.ofEntries <| (spec.fields.filter Field.sortable).map fun f =>
    (f.name, SortSlot.ofField f)

/-- The specification of an entity whose fields are listed, if all that is listed is fields and
if every name that is needed can be a key. -/
def ofItems (name : Value) (items : List FieldItem) : Except ItemError SortSpec :=
  (fun fields => ofEntity ⟨name, fields⟩) <$> FieldItem.chosen Field.sortable items

/-- A specification as it is shown. -/
def literal (spec : SortSpec) : String :=
  "SortSpec(" ++ spec.entity.literal ++ ", fields=" ++
    (Value.list (Ordered.keys spec.slots)).literal ++ ")"

/-- Whether two specifications are taken for the same: the order of slots does not matter. -/
def agrees (a b : SortSpec) : Bool :=
  a.entity == b.entity && Ordered.agrees SortSlot.agrees a.slots b.slots

end SortSpec

/-- Why an entry of a sort order is refused. -/
inductive SortFault
  | notAnObject
  | unknownField
  | notADirection
  | unresolved (target : Value)
  deriving DecidableEq

/-- The words for a fault. -/
def SortFault.reason : SortFault → String
  | .notAnObject => "expected an object of field directions"
  | .unknownField => "unknown sort field"
  | .notADirection => "direction must be ASC or DESC"
  | .unresolved target => "relation '" ++ target.label ++ "' is not resolved"

/-- Why a sort order is refused: the fault, the specification that it breaks, and the
path and the value of the entry at fault. -/
structure SortError where
  entity : Value
  path : List String
  value : Value
  fault : SortFault
  deriving DecidableEq

/-- A path as it is shown. -/
def dottedPath (path : List String) : String :=
  let dotted := ".".intercalate path
  if dotted = "" then "<root>" else dotted

/-- What is wrong with a sort order. -/
def SortError.message (e : SortError) : String :=
  "Invalid order for " ++ e.entity.label ++ " at '" ++ dottedPath e.path ++ "': " ++
    e.fault.reason ++ " (got " ++ e.value.literal ++ ")"

/-- The direction that a value names, in any case. -/
def SortDirection.ofValue? : Value → Option SortDirection
  | .text s => SortDirection.ofText? s
  | _ => none

/-- What a key of a sort order takes. -/
def SortSpec.slot? (spec : SortSpec) (key : Value) : Option SortSlot :=
  Ordered.find? key spec.slots

namespace SortSpec

mutual

/-- The normal form of a nested sort order at a path. -/
def normalizeAt (lookup : Value → Option SortSpec) (spec : SortSpec) (path : List String) :
    Value → Except SortError (List (Value × Value))
  | .map entries => normalizeEntries lookup spec path entries
  | other => .error ⟨spec.entity, path, other, .notAnObject⟩

/-- The normal form of the entries of a sort order, in their order. -/
def normalizeEntries (lookup : Value → Option SortSpec) (spec : SortSpec) (path : List String) :
    List (Value × Value) → Except SortError (List (Value × Value))
  | [] => .ok []
  | (key, value) :: rest =>
    let here := path ++ [key.label]
    match spec.slot? key with
    | none => .error ⟨spec.entity, here, value, .unknownField⟩
    | some slot =>
      if value = .null then normalizeEntries lookup spec path rest
      else match slot with
        | .leaf _ =>
          match SortDirection.ofValue? value with
          | none => .error ⟨spec.entity, here, value, .notADirection⟩
          | some direction => do
            let others ← normalizeEntries lookup spec path rest
            pure ((key, .text direction.word) :: others)
        | .ref target =>
          match lookup target with
          | none => .error ⟨spec.entity, here, value, .unresolved target⟩
          | some inner => do
            let nested ← normalizeAt lookup inner here value
            let others ← normalizeEntries lookup spec path rest
            pure ((key, .map nested) :: others)

end

/-- The normal form of a sort order; nothing where no order is asked for. -/
def normalize (lookup : Value → Option SortSpec) (spec : SortSpec) (order : Value) :
    Except SortError Value :=
  if order = .null then .ok .null else .map <$> normalizeAt lookup spec [] order

end SortSpec

/-- A specification with the table through which its references are followed. -/
structure SortGraph where
  root : SortSpec
  lookup : Value → Option SortSpec

/-- The normal form of a sort order by a specification and those that it refers to. -/
def SortGraph.normalize (graph : SortGraph) (order : Value) : Except SortError Value :=
  graph.root.normalize graph.lookup order

end ListQuery
