import ListQuery.Entity.Declaration

/-!
# Entity classes

Entities may be declared by classes that inherit from one another. A class collects
the fields of its bases, base by base, and then its own; a field that comes again
keeps its place and is replaced. The lineage of a class lists the class and all its
ancestors so that every class stands before its bases, and the bases of each class
stand in their order; a class whose bases admit no such order is refused.

## Main definitions

* `ClassAttribute` is what a body assigns to an attribute.
* `EntityClass` is a class, `EntityClass.make` makes one from its bases and its body.
* `mergeLineages` merges the lineages of the bases.
* `Hierarchy` holds the classes made so far.
-/

namespace ListQuery

/-- A class, told apart from another of the same name by the order in which they were made. -/
structure ClassRef where
  id : Nat
  name : String
  deriving DecidableEq

/-- The class that all entity classes descend from. -/
def rootClass : ClassRef := ⟨0, "Entity"⟩

/-- What the body of a class assigns to an attribute: a declared field or any other value. -/
inductive ClassAttribute
  | declared (d : Declaration)
  | plain (value : Value)
  deriving DecidableEq

/-- The declaration that an attribute is assigned. -/
def ClassAttribute.declaration? : ClassAttribute → Option Declaration
  | .declared d => some d
  | .plain _ => none

/-- The attribute that gives the entity of a class its name. -/
def entityNameAttribute : String := "__entity_name__"

/-- A class that declares an entity. -/
structure EntityClass where
  ref : ClassRef
  /-- The name of the entity; where it does not count as true, that of the class is used. -/
  entityName : Value
  /-- The fields of the class, those of its bases included. -/
  fields : List Field
  /-- The class and its ancestors. -/
  lineage : List ClassRef
  deriving DecidableEq

/-- Why a class is refused. -/
inductive HierarchyError
  /-- A field has a name that can be no key. -/
  | unfitName (e : UnfitKey)
  | duplicateBase (name : String)
  | inconsistentBases (names : List String)
  deriving DecidableEq

/-- What is wrong with a class. -/
def HierarchyError.message : HierarchyError → String
  | .unfitName e => e.message
  | .duplicateBase name => "duplicate base class " ++ name
  | .inconsistentBases names =>
    "Cannot create a consistent method resolution\norder (MRO) for bases " ++ commaSeparated names

section Lineage

variable {α : Type} [DecidableEq α]

/-- The first head among the lists that stands in the tail of none. -/
def freeHead? (lists : List (List α)) : Option α :=
  (lists.filterMap List.head?).find? fun head => lists.all fun list => !list.tail.contains head

/-- Removes a head from every list that starts with it. -/
def dropHead (head : α) (lists : List (List α)) : List (List α) :=
  lists.map fun list => if list.head? = some head then list.tail else list

/-- Merges lists in at most so many steps; see `mergeLineages`. -/
def mergeSteps : Nat → List (List α) → Except (List α) (List α)
  | 0, lists => if lists.all List.isEmpty then .ok [] else .error (lists.filterMap List.head?)
  | steps + 1, lists =>
    if lists.all List.isEmpty then .ok []
    else match freeHead? lists with
      | none => .error (lists.filterMap List.head?)
      | some head => (head :: ·) <$> mergeSteps steps (dropHead head lists)

/-- How many elements lists have together. -/
def totalLength : List (List α) → Nat
  | [] => 0
  | list :: rest => list.length + totalLength rest

/-- Merges lists into one that keeps the order of each, and takes elements of earlier
lists first where there is a choice. Where that is impossible, the heads of what could not
be merged are returned. Every step removes an element, so their number bounds the steps. -/
def mergeLineages (lists : List (List α)) : Except (List α) (List α) :=
  mergeSteps (totalLength lists) lists

end Lineage

/-- The first element that comes again later. -/
def firstRepeated? {α : Type} [DecidableEq α] : List α → Option α
  | [] => none
  | x :: rest => if rest.contains x then some x else firstRepeated? rest

namespace EntityClass

/-- The name under which the class declares its entity. -/
def registeredName (c : EntityClass) : Value :=
  if c.entityName.truthy then c.entityName else .text c.ref.name

/-- The fields that a body declares: one for each declaration, by its own name. -/
def declaredFields (body : Ordered String ClassAttribute) : List Field :=
  body.filterMap fun entry => entry.2.declaration?.map fun d => d.toField entry.1

/-- The name that a body gives to the entity; without one it has the name of the class. -/
def entityNameOf (ref : ClassRef) (body : Ordered String ClassAttribute) : Value :=
  match Ordered.find? entityNameAttribute body with
  | some (.plain name) => name
  | _ => .text ref.name

/-- The fields of the bases, base by base, and then of the body. -/
def collectFields (bases : List EntityClass) (own : List Field) : List Field :=
  let all := bases.flatMap EntityClass.fields ++ own
  (Ordered.ofEntries (all.map fun f => (f.name, f))).map Prod.snd

/-- The class that stands above all others and declares nothing. -/
def root : EntityClass := ⟨rootClass, .text rootClass.name, [], [rootClass]⟩

/-- The lineage of a class with such bases. -/
def lineageOf (ref : ClassRef) (bases : List EntityClass) :
    Except HierarchyError (List ClassRef) :=
  let refs := bases.map EntityClass.ref
  match firstRepeated? refs with
  | some base => .error (.duplicateBase base.name)
  | none =>
    match mergeLineages (bases.map EntityClass.lineage ++ [refs]) with
    | .ok ancestors => .ok (ref :: ancestors)
    | .error heads =>
      let names := (Ordered.ofEntries (heads.map fun head => (head, head.name))).map Prod.snd
      .error (.inconsistentBases names)

/-- Makes a class from its bases and from what its body assigns to each attribute. The names
of its fields are checked first. A class without bases descends from the root alone. -/
def make (ref : ClassRef) (bases : List EntityClass) (body : Ordered String ClassAttribute) :
    Except HierarchyError EntityClass := do
  let own := declaredFields body
  let _ ← (Value.asKeys (own.map Field.name)).mapError .unfitName
  let lineage ← lineageOf ref (if bases.isEmpty then [root] else bases)
  pure ⟨ref, entityNameOf ref body, collectFields bases own, lineage⟩

end EntityClass

/-- The classes made so far, the latest first. -/
structure Hierarchy where
  classes : List EntityClass
  deriving DecidableEq

namespace Hierarchy

/-- No classes. -/
def empty : Hierarchy := ⟨[]⟩

/-- The latest class of a name; the root can always be named. -/
def find? (h : Hierarchy) (name : String) : Option EntityClass :=
  (h.classes ++ [EntityClass.root]).find? fun c => c.ref.name = name

/-- What distinguishes the next class. -/
def nextRef (h : Hierarchy) (name : String) : ClassRef := ⟨h.classes.length + 1, name⟩

/-- Adds a class. -/
def add (h : Hierarchy) (c : EntityClass) : Hierarchy := ⟨c :: h.classes⟩

end Hierarchy

end ListQuery
