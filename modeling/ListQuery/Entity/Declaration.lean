import ListQuery.Entity.Basic

/-!
# Declared fields

A field of an entity class is declared by its kind, or as a relation by its target.
A declaration may give the field a name of its own; without one the field has the
name of the attribute that declares it.

## Main definitions

* `Declaration` is a declared field, `Declaration.toField` the field it declares.
* `Declaration.scalar` and `Declaration.relation` make declarations.
-/

namespace ListQuery

/-- A declared field. -/
structure Declaration where
  kind : FieldKind
  sortable : Bool
  filterable : Bool
  /-- The name of its own; one that does not count as true is none. -/
  name : Value
  deriving DecidableEq

/-- Why a declaration is refused. -/
inductive DeclarationError
  | kind (e : KindError)
  | relationAsScalar
  | noTarget
  deriving DecidableEq

/-- What is wrong with a declaration. -/
def DeclarationError.message : DeclarationError → String
  | .kind e => e.message
  | .relationAsScalar => "Use relation() to declare relation fields"
  | .noTarget => "relation() requires a target entity name or class"

namespace Declaration

/-- The field that a declaration makes of the attribute of a name. -/
def toField (d : Declaration) (attr : String) : Field where
  name := if d.name.truthy then d.name else .text attr
  kind := d.kind
  sortable := d.sortable
  filterable := d.filterable

/-- Declares a scalar field. -/
def scalar (kind : Value) (sortable filterable : Bool) (name : Value) :
    Except DeclarationError Declaration :=
  match FieldKind.declared kind with
  | .error e => .error (.kind e)
  | .ok (.relation _) => .error .relationAsScalar
  | .ok kind => .ok ⟨kind, sortable, filterable, name⟩

/-- The name of the entity that a value names as a target: a text is one itself, a type has
one, and any other value names none. -/
def targetName : Value → Value
  | .mark (.type name) => .text name.word
  | value => if value.text?.isSome then value else .null

/-- Declares a relation to the entity of a name, which has to count as true. -/
def relation (target : Value) (sortable filterable : Bool) (name : Value) :
    Except DeclarationError Declaration :=
  if target.truthy then .ok ⟨.relation target, sortable, filterable, name⟩
  else .error .noTarget

end Declaration

end ListQuery
