import ListQuery.Filter.Operator
import ListQuery.Text.Blank
import ListQuery.Text.LowerCase

/-!
# Field kinds

A field is a scalar of some kind or a relation to an entity. A kind that is neither
is kept as it was given and treated as unknown: the operators of text apply to it.

## Main definitions

* `FieldKind` is the type of kinds, `FieldKind.ofValue` takes a value as it is.
* `FieldKind.declared` reads the kind of a declaration, which may be written as a
  word in any case or as the name of a type.
* `FieldKind.operators` lists the operators that a kind admits.
-/

namespace ListQuery

/-- The kind of a field. -/
inductive FieldKind
  | scalar (kind : ScalarKind)
  | relation (target : Value)
  | unknown (label : Value)
  deriving DecidableEq

namespace FieldKind

instance : Inhabited FieldKind := ⟨.scalar .string⟩

/-- The kind that a value is, without interpreting words. -/
def ofValue : Value → FieldKind
  | .mark (.kind kind) => .scalar kind
  | .relation target => .relation target
  | label => .unknown label

/-- A kind as a value. -/
def toValue : FieldKind → Value
  | .scalar kind => .mark (.kind kind)
  | .relation target => .relation target
  | .unknown label => label

/-- The kind that the name of a type stands for. -/
def ofType? : TypeName → Option FieldKind
  | .string => some (.scalar .string)
  | .int => some (.scalar .number)
  | .float => some (.scalar .number)
  | .bool => some (.scalar .boolean)
  | .list => none

/-- The kind that a text names: a scalar kind in any case and with white space around
it, or an unknown kind, which is kept as it is written. -/
def ofText (s : String) : FieldKind :=
  match ScalarKind.ofName? (lowerCase (strip s)) with
  | some kind => .scalar kind
  | none => .unknown (.text s)

/-- The kind that a declaration states, if it states one. -/
def declared? : Value → Option FieldKind
  | .mark (.kind kind) => some (.scalar kind)
  | .relation target => some (.relation target)
  | .mark (.type name) => ofType? name
  | .text s => some (ofText s)
  | _ => none

/-- The name of the entity that a relation leads to. -/
def target? : FieldKind → Option Value
  | .relation target => some target
  | _ => none

/-- Whether a kind is a relation. -/
def isRelation (kind : FieldKind) : Bool := kind.target?.isSome

/-- The operators that a filter may use on a field of a kind. -/
def operators : FieldKind → List Operator
  | .scalar kind => kind.operators
  | _ => textOperators

/-- Whether two kinds are taken for the same: they are if they have the same simplest form,
where a scalar kind is its name. -/
def agrees (a b : FieldKind) : Bool := a.toValue.canonical = b.toValue.canonical

@[simp]
theorem ofValue_scalar (kind : ScalarKind) : ofValue (.mark (.kind kind)) = .scalar kind := rfl

@[simp]
theorem ofValue_relation (target : Value) : ofValue (.relation target) = .relation target := rfl

end FieldKind

/-- A value that states no kind was given where a kind is declared. -/
structure KindError where
  value : Value
  deriving DecidableEq

/-- What is wrong with a kind. -/
def KindError.message (e : KindError) : String := "Unsupported field kind: " ++ e.value.literal

/-- The kind that a declaration states. -/
def FieldKind.declared (v : Value) : Except KindError FieldKind :=
  match FieldKind.declared? v with
  | some kind => .ok kind
  | none => .error ⟨v⟩

end ListQuery
