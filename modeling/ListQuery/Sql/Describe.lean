import ListQuery.Entity.Basic
import ListQuery.Sql.Schema

/-!
# Fields of a model

The fields of an entity can be taken from a model: every column becomes a scalar
field, of a kind that its type suggests, and the relationships that are asked for
become relations. Keys of the table identify rows, whatever their type.

## Main definitions

* `Column.kind` is the kind of the field for a column.
* `describe` lists the fields of a model.
-/

namespace ListQuery.Sql

/-- The kind that the type of a column suggests. A type without a kind of its own is kept
as an unknown kind, by its name. -/
def ColumnType.kind : ColumnType → FieldKind
  | .enum => .scalar .enum
  | .uuid => .scalar .id
  | .boolean => .scalar .boolean
  | .integer | .bigInteger | .float | .numeric => .scalar .number
  | .date | .dateTime _ | .time => .scalar .date
  | .string | .text => .scalar .string
  | .other name => .unknown (.text name)

/-- The kind of the field for a column. -/
def Column.kind (col : Column) : FieldKind :=
  if col.primaryKey || col.foreignKey then .scalar .id else col.type.kind

/-- Why the fields of a model cannot be listed. -/
inductive DescribeError
  | noRelationship (model : String) (key : Value)
  /-- The keys to leave out are given by something that holds no items. -/
  | notIterable (sort : String)
  /-- Something that can be no key stands among the keys to leave out. -/
  | unfitKey (e : UnfitKey)
  /-- The relationships to include are no map. -/
  | notAMap
  deriving DecidableEq

/-- What is wrong with the arguments. -/
def DescribeError.message : DescribeError → String
  | .noRelationship model key => model ++ " has no relationship '" ++ key.label ++ "'"
  | .notIterable sort => "'" ++ sort ++ "' object is not iterable"
  | .unfitKey e => e.message
  | .notAMap => ""

/-- The items of a value: those of a sequence, the keys of a map, the characters of a text. -/
def itemsOf? : Value → Option (List Value)
  | .list items | .tuple items => some items
  | .map entries => some (entries.map Prod.fst)
  | value => value.text?.map fun s => s.toList.map fun c => .text c.toString

/-- The keys to leave out. -/
def excludedKeys (exclude : Value) : Except DescribeError (List Value) :=
  match itemsOf? exclude with
  | none => .error (.notIterable exclude.sort)
  | some items => (Value.asKeys items).mapError .unfitKey

/-- The relationships to include, with the names of the entities that they lead to. -/
def includedRelations (relations : Value) : Except DescribeError (List (Value × Value)) :=
  if relations.truthy then
    match relations.entries? with
    | some entries => .ok entries
    | none => .error .notAMap
  else .ok []

section Models

variable {ι : Type}

/-- The fields for the columns of a model. -/
def describeColumns (m : Model ι) (excluded : List Value) (sortable filterable : Bool) :
    List Field :=
  (m.columns.filter fun col => !excluded.contains (.text col.key)).map fun col =>
    ⟨.text col.key, col.kind, sortable, filterable⟩

/-- The relationship of a model that a key names. -/
def namedRelationship (m : Model ι) (key : Value) : Except DescribeError (Relationship ι) :=
  match key.text?.bind m.relationship? with
  | some r => .ok r
  | none => .error (.noRelationship m.name key)

/-- The fields for the relationships that are asked for, by their keys and by the names of
the entities that they lead to; where there is no such name, that of the model is used. -/
def describeRelations (schema : Schema ι) (model : ι) (excluded : List Value)
    (sortable filterable : Bool) : List (Value × Value) → Except DescribeError (List Field)
  | [] => .ok []
  | (key, target) :: rest =>
    if excluded.contains key then
      describeRelations schema model excluded sortable filterable rest
    else do
      let r ← namedRelationship (schema model) key
      let name := if target.truthy then target else .text (schema r.target).name
      let others ← describeRelations schema model excluded sortable filterable rest
      pure (⟨key, .relation name, sortable, filterable⟩ :: others)

/-- The fields of a model: its columns, and then the relationships that are asked for. -/
def describe (schema : Schema ι) (model : ι) (exclude relations : Value)
    (sortable filterable : Bool) : Except DescribeError (List Field) := do
  let excluded ← excludedKeys exclude
  let included ← includedRelations relations
  let fields ← describeRelations schema model excluded sortable filterable included
  pure (describeColumns (schema model) excluded sortable filterable ++ fields)

end Models

end ListQuery.Sql
