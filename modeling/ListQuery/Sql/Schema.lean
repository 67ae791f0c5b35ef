/-!
# Database schemas

A schema maps every model to a table: its columns, each with a type, and its
relationships to other models. A relationship joins a column of the one table to a
column of the other, and the join condition is written with the columns in a fixed
order, whichever side it is seen from.

## Main definitions

* `Schema` is a schema over a type of models, `Model` what it says of one of them.
* `Model.column?` and `Model.relationship?` look things up by their keys.
* `Relationship.condition` is the text of a join condition.
-/

namespace ListQuery.Sql

/-- The type of a column. -/
inductive ColumnType
  | integer
  | bigInteger
  | float
  | numeric
  | string
  | text
  | enum
  | boolean
  | date
  | dateTime (withZone : Bool)
  | time
  | uuid
  /-- A type without rules of its own, by its name. -/
  | other (name : String)
  deriving DecidableEq

/-- A column: the key under which it is addressed and its name in the table. -/
structure Column where
  key : String
  name : String
  type : ColumnType
  primaryKey : Bool
  foreignKey : Bool
  deriving DecidableEq

/-- A relationship to another model. -/
structure Relationship (ι : Type) where
  key : String
  target : ι
  /-- Whether it leads to any number of rows. -/
  many : Bool
  /-- The column of the model that has the relationship. -/
  own : String
  /-- The column of the model that it leads to. -/
  other : String
  /-- Whether the condition starts with the column of the model that it leads to. -/
  otherFirst : Bool
  deriving DecidableEq

/-- What a schema says of a model. -/
structure Model (ι : Type) where
  name : String
  table : String
  columns : List Column
  relationships : List (Relationship ι)
  deriving DecidableEq

/-- A schema. -/
abbrev Schema (ι : Type) := ι → Model ι

namespace Model

variable {ι : Type}

/-- The column of a key. -/
def column? (m : Model ι) (key : String) : Option Column :=
  m.columns.find? fun c => c.key = key

/-- The relationship of a key. -/
def relationship? (m : Model ι) (key : String) : Option (Relationship ι) :=
  m.relationships.find? fun r => r.key = key

end Model

/-- A column of a table, or of another name for the table. -/
def qualified (table column : String) : String := table ++ "." ++ column

/-- The condition of a join between two tables, by the names used for them. -/
def Relationship.condition {ι : Type} (r : Relationship ι) (own other : String) : String :=
  if r.otherFirst then qualified other r.other ++ " = " ++ qualified own r.own
  else qualified own r.own ++ " = " ++ qualified other r.other

end ListQuery.Sql
