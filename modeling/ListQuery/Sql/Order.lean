import ListQuery.Sql.Schema
import ListQuery.Value.Key

/-!
# Sort orders as joins and terms

A sort order on a model sorts by its own columns and, through relationships, by
those of other models. Every nested order joins the related table anew, under a name
of its own, so that no two paths share a table. The joins and the terms stand in the
order in which their entries are met, the nested ones before those that follow.

## Main definitions

* `Join` is a joined table, `Term` a column to sort by.
* `orderClauses` gives the joins and the terms of a sort order.
* `OrderError` says why a sort order is refused.
-/

namespace ListQuery.Sql

/-- The table that a column belongs to: that of the model itself, or a joined one, by the
number of the join. -/
inductive Source
  | model
  | join (index : Nat)
  deriving DecidableEq

/-- A joined table: where the relationship starts, and the relationship. -/
structure Join (ι : Type) where
  source : Source
  owner : ι
  relationship : Relationship ι
  deriving DecidableEq

/-- A column to sort by. -/
structure Term where
  source : Source
  column : Column
  direction : SortDirection
  deriving DecidableEq

/-- The joins and the terms of a sort order. -/
structure Ordering (ι : Type) where
  joins : List (Join ι)
  terms : List Term
  deriving DecidableEq

/-- Why a sort order is refused. -/
inductive OrderError
  /-- The order is no map. -/
  | notAMap
  /-- A key is no text, at a depth. -/
  | keyNotText (depth : Nat) (sort : String)
  | notAnObject (path : String) (value : Value)
  | unknownColumn (path : String)
  | notADirection (path : String) (value : Value)
  deriving DecidableEq

/-- What is wrong with a sort order. -/
def OrderError.message : OrderError → String
  | .notAMap => ""
  | .keyNotText depth sort =>
    "sequence item " ++ toString depth ++ ": expected str instance, " ++ sort ++ " found"
  | .notAnObject path value =>
    "Invalid order_by for relation '" ++ path ++ "': expected an object, got " ++ value.literal
  | .unknownColumn path => "Invalid order_by: unknown column '" ++ path ++ "'"
  | .notADirection path value =>
    "Invalid order_by direction for '" ++ path ++ "': " ++ value.literal

/-- The text in which a value names a direction: a mark names it by its word, and a test by
its operand. -/
def directionText : Value → String
  | .test _ operand => operand.label
  | .mark (.kind kind) => kind.name
  | .mark (.direction direction) => direction.word
  | value => value.label

/-- A path of keys with points between them. -/
def pathText (path : List String) : String := ".".intercalate path

section Orders

variable {ι : Type}

/-- No joins and no terms. -/
def Ordering.none : Ordering ι := ⟨[], []⟩

/-- Joins and terms followed by others. -/
def Ordering.append (first second : Ordering ι) : Ordering ι :=
  ⟨first.joins ++ second.joins, first.terms ++ second.terms⟩

/-- The term for a key that names no relationship. -/
def columnTerm (m : Model ι) (source : Source) (path : List String) (key : String)
    (value : Value) : Except OrderError Term :=
  match m.column? key with
  | .none => .error (.unknownColumn (pathText path))
  | some col =>
    match SortDirection.ofText? (directionText value) with
    | some direction => .ok ⟨source, col, direction⟩
    | .none => .error (.notADirection (pathText path) value)

mutual

/-- The joins and terms of the entries of a sort order, where so many joins were made
before. -/
def orderEntries (schema : Schema ι) (model : ι) (source : Source) (path : List String)
    (made : Nat) : List (Value × Value) → Except OrderError (Ordering ι)
  | [] => .ok .none
  | (key, value) :: rest => do
    let first ← orderEntry schema model source path made key value
    let others ← orderEntries schema model source path (made + first.joins.length) rest
    pure (first.append others)

/-- The joins and terms of one entry, by its key. An entry without a value has none. -/
def orderEntry (schema : Schema ι) (model : ι) (source : Source) (path : List String)
    (made : Nat) (key : Value) : Value → Except OrderError (Ordering ι)
  | .null => .ok .none
  | .map entries =>
    match key.text? with
    | some name =>
      match (schema model).relationship? name with
      | some r => do
        let nested ← orderEntries schema r.target (.join made) (path ++ [name]) (made + 1) entries
        pure (Ordering.append ⟨[⟨source, model, r⟩], []⟩ nested)
      | .none => do
        let term ← columnTerm (schema model) source (path ++ [name]) name (.map entries)
        pure ⟨[], [term]⟩
    | .none => .error (.keyNotText path.length key.sort)
  | value =>
    match key.text? with
    | some name =>
      match (schema model).relationship? name with
      | some _ => .error (.notAnObject (pathText (path ++ [name])) value)
      | .none => do
        let term ← columnTerm (schema model) source (path ++ [name]) name value
        pure ⟨[], [term]⟩
    | .none => .error (.keyNotText path.length key.sort)

end

/-- The joins and terms of a sort order. An order that counts as false has none, and any
other order must be a map. -/
def orderClauses (schema : Schema ι) (model : ι) (order : Value) :
    Except OrderError (Ordering ι) :=
  if order.truthy then
    match order.entries? with
    | some entries => orderEntries schema model .model [] 0 entries
    | .none => .error .notAMap
  else .ok .none

/-! ## Names of joined tables -/

/-- The name of a joined table: the table and how often it has been joined so far. -/
def aliasName (table : String) (count : Nat) : String := table ++ "_" ++ toString count

/-- The table that a join leads to. -/
def Join.table (schema : Schema ι) (join : Join ι) : String :=
  (schema join.relationship.target).table

/-- The names of the joined tables, after some tables were joined before. -/
def aliasesAfter (before : List String) : List String → List String
  | [] => []
  | table :: rest =>
    aliasName table (before.count table + 1) :: aliasesAfter (table :: before) rest

/-- The names of the joined tables. -/
def aliases (schema : Schema ι) (joins : List (Join ι)) : List String :=
  aliasesAfter [] (joins.map (Join.table schema))

/-- The name of the table that a column belongs to. -/
def Source.tableName (m : Model ι) (names : List String) : Source → String
  | .model => m.table
  | .join index => names.getD index ""

/-- A term as it is written, by the name of its table. -/
def Term.written (term : Term) (table : String) : String :=
  qualified table term.column.name ++ " " ++ term.direction.word

end Orders

end ListQuery.Sql
