import ListQuery.Find.Assemble
import ListQuery.Sql.ClauseText
import ListQuery.Sql.Order
import ListQuery.Sql.Where

/-!
# Statements

Find options become a statement that selects the columns of a model: the joins that
the sort order needs, the condition, the sort order and the page. The relations that
the options name are loaded beside the rows, as far as the model has them.

## Main definitions

* `Query` is what a statement asks for, `Query.render` its text and parameters.
* `findQuery` and `findOneQuery` make it of find options.
-/

namespace ListQuery.Sql

/-- What a statement asks for. -/
structure Query (ι : Type) where
  model : ι
  condition : Option (Clause ι)
  ordering : Ordering ι
  limit : Option Int
  /-- The number of rows to skip. -/
  offset : Nat
  /-- The relationships that are loaded beside the rows. -/
  eager : List String

/-- Why find options cannot become a statement. -/
inductive QueryError
  | clause (e : ClauseError)
  | order (e : OrderError)
  deriving DecidableEq

section Queries

variable {ι : Type}

/-- The relationships to load beside the rows; those that the model does not have are left
out and reported. -/
def eagerLoads (m : Model ι) : List Value → Logged (List String)
  | [] => pure []
  | relation :: rest => do
    match relationshipOf? m relation with
    | some r => (r.key :: ·) <$> eagerLoads m rest
    | none =>
      Logged.give (.relationSkipped relation m.name)
      eagerLoads m rest

/-- What a statement asks for, without a page. -/
def conditionAndOrder (schema : Schema ι) (allowRaw : Bool) (model : ι)
    (criteria order : Value) : Checked QueryError (Query ι) := do
  let condition ← ExceptT.adapt .clause (whereClause schema allowRaw model criteria)
  let ordering ← .ofExcept ((orderClauses schema model order).mapError .order)
  pure ⟨model, condition, ordering, none, 0, []⟩

/-- What the statement for find options asks for. -/
def findQuery (schema : Schema ι) (allowRaw : Bool) (model : ι) (options : FindOptions) :
    Checked QueryError (Query ι) := do
  let query ← conditionAndOrder schema allowRaw model options.criteria options.order
  let eager ← .ofLogged (eagerLoads (schema model) options.relations)
  pure { query with limit := options.take.map Bound.toInt, offset := options.skip, eager }

/-- What the statement for a single row asks for. -/
def findOneQuery (schema : Schema ι) (allowRaw : Bool) (model : ι) (options : FindOneOptions) :
    Checked QueryError (Query ι) :=
  conditionAndOrder schema allowRaw model options.criteria options.order

/-! ## Text -/

/-- A joined table in a statement, with its name and the name of the table it starts from. -/
def joinText (schema : Schema ι) (join : Join ι) (own name : String) : String :=
  " LEFT OUTER JOIN " ++ join.table schema ++ " AS " ++ name ++ " ON " ++
    join.relationship.condition own name

/-- A part of a statement under a heading, left out where it is empty. -/
def headed (heading : String) (parts : List String) : Fragment :=
  if parts.isEmpty then [] else Fragment.ofText (heading ++ commaSeparated parts)

/-- The page of a statement. Where rows are skipped and all others taken, the limit is
written as a negative number. -/
def pageFragment (limit : Option Int) (offset : Nat) : Fragment :=
  let skip : Fragment := if offset = 0 then []
    else Fragment.ofText " OFFSET " ++ Fragment.ofParam "param" (.int offset)
  match limit with
  | some n => Fragment.ofText " LIMIT " ++ Fragment.ofParam "param" (.int n) ++ skip
  | none => (if offset = 0 then [] else Fragment.ofText " LIMIT -1") ++ skip

/-- A condition in a statement, left out where nothing of it is written. -/
def conditionFragment (schema : Schema ι) : Option (Clause ι) → Fragment
  | some clause =>
    let written := clause.fragment schema
    if written.isEmpty then [] else Fragment.ofText " WHERE " ++ written
  | none => []

namespace Query

/-- The text of the statement. -/
def fragment (schema : Schema ι) (query : Query ι) : Fragment :=
  let m := schema query.model
  let names := aliases schema query.ordering.joins
  let joins := (query.ordering.joins.zip names).map fun (join, name) =>
    joinText schema join (join.source.tableName m names) name
  Fragment.ofText ("SELECT " ++ commaSeparated (m.columns.map fun c => qualified m.table c.name) ++
    " FROM " ++ m.table ++ String.join joins) ++
  conditionFragment schema query.condition ++
  headed " ORDER BY " (query.ordering.terms.map fun term =>
    term.written (term.source.tableName m names)) ++
  pageFragment query.limit query.offset

/-- The statement with its parameters. -/
def render (schema : Schema ι) (query : Query ι) : Except ParameterClash Rendered :=
  (query.fragment schema).render

end Query

/-- The statement that asks whether rows of a model satisfy a condition. -/
def probe (schema : Schema ι) (model : ι) (clause : Clause ι) :
    Except ParameterClash Rendered :=
  Fragment.render <|
    Fragment.ofText ("SELECT 1 FROM " ++ (schema model).table) ++
      conditionFragment schema (some clause)

end Queries

end ListQuery.Sql
