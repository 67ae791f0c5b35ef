import ListQuery.Find.Args
import ListQuery.Find.Page
import ListQuery.Sort.Spec

/-!
# Find options

The arguments of a list are checked, the sort order is brought into its normal form
where a sort specification is at hand, and the filter is compiled. The result tells
a store what to find; it also names the relations that the sort order goes through.

## Main definitions

* `FindOptions` and `FindOneOptions` are what a store is told.
* `assemble` and `assembleOne` make them of a request.
* `inferRelations` names the relations that a sort order goes through.
-/

namespace ListQuery

/-- What to find, page by page. -/
structure FindOptions where
  skip : Nat
  take : Option Bound
  criteria : Value
  order : Value
  relations : List Value
  deriving DecidableEq

/-- What to find when a single row is wanted. -/
structure FindOneOptions where
  criteria : Value
  order : Value
  deriving DecidableEq

/-- Why find options cannot be made. -/
inductive FindError
  | page (e : PaginationError)
  | sort (e : SortError)
  /-- A map was needed where something else was given. -/
  | notAMap
  deriving DecidableEq

/-- Whether a value is the word of a direction, in capitals. -/
def isDirectionWord : Value → Bool
  | .text s => (SortDirection.ofWord? s).isSome
  | _ => false

/-- The relations that a sort order goes through: the keys whose values are no directions.
An order that counts as false goes through none, and any other order must be a map. -/
def inferRelations (order : Value) : Except FindError (List Value) :=
  if order.truthy then
    match order.entries? with
    | some entries =>
      .ok ((entries.filter fun entry => !isDirectionWord entry.2).map Prod.fst)
    | none => .error .notAMap
  else .ok []

/-- The sort order to use: its normal form where there is a specification. -/
def resolveOrder (graph : Option SortGraph) (order : Value) : Except FindError Value :=
  match graph with
  | none => .ok order
  | some graph => (graph.normalize order).mapError .sort

/-- The arguments of a request. -/
def Request.args (request : Request) : Except FindError QueryArgs :=
  match request.args? with
  | some args => .ok args
  | none => .error .notAMap

/-- Makes find options of a request. -/
def assemble (config : Config) (graph : Option SortGraph) (request : Request) :
    Checked FindError FindOptions := do
  let args ← .ofExcept request.args
  let skip ← .ofExcept ((resolveSkip config args.skip).mapError .page)
  let take ← .ofExcept ((resolveTake config args.take).mapError .page)
  let order ← .ofExcept (resolveOrder graph args.order)
  let criteria ← .ofLogged (Filter.compileWhere config.filterSettings args.filter)
  let relations ← .ofExcept (inferRelations order)
  Checked.give (.assembled skip take relations)
  pure ⟨skip, take, criteria, order, relations⟩

/-- Makes find options for a single row. -/
def assembleOne (config : Config) (graph : Option SortGraph) (request : Request) :
    Checked FindError FindOneOptions := do
  let args ← .ofExcept request.args
  let criteria ← .ofLogged (Filter.compileWhere config.filterSettings args.filter)
  let order ← .ofExcept (resolveOrder graph args.order)
  pure ⟨criteria, order⟩

end ListQuery
