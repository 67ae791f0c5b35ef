import ListQuery.Value.Key

/-!
# Arguments of a list

A request for a list carries a number of rows to skip and to take, a sort order and
a filter. The order may be given as `order` or as `sort`, the filter as `filter` or
as `where`; the first of the two that is there and not null counts.

## Main definitions

* `QueryArgs` holds the arguments as they came.
* `QueryArgs.ofValue?` takes them from a map.
* `Request` is a request, which gives them one by one or in a value.
-/

namespace ListQuery

/-- The arguments of a list as they came. -/
structure QueryArgs where
  skip : Value
  take : Value
  order : Value
  filter : Value
  deriving DecidableEq

namespace QueryArgs

/-- The value under the first of two names that is there and not null. -/
def either (first second : String) (entries : List (Value × Value)) : Value :=
  let value := Value.field first entries
  if value = .null then Value.field second entries else value

/-- The arguments in the entries of a map. -/
def ofEntries (entries : List (Value × Value)) : QueryArgs where
  skip := Value.field "skip" entries
  take := Value.field "take" entries
  order := either "order" "sort" entries
  filter := either "filter" "where" entries

/-- The arguments in a map. A value that counts as false has none; any other value that is
no map is refused. -/
def ofValue? (raw : Value) : Option QueryArgs :=
  if raw.truthy then raw.entries?.map ofEntries else some (ofEntries [])

/-- The names of the arguments. -/
def names : List String := ["skip", "take", "order", "filter"]

/-- Arguments that are given one by one: nothing is skipped unless it is asked for. -/
def ofNamed (entries : Ordered String Value) : QueryArgs where
  skip := (Ordered.find? "skip" entries).getD (.int 0)
  take := (Ordered.find? "take" entries).getD .null
  order := (Ordered.find? "order" entries).getD .null
  filter := (Ordered.find? "filter" entries).getD .null

end QueryArgs

/-- A request for a list: arguments that are given one by one, or a value that holds them. -/
inductive Request
  | named (args : QueryArgs)
  | raw (value : Value)
  deriving DecidableEq

/-- The arguments of a request, unless a value holds them that cannot. -/
def Request.args? : Request → Option QueryArgs
  | .named args => some args
  | .raw value => QueryArgs.ofValue? value

end ListQuery
