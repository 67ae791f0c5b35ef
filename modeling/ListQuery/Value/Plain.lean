import ListQuery.Value.Basic

/-!
# Plain data

Plain data has no tuples, no tests, no kinds of relations and no marks but the names of
types: a tuple counts as a list, a test as a map of its comparator and its operand, the
kind of a relation as a map of its target, a scalar kind or a direction as its word, and
the mark of an argument that was left out as null.

## Main definitions

* `Value.bare` is a value as plain data.
* `Value.withoutNulls` is a value without the null entries of its maps.
-/

namespace ListQuery

/-- A mark as plain data. -/
def Mark.bare : Mark → Value
  | .kind k => .text k.name
  | .direction d => .text d.word
  | .unset => .null
  | .type name => .mark (.type name)

namespace Value

mutual

/-- A value as plain data. A test becomes a map, which has no operand if that was left out,
and so does the kind of a relation with its target. -/
def bare : Value → Value
  | .list items => .list (bareItems items)
  | .tuple items => .list (bareItems items)
  | .map entries => .map (bareEntries entries)
  | .test c operand =>
    .map ((.text "op", .text c.name) ::
      if operand = .mark .unset then [] else [(.text "value", bare operand)])
  | .relation target =>
    .map (if target = .mark .unset then [] else [(.text "target", bare target)])
  | .mark m => m.bare
  | value => value

/-- A sequence of values as plain data. -/
def bareItems : List Value → List Value
  | [] => []
  | item :: rest => bare item :: bareItems rest

/-- The entries of a map as plain data; the keys are kept. -/
def bareEntries : List (Value × Value) → List (Value × Value)
  | [] => []
  | (key, value) :: rest => (key, bare value) :: bareEntries rest

end

mutual

/-- A value without null entries: none in a map, nor in a map that is a value of a map. -/
def withoutNulls : Value → Value
  | .map entries => .map (nonNullEntries entries)
  | value => value

/-- The entries of a map whose values are not null. -/
def nonNullEntries : List (Value × Value) → List (Value × Value)
  | [] => []
  | (key, value) :: rest =>
    if value = .null then nonNullEntries rest
    else (key, withoutNulls value) :: nonNullEntries rest

end

end Value

end ListQuery
