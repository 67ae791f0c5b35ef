import ListQuery.Filter.Combinator
import ListQuery.Filter.Operator

/-!
# Compiling filters

A filter is compiled to a predicate: a map of field tests, all of which must hold,
or a list of such maps, one of which must hold. A list of filters is a disjunction;
a map with a list under `OR` or `AND` is a group; any other map tests its fields
one by one. A field is tested by an operator object, by a nested map through a
relation, or by a plain value.

Compiling never fails. What cannot be expressed is reported and reduced, and a
container nested deeper than the bound is reported and left as it is.

## Main definitions

* `Filter.Settings` holds the depth bound and whether discarded operators are reported.
* `Filter.compile` compiles a filter, `Filter.convert` the value of one field.
-/

namespace ListQuery.Filter

/-- How filters are compiled. -/
structure Settings where
  /-- Whether operators that are not applied are reported. -/
  warnOnDiscarded : Bool
  /-- The depth below which containers are left as they are. -/
  maxDepth : Bound
  deriving DecidableEq

/-- The depth bound where none is chosen. -/
def defaultMaxDepth : Bound := .int 64

/-- The settings where none are chosen. -/
def Settings.standard : Settings := ⟨true, defaultMaxDepth⟩

/-- The settings for a single filter: those that come to the same as the standard ones, in
whatever form the bound was given, are the standard ones. -/
def Settings.chosen (warnOnDiscarded : Bool) (maxDepth : Bound) : Settings :=
  if warnOnDiscarded && maxDepth.compareInt defaultMaxDepth.toInt = some .eq then .standard
  else ⟨warnOnDiscarded, maxDepth⟩

/-- Leaves a container that is nested too deep as it is, and reports it. -/
def Settings.passOver (s : Settings) (node : Value) : Logged Value := do
  Logged.give (.tooDeep s.maxDepth)
  pure node

/-- The disjunction of compiled children: disjunctions among them are spliced in, and a
single branch stands for itself. No children at all restrict nothing. -/
def disjunction (compiled : List Value) : Value :=
  match compiled.flatMap branches with
  | [] => if compiled.isEmpty then Value.emptyMap else .list []
  | [branch] => branch
  | all => .list all
where
  /-- The branches of a compiled child. -/
  branches : Value → List Value
    | .list items => items
    | other => [other]

/-- The path of a field, by its key and the path of the map that holds it. A key that
does not count as true names nothing. -/
def fieldPath (path : Option String) (key : Value) : Option String :=
  match path with
  | some outer => some (outer ++ "." ++ key.label)
  | none => if key.truthy then some key.label else none

/-- Applies the first operator of an operator object and reports the others. -/
def applyFirst (s : Settings) (path : Option String) :
    List (Value × Value) → Logged Value
  | [] => pure Value.emptyMap
  | (key, operand) :: rest => do
    if s.warnOnDiscarded && !rest.isEmpty then
      Logged.give
        (.discardedOperators path key.label (rest.map fun entry => entry.1.label))
    (OperatorName.ofKey key).apply operand

mutual

/-- Compiles a node that is nested so deep. -/
def compileAt (s : Settings) (depth : Nat) : Value → Logged Value
  | .null => pure Value.emptyMap
  | .list items =>
    if s.maxDepth.admits depth then disjunction <$> compileEach s (depth + 1) items
    else s.passOver (.list items)
  | .tuple items =>
    if s.maxDepth.admits depth then disjunction <$> compileEach s (depth + 1) items
    else s.passOver (.tuple items)
  | .map entries =>
    if s.maxDepth.admits depth then
      match compileGroup s depth .any entries with
      | some group => group
      | none =>
        match compileGroup s depth .all entries with
        | some group => group
        | none => .map <$> compileFields s depth none entries
    else s.passOver (.map entries)
  | leaf => pure leaf

/-- Compiles the items of a list, each by itself. -/
def compileEach (s : Settings) (depth : Nat) : List Value → Logged (List Value)
  | [] => pure []
  | item :: rest => do
    let compiled ← compileAt s depth item
    let others ← compileEach s depth rest
    pure (compiled :: others)

/-- The contributions of the children of a group, in order. -/
def compileChildren (s : Settings) (depth : Nat) (combinator : Combinator) :
    List Value → Logged (List Value)
  | [] => pure []
  | child :: rest => do
    let compiled ← compileAt s depth child
    let part ← combinator.reduce compiled
    let others ← compileChildren s depth combinator rest
    pure (part ++ others)

/-- Compiles the group of a combinator, if its key is there and holds a sequence. -/
def compileGroup (s : Settings) (depth : Nat) (combinator : Combinator) :
    List (Value × Value) → Option (Logged Value)
  | [] => none
  | (key, .list children) :: rest =>
    if key = .text combinator.word then
      some (combinator.join <$> compileChildren s (depth + 1) combinator children)
    else compileGroup s depth combinator rest
  | (key, .tuple children) :: rest =>
    if key = .text combinator.word then
      some (combinator.join <$> compileChildren s (depth + 1) combinator children)
    else compileGroup s depth combinator rest
  | (key, _) :: rest =>
    if key = .text combinator.word then none else compileGroup s depth combinator rest

/-- Converts the values of a map of fields; the words of combinators are no fields. -/
def compileFields (s : Settings) (depth : Nat) (path : Option String) :
    List (Value × Value) → Logged (List (Value × Value))
  | [] => pure []
  | (key, value) :: rest =>
    if isCombinatorKey key then compileFields s depth path rest
    else do
      let converted ← convertAt s depth (fieldPath path key) value
      let others ← compileFields s depth path rest
      pure ((key, converted) :: others)

/-- Converts the value of a field in a map that is nested so deep. -/
def convertAt (s : Settings) (depth : Nat) (path : Option String) : Value → Logged Value
  | .map entries =>
    if isOperatorObject entries then applyFirst s path entries
    else if s.maxDepth.admits (depth + 1) then
      .map <$> compileFields s (depth + 1) path entries
    else s.passOver (.map entries)
  | plain => pure plain

end

/-- The predicate that a filter compiles to. -/
def compile (s : Settings) (node : Value) : Logged Value := compileAt s 0 node

/-- The test that the value of a field converts to. -/
def convert (s : Settings) (path : Option String) (value : Value) : Logged Value :=
  convertAt s 0 path value

/-- Compiles a filter for a request: an empty disjunction restricts nothing. -/
def compileWhere (s : Settings) (node : Value) : Logged Value :=
  (fun compiled => if compiled = .list [] then Value.emptyMap else compiled) <$> compile s node

end ListQuery.Filter
