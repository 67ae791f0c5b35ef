import ListQuery.Notice
import ListQuery.Sql.Clause
import ListQuery.Sql.Coerce

/-!
# Predicates as conditions

A compiled predicate becomes a condition on the rows of a model. The entries of a
map must all hold, some item of a list must hold, a key that names a relationship
leads to related rows, and any other key must name a column. What a column is
compared with is brought to its type first. Raw expressions are refused unless they
are allowed, and reported where they are used.

## Main definitions

* `testOf` is the test for a comparator and its operand, `columnTest` that for any
  value of a column.
* `whereClause` is the condition for a predicate, if it restricts anything.
* `ClauseError` says why a predicate is refused.
-/

namespace ListQuery.Sql

/-- Why a predicate is refused. -/
inductive ClauseError
  | unsupported (predicate : Value)
  | notAConjunction (value : Value)
  | unknownColumn (label : String)
  | notAnObject (relationship : String) (value : Value)
  | unknownOperator (labels : List String)
  | rawDisabled
  /-- A raw expression was to be negated. -/
  | rawNegated
  /-- Only equality can be asked of nothing and of truth values. -/
  | unordered
  /-- The bounds of a range were to be taken from something that holds no items. -/
  | notSubscriptable (value : Value)
  | tooShort (sort : String)
  | missingBound (index : Nat)
  deriving DecidableEq

/-- What is wrong with a predicate. -/
def ClauseError.message : ClauseError → String
  | .unsupported predicate => "Unsupported compiled predicate: " ++ predicate.literal
  | .notAConjunction value => "Expected a conjunction object, got " ++ value.literal
  | .unknownColumn label => "Unknown where column: " ++ label
  | .notAnObject relationship value =>
    "Relation filter for '" ++ relationship ++ "' must be an object, got " ++ value.literal
  | .unknownOperator labels => "Unknown where operator: " ++ commaSeparated labels
  | .rawDisabled => "Raw where expressions are disabled (allow_raw=False)"
  | .rawNegated => ""
  | .unordered =>
    "Only '=', '!=', 'is_()', 'is_not()', 'is_distinct_from()', 'is_not_distinct_from()' " ++
      "operators can be used with None/True/False"
  | .notSubscriptable (.mark (.type name)) => "type '" ++ name.word ++ "' is not subscriptable"
  | .notSubscriptable value => "'" ++ value.sort ++ "' object is not subscriptable"
  | .tooShort sort => sort ++ " index out of range"
  | .missingBound index => toString index

/-- The test of equality with a value. -/
def equals : Value → Test
  | .null => .isNull false
  | .bool b => .isTruth false b
  | operand => .compare .eq operand

/-- The test that an order stands for; there is none on nothing and on truth values. -/
def ordered (make : Value → Test) : Value → Except ClauseError Test
  | .null | .bool _ => .error .unordered
  | operand => .ok (make operand)

/-- The test of membership in a list; any other value stands for the list of itself. -/
def memberOf : Value → Test
  | .list items => .among false items
  | operand => .among false [operand]

/-- A bound under its index in a map. -/
def boundAt (entries : List (Value × Value)) (index : Nat) : Except ClauseError Value :=
  match Ordered.find? (.int index) entries with
  | some bound => .ok bound
  | none => .error (.missingBound index)

/-- The two bounds of a range: the first two items of what holds them. -/
def boundsOf : Value → Except ClauseError (Value × Value)
  | .list (low :: high :: _) => .ok (low, high)
  | .list _ => .error (.tooShort "list")
  | .map entries => do
    let low ← boundAt entries 0
    let high ← boundAt entries 1
    pure (low, high)
  | other =>
    match other.text?.map String.toList with
    | some (low :: high :: _) => .ok (.text low.toString, .text high.toString)
    | some _ => .error (.tooShort "string")
    | none => .error (.notSubscriptable other)

/-- The test that a raw expression stands in for, if such expressions are allowed. -/
def rawTest (allowRaw : Bool) (col : Column) (expression : Value) : Checked ClauseError Test :=
  if allowRaw then do
    Checked.give (.rawApplied col.key)
    pure (.raw expression.label)
  else .ofExcept (.error .rawDisabled)

/-- The test that holds when another does not; there is none for a raw expression. -/
def negated : Test → Except ClauseError Test
  | .raw _ => .error .rawNegated
  | test => .ok test.negate

/-- The test for a comparator and its operand. -/
def testOf (allowRaw : Bool) (col : Column) : Comparator → Value → Checked ClauseError Test
  | .negation, .test inner operand => do
    let test ← testOf allowRaw col inner operand
    .ofExcept (negated test)
  | .negation, operand => pure (equals (coerce col.type operand)).negate
  | .raw, operand => rawTest allowRaw col operand
  | .membership, operand => pure (memberOf (coerce col.type operand))
  | .isNull, _ => pure (.isNull false)
  | .moreThan, operand => .ofExcept (ordered (.compare .gt) (coerce col.type operand))
  | .moreThanOrEqual, operand => .ofExcept (ordered (.compare .ge) (coerce col.type operand))
  | .lessThan, operand => .ofExcept (ordered (.compare .lt) (coerce col.type operand))
  | .lessThanOrEqual, operand => .ofExcept (ordered (.compare .le) (coerce col.type operand))
  | .like, operand => .ofExcept (ordered (.like false) (coerce col.type operand))
  | .ilike, operand => .ofExcept (ordered (.ilike false) (coerce col.type operand))
  | .between, operand => .ofExcept do
    let (low, high) ← boundsOf (coerce col.type operand)
    pure (.between false low high)

/-- The test for the value of a column in a predicate. -/
def columnTest (allowRaw : Bool) (col : Column) : Value → Checked ClauseError Test
  | .test comparator operand => testOf allowRaw col comparator operand
  | .list items => pure (.among false (coerceAll col.type items))
  | .tuple items => pure (.among false (coerceAll col.type items))
  | .map entries => .ofExcept (.error (.unknownOperator (entries.map fun e => e.1.label)))
  | plain => pure (equals (coerce col.type plain))

section Predicates

variable {ι : Type}

/-- The relationship that a key names. -/
def relationshipOf? (m : Model ι) (key : Value) : Option (Relationship ι) :=
  key.text?.bind m.relationship?

/-- The column that a key names. -/
def columnOf? (m : Model ι) (key : Value) : Option Column := key.text?.bind m.column?

/-- The condition for a key that names no relationship. -/
def columnCondition (schema : Schema ι) (allowRaw : Bool) (model : ι) (key value : Value) :
    Checked ClauseError (Clause ι) :=
  match columnOf? (schema model) key with
  | some col => .column model col <$> columnTest allowRaw col value
  | none => .ofExcept (.error (.unknownColumn key.label))

mutual

/-- The condition for a map of tests. -/
def conjunctionOf (schema : Schema ι) (allowRaw : Bool) (model : ι) :
    Value → Checked ClauseError (Clause ι)
  | .map entries => Clause.conjunction <$> conditions schema allowRaw model entries
  | other => .ofExcept (.error (.notAConjunction other))

/-- The conditions for the maps in a list. -/
def disjuncts (schema : Schema ι) (allowRaw : Bool) (model : ι) :
    List Value → Checked ClauseError (List (Clause ι))
  | [] => pure []
  | item :: rest => do
    let first ← conjunctionOf schema allowRaw model item
    let others ← disjuncts schema allowRaw model rest
    pure (first :: others)

/-- The conditions for the entries of a map. -/
def conditions (schema : Schema ι) (allowRaw : Bool) (model : ι) :
    List (Value × Value) → Checked ClauseError (List (Clause ι))
  | [] => pure []
  | (key, value) :: rest => do
    let first ← condition schema allowRaw model key value
    let others ← conditions schema allowRaw model rest
    pure (first :: others)

/-- The condition for an entry of a map, by its key. -/
def condition (schema : Schema ι) (allowRaw : Bool) (model : ι) (key : Value) :
    Value → Checked ClauseError (Clause ι)
  | .list items =>
    match relationshipOf? (schema model) key with
    | some r =>
      if items.isEmpty then pure (.related model r .always)
      else (fun parts => .related model r (Clause.disjunction parts)) <$>
        disjuncts schema allowRaw r.target items
    | none => columnCondition schema allowRaw model key (.list items)
  | .map entries =>
    match relationshipOf? (schema model) key with
    | some r =>
      (fun parts => .related model r (Clause.conjunction parts)) <$>
        conditions schema allowRaw r.target entries
    | none => columnCondition schema allowRaw model key (.map entries)
  | other =>
    match relationshipOf? (schema model) key with
    | some r => .ofExcept (.error (.notAnObject r.key other))
    | none => columnCondition schema allowRaw model key other

end

/-- The condition for a predicate; nothing for one that is missing or empty. -/
def whereClause (schema : Schema ι) (allowRaw : Bool) (model : ι) :
    Value → Checked ClauseError (Option (Clause ι))
  | .null | .list [] | .map [] => pure none
  | .list items =>
    (fun parts => some (Clause.disjunction parts)) <$> disjuncts schema allowRaw model items
  | .map entries => some <$> conjunctionOf schema allowRaw model (.map entries)
  | other => .ofExcept (.error (.unsupported other))

end Predicates

end ListQuery.Sql
