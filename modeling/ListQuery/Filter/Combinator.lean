import ListQuery.Notice

/-!
# Combinators

A group in a filter joins its children by a combinator, `AND` or `OR`. A child that
compiled to a disjunction takes part with its first branch only, and the branches
that are dropped are reported.

## Main definitions

* `Combinator` is the type of combinators, `isCombinatorKey` recognizes their words.
* `Combinator.reduce` is what a compiled child contributes to a group.
* `Combinator.join` joins the contributions of all children.
-/

namespace ListQuery

/-- A way of joining the children of a group. -/
inductive Combinator
  | all
  | any
  deriving DecidableEq

/-- The word of a combinator. -/
def Combinator.word : Combinator → String
  | .all => "AND"
  | .any => "OR"

/-- Whether a key of a filter map is the word of a combinator. -/
def isCombinatorKey (key : Value) : Bool :=
  key = .text Combinator.all.word || key = .text Combinator.any.word

/-- No scalar kind has the name of a combinator, so it is only the text of a key that counts. -/
theorem isCombinatorKey_iff {key : Value} : isCombinatorKey key = true ↔
    key.text? = some Combinator.all.word ∨ key.text? = some Combinator.any.word := by
  cases key with
  | mark m =>
    cases m with
    | kind kind => cases kind <;> decide
    | _ => simp [isCombinatorKey, Value.text?]
  | _ => simp [isCombinatorKey, Value.text?]

namespace Combinator

/-- The notice about the branches of a child that a group drops. -/
def dropNotice : Combinator → Nat → Notice
  | .all => .conjoinedDisjunction
  | .any => .nestedDisjunction

/-- What a compiled child contributes: the first branch of a disjunction, nothing for an
empty one, and otherwise itself. -/
def reduce (combinator : Combinator) : Value → Logged (List Value)
  | .list [] => pure []
  | .list [branch] => pure [branch]
  | .list (branch :: dropped) => do
    Logged.give (combinator.dropNotice dropped.length)
    pure [branch]
  | other => pure [other]

/-- Writes the entries of a map over a conjunction; anything but a map adds nothing. -/
def conjoin (conjunction : List (Value × Value)) : Value → List (Value × Value)
  | .map entries => Ordered.merge conjunction entries
  | _ => conjunction

/-- Joins contributions: a disjunction lists them, a conjunction merges them in order. -/
def join : Combinator → List Value → Value
  | .any, parts => .list parts
  | .all, parts => .map (parts.foldl conjoin [])

end Combinator

end ListQuery
