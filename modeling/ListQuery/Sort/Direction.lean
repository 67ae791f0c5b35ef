/-!
# Sort directions

A direction is written `ASC` or `DESC`, in any case. Upper-casing is taken letter
by letter: the only character outside ASCII whose capital is a letter of these
words is the long s, which counts as an `S`.
-/

namespace ListQuery

/-- The two directions of a sort. -/
inductive SortDirection
  | ascending
  | descending
  deriving DecidableEq

/-- The capital of a character, as far as the two words are concerned. -/
def upperLetter (c : Char) : Char :=
  if 'a' ≤ c && c ≤ 'z' then Char.ofNat (c.toNat - 32) else if c = '\u017f' then 'S' else c

namespace SortDirection

/-- The word of a direction. -/
def word : SortDirection → String
  | .ascending => "ASC"
  | .descending => "DESC"

/-- The direction that a text names exactly. -/
def ofWord? (s : String) : Option SortDirection :=
  if s = "ASC" then some .ascending else if s = "DESC" then some .descending else none

/-- The direction that a text names in any case. -/
def ofText? (s : String) : Option SortDirection :=
  ofWord? (String.ofList (s.toList.map upperLetter))

@[simp]
theorem ofWord?_word (d : SortDirection) : ofWord? d.word = some d := by cases d <;> rfl

end SortDirection

end ListQuery
