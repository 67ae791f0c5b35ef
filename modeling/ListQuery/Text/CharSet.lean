/-!
# Sets of characters by ranges of code points

The character classes of this library follow tables of the Unicode standard
(version 14). A class is a list of closed ranges of code points; membership is
a search of that list.

## Main definitions

* `CharSet` is a list of closed ranges, `CharSet.has` its membership test.
-/

namespace ListQuery

/-- A set of characters, given by closed ranges of code points. -/
abbrev CharSet := List (Nat × Nat)

/-- Whether some range of the set holds the character's code point. -/
def CharSet.has (set : CharSet) (c : Char) : Bool :=
  set.any fun range => decide (range.1 ≤ c.toNat) && decide (c.toNat ≤ range.2)

theorem CharSet.has_eq_true_iff {set : CharSet} {c : Char} :
    set.has c = true ↔ ∃ range ∈ set, range.1 ≤ c.toNat ∧ c.toNat ≤ range.2 := by
  simp [CharSet.has]

end ListQuery
