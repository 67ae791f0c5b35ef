import ListQuery.Number.Binary64

/-!
# The shortest decimal that reads back

A finite number is written with the fewest decimal digits that read back as the
same number, and of those with the decimal nearest to it. The decimals that read
back are those of an interval around the number, which ends half-way to its
neighbours; the ends belong to it exactly when the significand is even. For each
count of digits the two decimals next to the number are tried on that grid.

## Main definitions

* `Binary64.Reach` is that interval, `Binary64.shortestDigits` the search.
* `Binary64.written` is the text: positional when the decimal exponent lies
  between -4 and 15, otherwise with an exponent of at least two digits.
-/

namespace ListQuery

namespace Binary64

/-- The decimals that read back as a number, in quarter units: from `low` to `high`, with
its ends when `closed`. -/
structure Reach where
  low : Nat
  value : Nat
  high : Nat
  closed : Bool

/-- The decimals that read back as a finite number. The gap below is half as wide when the
number is the least of its exponent. -/
def reach (x : Binary64) : Reach :=
  let gap := Nat.pow 2 (x.exponent - 1)
  let below := if x.fraction = 0 && 1 < x.exponent then gap else 2 * gap
  { low := 4 * x.units - below
    value := 4 * x.units
    high := 4 * x.units + 2 * gap
    closed := x.fraction % 2 = 0 }

/-- The quarter units that make up one. -/
def quarterOne : Nat := Nat.pow 2 1076

/-- A decimal `digits · 10 ^ exponent`. -/
structure Decimal where
  digits : Nat
  exponent : Int
  deriving DecidableEq

/-- The quotient `n / 10 ^ k` of quarter units as a numerator over `quarterOne`-sized ones. -/
def gridRatio (n : Nat) (k : Int) : Nat × Nat :=
  if 0 ≤ k then (n, quarterOne * Nat.pow 10 k.toNat) else (n * Nat.pow 10 (-k).toNat, quarterOne)

/-- Whether `digits · 10 ^ k` reads back. -/
def Reach.has (r : Reach) (digits : Nat) (k : Int) : Bool :=
  let low := gridRatio r.low k
  let high := gridRatio r.high k
  let n := digits * low.2
  if r.closed then decide (low.1 ≤ n) && decide (n ≤ high.1)
  else decide (low.1 < n) && decide (n < high.1)

/-- The decimal on the grid of `10 ^ k` that reads back and is nearest to the value, an
even last digit where two are equally near. -/
def Reach.nearest? (r : Reach) (k : Int) : Option Nat :=
  let ratio := gridRatio r.value k
  let below := ratio.1 / ratio.2
  let twice := 2 * (ratio.1 % ratio.2)
  let preferAbove := decide (ratio.2 < twice) || (decide (ratio.2 = twice) && below % 2 = 1)
  match r.has below k, r.has (below + 1) k with
  | true, true => some (if preferAbove then below + 1 else below)
  | true, false => some below
  | false, true => some (below + 1)
  | false, false => none

/-- The count of digits before the decimal point, negative for leading zeros after it. -/
def magnitude (x : Binary64) : Int :=
  let scaled := x.units * Nat.pow 10 340 / one
  ((Nat.toDigits 10 scaled).length : Int) - 340

/-- Tries one more digit at a time. -/
def searchDigits (r : Reach) (top : Int) : Nat → Nat → Option Decimal
  | 0, _ => none
  | fuel + 1, count =>
    match r.nearest? (top - count) with
    | some digits => some ⟨digits, top - count⟩
    | none => searchDigits r top fuel (count + 1)

/-- The shortest decimal that reads back; seventeen digits always do. -/
def shortestDigits (x : Binary64) : Decimal :=
  (searchDigits x.reach x.magnitude 17 1).getD ⟨0, 0⟩

/-- The digits without zeros at the end. -/
def dropZeros (cs : List Char) : List Char := (cs.reverse.dropWhile (· = '0')).reverse

/-- A decimal exponent, with a sign and at least two digits. -/
def exponentText (e : Int) : List Char :=
  let digits := Nat.toDigits 10 e.natAbs
  (if e < 0 then '-' else '+') :: (if digits.length < 2 then '0' :: digits else digits)

/-- The text of the digits `ds` with the point after the first `point` of them. -/
def layout (ds : List Char) (point : Int) : List Char :=
  if -3 ≤ point && point ≤ 16 then
    if point ≤ 0 then '0' :: '.' :: List.replicate (-point).toNat '0' ++ ds
    else if ds.length ≤ point.toNat then
      ds ++ List.replicate (point.toNat - ds.length) '0' ++ ['.', '0']
    else ds.take point.toNat ++ '.' :: ds.drop point.toNat
  else
    match ds with
    | [] => []
    | [d] => d :: 'e' :: exponentText (point - 1)
    | d :: rest => d :: '.' :: rest ++ 'e' :: exponentText (point - 1)

/-- The text of a magnitude. -/
def magnitudeText (x : Binary64) : List Char :=
  if x.isZero then ['0', '.', '0']
  else
    let decimal := x.shortestDigits
    let ds := Nat.toDigits 10 decimal.digits
    layout (dropZeros ds) (decimal.exponent + ds.length)

/-- The text of a number. -/
def written (x : Binary64) : String :=
  match x.kind with
  | .nan => "nan"
  | .infinite => if x.negative then "-inf" else "inf"
  | .finite => String.ofList ((if x.negative then ['-'] else []) ++ x.magnitudeText)

end Binary64

end ListQuery
