/-!
# Double-precision numbers

A number of the IEEE 754 binary64 format, kept as its 64 bits, so that two
numbers are equal exactly when their bits are: `0` and `-0` differ, and so do
numbers from themselves never.

The magnitude of a finite number is a whole multiple of the least positive one,
`2 ^ -1074`; `Binary64.units` is that multiple. All arithmetic here is on natural
numbers of units and therefore exact. Powers are written `Nat.pow`, which needs no
instance.

## Main definitions

* `Binary64.units`, `Binary64.negative`, `Binary64.kind` read a number.
* `Binary64.ofRatio` is the number nearest to a quotient, ties to even.
* `Binary64.toInt?` is the whole number that a number equals, if it is whole.
* `Binary64.compareInt` compares a number with a whole number.
-/

namespace ListQuery

/-- A double-precision number, given by its bits. -/
structure Binary64 where
  bits : UInt64
  deriving DecidableEq

namespace Binary64

/-- Whether the sign bit is set. -/
def negative (x : Binary64) : Bool := decide (Nat.pow 2 63 ≤ x.bits.toNat)

/-- The exponent field. -/
def exponent (x : Binary64) : Nat := x.bits.toNat / Nat.pow 2 52 % Nat.pow 2 11

/-- The fraction field. -/
def fraction (x : Binary64) : Nat := x.bits.toNat % Nat.pow 2 52

/-- What a bit pattern stands for. -/
inductive Kind
  | finite
  | infinite
  | nan
  deriving DecidableEq

/-- An exponent field of ones marks infinities and the numbers that are none. -/
def kind (x : Binary64) : Kind :=
  if x.exponent = 2047 then (if x.fraction = 0 then .infinite else .nan) else .finite

/-- The magnitude of a finite number as a multiple of `2 ^ -1074`. -/
def units (x : Binary64) : Nat :=
  if x.exponent = 0 then x.fraction else (Nat.pow 2 52 + x.fraction) * Nat.pow 2 (x.exponent - 1)

/-- The units that make up one. -/
def one : Nat := Nat.pow 2 1074

/-- Assembles a number from its sign, exponent and fraction. -/
def ofFields (negative : Bool) (exponent fraction : Nat) : Binary64 :=
  ⟨.ofNat ((if negative then Nat.pow 2 63 else 0) + exponent * Nat.pow 2 52 + fraction)⟩

/-- The infinity of a sign. -/
def infinity (negative : Bool) : Binary64 := ofFields negative 2047 0

/-- The number that is none. -/
def nan : Binary64 := ofFields false 2047 (Nat.pow 2 51)

/-- How many binary digits a natural number has. -/
def bitLength (n : Nat) : Nat := if n = 0 then 0 else n.log2 + 1

/-- The number whose magnitude is `n` units, where `n` has at most 53 significant bits;
beyond the range, infinity. -/
def ofUnits (negative : Bool) (n : Nat) : Binary64 :=
  let shift := bitLength n - 53
  if bitLength n ≤ 52 then ofFields negative 0 n
  else if shift + 1 < 2047 then
    ofFields negative (shift + 1) (n / Nat.pow 2 shift - Nat.pow 2 52)
  else infinity negative

/-- The quotient rounded to the nearest whole number, a half to the even neighbour. -/
def roundHalfEven (num den : Nat) : Nat :=
  let floor := num / den
  let twice := 2 * (num % den)
  if twice < den then floor
  else if den < twice then floor + 1
  else if floor % 2 = 0 then floor else floor + 1

/-- The number nearest to `num / den`, ties to even, with the given sign. -/
def ofRatio (negative : Bool) (num den : Nat) : Binary64 :=
  let scaled := num * one
  let shift := bitLength (scaled / den) - 53
  ofUnits negative (roundHalfEven scaled (den * Nat.pow 2 shift) * Nat.pow 2 shift)

/-- The decimal `digits · 10 ^ exponent`, rounded to nearest. Exponents far outside the
range are cut off first, so that no huge power is formed. -/
def ofDecimal (negative : Bool) (digits : Nat) (exponent : Int) : Binary64 :=
  let size : Int := (toString digits).length
  if digits = 0 || exponent + size < -400 then ofFields negative 0 0
  else if 400 < exponent + size then infinity negative
  else if 0 ≤ exponent then ofRatio negative (digits * Nat.pow 10 exponent.toNat) 1
  else ofRatio negative digits (Nat.pow 10 (-exponent).toNat)

/-- Whether a number is zero, of either sign. -/
def isZero (x : Binary64) : Bool := x.exponent = 0 && x.fraction = 0

/-- The whole number that a number equals. -/
def toInt? (x : Binary64) : Option Int :=
  if x.kind = .finite && x.units % one = 0 then
    some (if x.negative then -(x.units / one : Nat) else (x.units / one : Nat))
  else none

/-- The whole part of a finite number: its fraction is dropped. -/
def truncate (x : Binary64) : Int :=
  if x.negative then -(x.units / one : Nat) else (x.units / one : Nat)

/-- How a number stands to a whole number; nothing for the number that is none. -/
def compareInt (x : Binary64) (n : Int) : Option Ordering :=
  match x.kind with
  | .nan => none
  | .infinite => some (if x.negative then .lt else .gt)
  | .finite => some (compare (if x.negative then -(x.units : Int) else x.units) (n * one))

end Binary64

end ListQuery
