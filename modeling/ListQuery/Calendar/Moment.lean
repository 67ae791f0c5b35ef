import ListQuery.Calendar.Date

/-!
# Moments

A moment is a date with a time of day, to the microsecond, and possibly an offset
from universal time.

## Main definitions

* `Clock` is a time of day, `Moment` a moment.
* `Moment.written` writes a moment.
-/

namespace ListQuery

/-- A time of day. -/
structure Clock where
  hour : Nat
  minute : Nat
  second : Nat
  micro : Nat
  deriving DecidableEq

/-- The start of the day. -/
def Clock.midnight : Clock := ⟨0, 0, 0, 0⟩

/-- Whether the parts of a time are in range. -/
def Clock.isValid (t : Clock) : Bool := t.hour < 24 && t.minute < 60 && t.second < 60

/-- The microseconds since midnight. -/
def Clock.micros (t : Clock) : Int :=
  ((t.hour * 3600 + t.minute * 60 + t.second) * 1000000 + t.micro : Nat)

/-- The microseconds of a day. -/
def dayMicros : Int := 86400000000

/-- A date and a time of day, with the offset from universal time in microseconds where
one is known. -/
structure Moment where
  date : Date
  clock : Clock
  offset : Option Int
  deriving DecidableEq

/-- The moment without its offset; the time of day stays as it is. -/
def Moment.withoutOffset (m : Moment) : Moment := { m with offset := none }

/-- A fraction of a second, empty when it is zero. -/
def fractionText (micro : Nat) : List Char :=
  if micro = 0 then [] else '.' :: paddedDigits 6 micro

/-- A time as `HH:MM:SS`, with its fraction. -/
def Clock.written (t : Clock) : List Char :=
  paddedDigits 2 t.hour ++ ':' :: paddedDigits 2 t.minute ++ ':' :: paddedDigits 2 t.second ++
    fractionText t.micro

/-- An offset as a sign and `HH:MM`, with its seconds where there are any. -/
def offsetText (offset : Int) : List Char :=
  let seconds := offset.natAbs / 1000000
  let micro := offset.natAbs % 1000000
  (if offset < 0 then '-' else '+') :: paddedDigits 2 (seconds / 3600) ++
    ':' :: paddedDigits 2 (seconds / 60 % 60) ++
    (if seconds % 60 = 0 && micro = 0 then []
      else ':' :: paddedDigits 2 (seconds % 60) ++ fractionText micro)

/-- A moment as `YYYY-MM-DDTHH:MM:SS`, with its fraction and its offset. -/
def Moment.written (m : Moment) : List Char :=
  m.date.written ++ 'T' :: m.clock.written ++ (m.offset.map offsetText).getD []

end ListQuery
