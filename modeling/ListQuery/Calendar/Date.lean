/-!
# Calendar dates

Dates of the Gregorian calendar, extended backwards to year 1, with years of four
digits. A date is written `YYYY-MM-DD`, each part in a fixed count of digits.

## Main definitions

* `Date` is a valid date, `Date.ofFields?` builds one.
* `Date.written` writes a date.
* `readFixed` reads a number in a fixed count of digits.
-/

namespace ListQuery

/-- Whether February has 29 days. -/
def isLeapYear (year : Nat) : Bool := year % 4 = 0 && (year % 100 ≠ 0 || year % 400 = 0)

/-- How many days a month has. -/
def daysInMonth (year month : Nat) : Nat :=
  if month = 2 then (if isLeapYear year then 29 else 28)
  else if month = 4 || month = 6 || month = 9 || month = 11 then 30
  else 31

/-- Whether three numbers are a date. -/
def IsDate (year month day : Nat) : Prop :=
  (1 ≤ year ∧ year ≤ 9999) ∧ (1 ≤ month ∧ month ≤ 12) ∧ 1 ≤ day ∧ day ≤ daysInMonth year month

instance (year month day : Nat) : Decidable (IsDate year month day) := by
  unfold IsDate; infer_instance

/-- A date of the calendar. -/
structure Date where
  year : Nat
  month : Nat
  day : Nat
  isDate : IsDate year month day
  deriving DecidableEq

namespace Date

/-- The date of three numbers, if they are one. -/
def ofFields? (year month day : Nat) : Option Date :=
  if h : IsDate year month day then some ⟨year, month, day, h⟩ else none

end Date

/-- A number in a fixed count of decimal digits. -/
def paddedDigits : Nat → Nat → List Char
  | 0, _ => []
  | width + 1, n => paddedDigits width (n / 10) ++ [Char.ofNat (48 + n % 10)]

/-- A date as `YYYY-MM-DD`. -/
def Date.written (d : Date) : List Char :=
  paddedDigits 4 d.year ++ '-' :: paddedDigits 2 d.month ++ '-' :: paddedDigits 2 d.day

/-- The value of an ASCII digit. -/
def asciiDigit? (c : Char) : Option Nat :=
  if c.isDigit then some (c.toNat - 48) else none

/-- Reads a fixed count of digits from the start, adding to the number read before. -/
def readFixed : Nat → Nat → List Char → Option (Nat × List Char)
  | 0, n, cs => some (n, cs)
  | _ + 1, _, [] => none
  | width + 1, n, c :: cs =>
    match asciiDigit? c with
    | some digit => readFixed width (10 * n + digit) cs
    | none => none

/-- Takes one expected character from the start. -/
def readMark (mark : Char) : List Char → Option (List Char)
  | [] => none
  | c :: cs => if c = mark then some cs else none

end ListQuery
