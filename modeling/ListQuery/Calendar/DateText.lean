import ListQuery.Calendar.Week

/-!
# Dates in text

A date is read from year, month and day, `YYYY-MM-DD` or `YYYYMMDD`, or from year, week and day
of the week, `YYYY-Www-D` or `YYYYWwwD`; a week without a day means its Monday.

Where a time may follow the date, any one character separates the two, and that character may
be a dash or a digit. So a week needs a rule for where it ends. After `YYYY-Www`, a dash and one
more character are the day, unless a digit comes next: then the dash is the separator. After
`YYYYWww`, the digits that follow at once tell: a single one or an even count begin with the
day, and otherwise the first of them, if any, is the separator.

A date by itself is told from other text by its size alone, so what lies behind the date in a
text of the right size is not looked at.

## Main definitions

* `readDatePart` reads a date at the start of a text and returns what follows.
* `readDate` reads a date by itself.
-/

namespace ListQuery

/-- How the day of a week is read from what follows the week. -/
abbrev WeekdayRule := List Char → Option (Nat × List Char)

/-- The day after `YYYY-Www` where a time may follow. -/
def dashedWeekday : WeekdayRule
  | ['-'] => none
  | '-' :: c :: rest =>
    if rest.head?.any Char.isDigit then some (1, '-' :: c :: rest)
    else (asciiDigit? c).map fun day => (day, rest)
  | cs => some (1, cs)

/-- The day after `YYYYWww` where a time may follow. -/
def plainWeekday : WeekdayRule := fun cs =>
  let digits := (cs.takeWhile Char.isDigit).length
  if digits = 1 || (digits ≠ 0 && digits % 2 = 0) then readFixed 1 0 cs else some (1, cs)

/-- The day after `YYYY-Www` in a date by itself. -/
def lastDashedWeekday : WeekdayRule
  | [] => some (1, [])
  | cs => (readMark '-' cs).bind (readFixed 1 0)

/-- The day after `YYYYWww` in a date by itself. -/
def lastPlainWeekday : WeekdayRule
  | [] => some (1, [])
  | cs => readFixed 1 0 cs

/-- The week of a year and the day in it. -/
def readWeek (year : Nat) (weekday : WeekdayRule) (cs : List Char) :
    Option (Date × List Char) := do
  let (week, cs) ← readFixed 2 0 cs
  let (day, cs) ← weekday cs
  let date ← Date.ofWeek? year week day
  pure (date, cs)

/-- The month of a year and the day in it, with a dash between them or without one. -/
def readMonth (year : Nat) (dashed : Bool) (cs : List Char) : Option (Date × List Char) := do
  let (month, cs) ← readFixed 2 0 cs
  let cs ← if dashed then readMark '-' cs else some cs
  let (day, cs) ← readFixed 2 0 cs
  let date ← Date.ofFields? year month day
  pure (date, cs)

/-- A date in any form at the start of a text, and what follows it, under rules for the day
after a week with a dash and without one. -/
def readDateForm (dashed plain : WeekdayRule) (cs : List Char) :
    Option (Date × List Char) := do
  let (year, cs) ← readFixed 4 0 cs
  match cs with
  | '-' :: 'W' :: rest => readWeek year dashed rest
  | '-' :: rest => readMonth year true rest
  | 'W' :: rest => readWeek year plain rest
  | _ => readMonth year false cs

/-- A date at the start of a text, where a time may follow, and the rest of the text. -/
def readDatePart (cs : List Char) : Option (Date × List Char) :=
  readDateForm dashedWeekday plainWeekday cs

/-- The date that a text by itself denotes. -/
def readDate (s : String) : Option Date :=
  if [7, 8, 10].contains s.utf8ByteSize then
    (readDateForm lastDashedWeekday lastPlainWeekday s.toList).map Prod.fst
  else none

end ListQuery
