import ListQuery.Calendar.DateText
import ListQuery.Calendar.Moment

/-!
# Moments in text

A moment is read from a date, alone for midnight, or followed by any one character and a time,
after which an offset from universal time may stand: `Z`, or a sign and a time.

A time has up to three parts of two digits each, hour, minute and second, either with colons
between them or without: the character after the first part settles which. A fraction of a
second follows the third part, or an earlier one after a point or a comma; digits beyond the
sixth are dropped. One ASCII character alone after a part is left over. What is left over must
not be there, unless it begins with NUL, in a time without an offset, after `Z` and after the
time of an offset; in front of an offset it does no harm.

## Main definitions

* `ClockText.read` reads a time, `readOffset` an offset.
* `readMoment` reads a moment.
-/

namespace ListQuery

/-- A time as it is read: its parts of two digits, the microseconds of its fraction and what
is left over. -/
structure ClockText where
  parts : List Nat
  micro : Nat
  rest : List Char

namespace ClockText

/-- The time of day that the parts name, the missing ones being zero. They need not be in
range. -/
def clock (t : ClockText) : Clock :=
  match t.parts with
  | [] => ⟨0, 0, 0, t.micro⟩
  | [hour] => ⟨hour, 0, 0, t.micro⟩
  | [hour, minute] => ⟨hour, minute, 0, t.micro⟩
  | hour :: minute :: second :: _ => ⟨hour, minute, second, t.micro⟩

/-- The time with one more part in front. -/
def withPart (part : Nat) (t : ClockText) : ClockText := { t with parts := part :: t.parts }

/-- A fraction of a second: six digits give microseconds, or fewer if the text ends with them,
and further digits are dropped. -/
def readFraction (cs : List Char) : Option ClockText := do
  let digits := cs.take 6
  if digits.isEmpty then none
  let (micro, _) ← readFixed 6 0 (digits ++ List.replicate (6 - digits.length) '0')
  pure ⟨[], micro, (cs.drop 6).dropWhile Char.isDigit⟩

/-- A time of up to some number of parts and a fraction, with colons between the parts, without
them, or either way. -/
def readParts : Option Bool → Nat → List Char → Option ClockText
  | _, 0, cs => readFraction cs
  | colons, count + 1, cs =>
    match readFixed 2 0 cs with
    | none => none
    | some (part, []) => some ⟨[part], 0, []⟩
    | some (part, c :: rest) =>
      let dotted := colons.getD (c = ':')
      if rest.isEmpty && c.toNat < 128 then some ⟨[part], 0, [c]⟩
      else if dotted && c = ':' then (readParts (some dotted) count rest).map (withPart part)
      else if c = '.' || c = ',' then (readFraction rest).map (withPart part)
      else if dotted then none
      else (readParts (some dotted) count (c :: rest)).map (withPart part)

/-- A time with all its parts. -/
def read (cs : List Char) : Option ClockText := readParts none 3 cs

end ClockText

/-- Whether what is left over of a text counts as nothing: a NUL ends a text. -/
def isTextEnd (rest : List Char) : Bool := rest.head?.all fun c => c = '\x00'

/-- Whether a character begins an offset. -/
def isOffsetMark (c : Char) : Bool := c = '+' || c = '-' || c = 'Z'

/-- The offset that a time means. A time of no whole second means no offset, and an offset lies
within a day. -/
def offsetOf? (isNegative : Bool) (t : Clock) : Option Int :=
  let micros := t.micros
  if micros < 1000000 then some 0
  else if micros < dayMicros then some (if isNegative then -micros else micros)
  else none

/-- The offset after a time of which something may be left over; it may be missing. -/
def readOffset (left : List Char) : List Char → Option (Option Int)
  | [] => if isTextEnd left then some none else none
  | mark :: rest =>
    if mark = 'Z' then (if isTextEnd rest then some (some 0) else none)
    else do
      let time ← ClockText.read rest
      let offset ← offsetOf? (mark = '-') time.clock
      if isTextEnd time.rest then some (some offset) else none

/-- The moment that a text denotes. -/
def readMoment (s : String) : Option Moment := do
  let (date, cs) ← readDatePart s.toList
  match cs with
  | [] => pure ⟨date, .midnight, none⟩
  | _ :: cs =>
    let time ← ClockText.read (cs.takeWhile fun c => !isOffsetMark c)
    let offset ← readOffset time.rest (cs.dropWhile fun c => !isOffsetMark c)
    if time.clock.isValid then pure ⟨date, time.clock, offset⟩ else none

end ListQuery
