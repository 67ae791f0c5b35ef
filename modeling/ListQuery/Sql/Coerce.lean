import ListQuery.Calendar.MomentText
import ListQuery.Number.Numeral
import ListQuery.Sql.Schema
import ListQuery.Text.LowerCase
import ListQuery.Value.Basic

/-!
# Values for columns

What a client compares a column with is brought to the type of the column where that
is possible: text that denotes a date, a moment, a number or a truth value becomes
one, and a decimal without a fractional part becomes a whole number for a column of
whole numbers. Anything else stays as it is, and sequences are treated item by item.

## Main definitions

* `ColumnType.coerceText` brings a text to a type, `coerce` any value.
-/

namespace ListQuery.Sql

/-- The words for yes and no that a column of truth values accepts. -/
def truthOfWord? (word : String) : Option Bool :=
  if ["true", "t", "1", "yes", "y"].contains word then some true
  else if ["false", "f", "0", "no", "n"].contains word then some false
  else none

/-- Writes the mark of the zero offset in full, if it stands at the end. -/
def spellOutZone (s : String) : String :=
  if s.toList.getLast? = some 'Z' then
    String.ofList (s.toList.flatMap fun c => if c = 'Z' then "+00:00".toList else [c])
  else s

/-- The moment that a text denotes for a column, which may ignore offsets. -/
def readColumnMoment (withZone : Bool) (s : String) : Option Moment :=
  (readMoment (spellOutZone s)).map fun m => if withZone then m else m.withoutOffset

/-- The value that a text denotes for a column of a type. -/
def ColumnType.coerceText (type : ColumnType) (s : String) : Value :=
  match type with
  | .dateTime withZone => ((readColumnMoment withZone s).map Value.moment).getD (.text s)
  | .date => ((readDate s).map Value.day).getD (.text s)
  | .integer | .bigInteger =>
    match readInt s with
    | .ok n => .int n
    | .error _ => .text s
  | .float | .numeric => ((readDecimal s).map Value.float).getD (.text s)
  | .boolean => ((truthOfWord? (lowerCase (strip s))).map Value.bool).getD (.text s)
  | .string | .text | .enum | .time | .uuid | .other _ => .text s

/-- The value that a decimal stands for in a column of a type. -/
def ColumnType.coerceFloat (type : ColumnType) (x : Binary64) : Value :=
  match type with
  | .integer | .bigInteger => (x.toInt?.map Value.int).getD (.float x)
  | _ => .float x

mutual

/-- Brings a value to the type of a column. A tuple becomes a list. -/
def coerce (type : ColumnType) : Value → Value
  | .list items => .list (coerceAll type items)
  | .tuple items => .list (coerceAll type items)
  | .text s => type.coerceText s
  | .float x => type.coerceFloat x
  | other => other

/-- Brings the items of a sequence to the type of a column. -/
def coerceAll (type : ColumnType) : List Value → List Value
  | [] => []
  | item :: rest => coerce type item :: coerceAll type rest

end

/-- A type that leaves every scalar as it is, for what is no column. -/
def untyped : ColumnType := .other ""

/-- A text is brought to a moment, a day, a number or, for a column of truth values, a truth
value, or it stays a text. -/
theorem coerceText_induction {motive : Value → Prop} {type : ColumnType} {s : String}
    (text : motive (.text s)) (moment : ∀ m, motive (.moment m)) (day : ∀ d, motive (.day d))
    (int : ∀ n, motive (.int n)) (float : ∀ x, motive (.float x))
    (bool : type = .boolean → ∀ b, motive (.bool b)) : motive (type.coerceText s) := by
  have kept {α : Type} (read? : Option α) (make : α → Value) (made : ∀ a, motive (make a)) :
      motive ((read?.map make).getD (.text s)) := by
    cases read? with
    | none => exact text
    | some a => exact made a
  rw [ColumnType.coerceText.eq_def]
  split
  · exact kept _ _ moment
  · exact kept _ _ day
  · split
    · exact int _
    · exact text
  · split
    · exact int _
    · exact text
  · exact kept _ _ float
  · exact kept _ _ float
  · exact kept _ _ (bool rfl)
  all_goals exact text

/-- A decimal stays one or is brought to a whole number. -/
theorem coerceFloat_induction {motive : Value → Prop} {type : ColumnType} {x : Binary64}
    (float : motive (.float x)) (int : ∀ n, motive (.int n)) : motive (type.coerceFloat x) := by
  have kept : motive ((x.toInt?.map Value.int).getD (.float x)) := by
    cases x.toInt? with
    | none => exact float
    | some n => exact int n
  cases type with
  | integer => exact kept
  | bigInteger => exact kept
  | _ => exact float

end ListQuery.Sql
