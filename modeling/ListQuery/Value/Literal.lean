import ListQuery.Number.Shortest
import ListQuery.Text.Quoted
import ListQuery.Value.Basic

/-!
# How values are written in messages

A message shows a value by its literal: text in quotes, numbers in decimal, the
words `None`, `True` and `False`, lists in square brackets, tuples in round ones
with a comma after a single item, maps in braces with colons, and a test as its
comparator applied to its operand. Where a label is wanted instead, a text stands
for itself and every other value for its literal.

## Main definitions

* `Value.literal` is the literal of a value, `Value.label` its label.
* `listLiteral` writes texts as the literal of a list.
-/

namespace ListQuery

/-- Texts with a comma and a blank between them. -/
def commaSeparated (parts : List String) : String := ", ".intercalate parts

/-- The literal of a list whose items have the given literals. -/
def bracketed (parts : List String) : String := "[" ++ commaSeparated parts ++ "]"

/-- The literal of a list of texts. -/
def listLiteral (texts : List String) : String := bracketed (texts.map quoted)

/-- The literal of a tuple whose items have the given literals. -/
def parenthesized : List String → String
  | [part] => "(" ++ part ++ ",)"
  | parts => "(" ++ commaSeparated parts ++ ")"

/-- The literal of a truth value. -/
def boolLiteral (b : Bool) : String := if b then "True" else "False"

/-- A name in capitals. -/
def capitals (s : String) : String := String.ofList (s.toList.map upperLetter)

/-- The literal of a mark. -/
def Mark.literal : Mark → String
  | .kind k => "<ScalarKind." ++ capitals k.name ++ ": " ++ quoted k.name ++ ">"
  | .type name => "<class " ++ quoted name.word ++ ">"
  | .direction d => "<_SortDirectionEnum." ++ d.word ++ ": " ++ quoted d.word ++ ">"
  | .unset => "UNSET"

/-- The label of a mark. -/
def Mark.label : Mark → String
  | .kind k => "ScalarKind." ++ capitals k.name
  | .direction d => "_SortDirectionEnum." ++ d.word
  | .unset => ""
  | m => m.literal

/-- The literal of a date. -/
def Date.literal (d : Date) : String :=
  "datetime.date(" ++ commaSeparated [toString d.year, toString d.month, toString d.day] ++ ")"

/-- The literal of a length of time, in days, seconds and microseconds. -/
def offsetLiteral (offset : Int) : String :=
  let days := Int.fdiv offset dayMicros
  let rest := (Int.fmod offset dayMicros).toNat
  let parts :=
    (if days = 0 then [] else ["days=" ++ toString days]) ++
    (if rest / 1000000 = 0 then [] else ["seconds=" ++ toString (rest / 1000000)]) ++
    (if rest % 1000000 = 0 then [] else ["microseconds=" ++ toString (rest % 1000000)])
  if offset = 0 then "datetime.timezone.utc"
  else "datetime.timezone(datetime.timedelta(" ++ commaSeparated parts ++ "))"

/-- The literal of a moment: seconds and microseconds are left out at the end when zero. -/
def Moment.literal (m : Moment) : String :=
  let parts := [m.date.year, m.date.month, m.date.day, m.clock.hour, m.clock.minute] ++
    (if m.clock.micro ≠ 0 then [m.clock.second, m.clock.micro]
      else if m.clock.second ≠ 0 then [m.clock.second] else [])
  "datetime.datetime(" ++ commaSeparated (parts.map toString ++
    (m.offset.map fun offset => ["tzinfo=" ++ offsetLiteral offset]).getD []) ++ ")"

namespace Value

mutual

/-- The literal of a value. A whole number is written out whatever its length: the limit on the
digits of a number (`maxDigits`) only holds for reading here, though the runtime that the messages
are modelled on also refuses to write a number beyond it. -/
def literal : Value → String
  | .null => "None"
  | .bool b => boolLiteral b
  | .int n => toString n
  | .float x => x.written
  | .text s => quoted s
  | .list items => bracketed (literals items)
  | .tuple items => parenthesized (literals items)
  | .map entries => "\x7b" ++ commaSeparated (entryLiterals entries) ++ "\x7d"
  | .test .isNull _ => "IsNull()"
  | .test c operand => c.name ++ "(" ++ literal operand ++ ")"
  | .relation target => "RelationKind(target=" ++ literal target ++ ")"
  | .mark m => m.literal
  | .day d => d.literal
  | .moment m => m.literal

/-- The literals of a sequence. -/
def literals : List Value → List String
  | [] => []
  | item :: rest => literal item :: literals rest

/-- The literals of the entries of a map. -/
def entryLiterals : List (Value × Value) → List String
  | [] => []
  | (key, value) :: rest => (literal key ++ ": " ++ literal value) :: entryLiterals rest

end

/-- The label of a value: a text as it is, anything else by its literal. -/
def label : Value → String
  | .text s => s
  | .mark m => m.label
  | .day d => String.ofList d.written
  | .moment m => String.ofList (m.date.written ++ ' ' :: m.clock.written ++
      (m.offset.map offsetText).getD [])
  | value => value.literal

/-- The word for what sort of value it is, as messages about unsuitable values use it. -/
def sort : Value → String
  | .null => "NoneType"
  | .bool _ => "bool"
  | .int _ => "int"
  | .float _ => "float"
  | .text _ => "str"
  | .list _ => "list"
  | .tuple _ => "tuple"
  | .map _ => "dict"
  | .test _ _ => "FindOperator"
  | .relation _ => "RelationKind"
  | .mark (.kind _) => "ScalarKind"
  | .mark (.type _) => "type"
  | .mark (.direction _) => "_SortDirectionEnum"
  | .mark .unset => "UnsetType"
  | .day _ => "datetime.date"
  | .moment _ => "datetime.datetime"

end Value

end ListQuery
