import ListQuery.Text.Digit
import ListQuery.Text.WordChar

/-!
# Names of attributes and input types

A field may have any name, but the attribute that holds it needs one that is made
of word characters, does not start with a digit, and is none of the reserved words.
Every other character becomes a low line, a low line is put in front where the name
would be empty or start with a digit, and one is put behind a reserved word.

## Main definitions

* `attributeName` is the name of the attribute for a field.
* `sortInputName` and `whereInputName` name the input types of an entity.
-/

namespace ListQuery

/-- The words that cannot name an attribute. -/
def reservedWords : List String :=
  ["False", "None", "True", "and", "as", "assert", "async", "await", "break", "class", "continue",
   "def", "del", "elif", "else", "except", "finally", "for", "from", "global", "if", "import",
   "in", "is", "lambda", "nonlocal", "not", "or", "pass", "raise", "return", "try", "while",
   "with", "yield"]

/-- Puts a low line where a character may not stand in a name. -/
def wordCharOr (c : Char) : Char := if isWordChar c then c else '_'

/-- Puts a low line in front of a name that is empty or starts with a digit. -/
def guardStart : List Char → List Char
  | [] => ['_']
  | c :: rest => if isDigitLike c then '_' :: c :: rest else c :: rest

/-- Puts a low line behind a reserved word. -/
def guardReserved (name : String) : String :=
  if reservedWords.contains name then name ++ "_" else name

/-- The name of the attribute for a field of a name. -/
def attributeName (s : String) : String :=
  guardReserved (String.ofList (guardStart (s.toList.map wordCharOr)))

/-- The name of the input type by which an entity is sorted. -/
def sortInputName (entity : String) : String := entity ++ "SortOrder"

/-- The name of the input type by which an entity is filtered. -/
def whereInputName (entity : String) : String := entity ++ "WhereInput"

end ListQuery
