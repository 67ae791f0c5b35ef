import ListQuery.Sql.Fragment
import ListQuery.Text.WordChar

/-!
# Raw expressions

A raw expression is inserted into a statement as it is, but for its parameters. A colon with a
word behind it is a parameter of that name, which has no value yet. It is none behind another
colon, behind a word or behind a backslash, nor if a colon follows the word; and a backslash
that keeps a colon from being a parameter is left out.

A dollar sign may stand in a word where a parameter is looked for, but no parameter can have
one in its name: what has one stays text.

## Main definitions

* `rawNames` lists the names of the parameters of a raw expression.
* `rawFragment` is a raw expression as a fragment of a statement.
-/

namespace ListQuery.Sql

/-- Whether a character may stand in a word of a raw expression. -/
def isRawWordChar (c : Char) : Bool := isWordChar c || c = '$'

/-- The name behind a colon: a word, which loses its last character to a colon that follows. -/
def nameBehind (cs : List Char) : String :=
  let word := cs.takeWhile isWordChar
  String.ofList (if (cs.dropWhile isWordChar).head? = some ':' then word.dropLast else word)

/-- The names of the parameters of a raw expression, from a place on that comes after a
character, if after any. -/
def rawNames (before : Option Char) : List Char → List String
  | [] => []
  | c :: rest =>
    let others := rawNames (some c) rest
    let free := before.all fun b => b ≠ ':' && b ≠ '\\' && !isWordChar b
    if c = ':' && free && nameBehind rest ≠ "" then nameBehind rest :: others else others

/-- The word behind a colon, if no other colon follows it. -/
def wordBehind? (cs : List Char) : Option String :=
  if (cs.dropWhile isRawWordChar).head? = some ':' then none
  else some (String.ofList (cs.takeWhile isRawWordChar))

/-- The parameter behind a colon that comes after a character, if after any. -/
def parameterBehind? (names : List String) (before : Option Char) (cs : List Char) :
    Option String :=
  if before.all fun b => b ≠ ':' && b ≠ '\\' && !isRawWordChar b then
    (wordBehind? cs).filter fun word => names.contains word
  else none

/-- Whether a backslash in front of some text keeps a colon from being a parameter. -/
def isEscape : List Char → Bool
  | ':' :: rest => (wordBehind? rest).isSome
  | _ => false

/-- The fragment for a raw expression whose parameters have the given names, from a place on
that comes after a character, if after any. So many characters have been dealt with already. -/
def rawPieces (names : List String) (before : Option Char) : Nat → List Char → Fragment
  | _, [] => []
  | skip + 1, c :: rest => rawPieces names (some c) skip rest
  | 0, c :: rest =>
    if c = '\\' && isEscape rest then rawPieces names (some c) 0 rest
    else match if c = ':' then parameterBehind? names before rest else none with
      | some name => .named name :: rawPieces names (some c) name.length rest
      | none => .text (String.ofList [c]) :: rawPieces names (some c) 0 rest

/-- A raw expression as a fragment of a statement. -/
def rawFragment (expression : String) : Fragment :=
  let cs := expression.toList
  rawPieces (rawNames none cs) none 0 cs

end ListQuery.Sql
