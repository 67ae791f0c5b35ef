import ListQuery.Text.CharSet

/-!
# White space in a text

White space is the Unicode property, together with the four separator controls
U+001C to U+001F. Trimming removes it at both ends and leaves the inside alone;
writing a text on one line makes a single space of every run of it inside as well.

## Main definitions

* `isBlank` is the white-space class.
* `trim` removes the characters of a class from both ends of a list.
* `strip` removes white space from both ends of a text.
* `oneLine` is a text on one line, with single spaces.
-/

namespace ListQuery

/-- The white-space characters. -/
def blankChars : CharSet :=
  [(9, 13), (28, 32), (133, 133), (160, 160), (5760, 5760), (8192, 8202), (8232, 8233),
   (8239, 8239), (8287, 8287), (12288, 12288)]

/-- Whether a character is white space. -/
def isBlank (c : Char) : Bool := blankChars.has c

/-- Removes the characters of a class from both ends. -/
def trim (p : Char → Bool) (cs : List Char) : List Char :=
  ((cs.dropWhile p).reverse.dropWhile p).reverse

/-- The text without white space at its ends. -/
def strip (s : String) : String := String.ofList (trim isBlank s.toList)

/-- Makes a single space of every run of white space. -/
def squeeze : List Char → List Char
  | [] => []
  | c :: rest =>
    if !isBlank c then c :: squeeze rest
    else match squeeze rest with
      | ' ' :: more => ' ' :: more
      | other => ' ' :: other

/-- A text on one line: single spaces inside and none at the ends. -/
def oneLine (s : String) : String := String.ofList (trim isBlank (squeeze s.toList))

end ListQuery
