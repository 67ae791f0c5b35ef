import ListQuery.Text.Printable

/-!
# Quoted text

How a text is shown inside a message: between single quotes, or between double
quotes when it holds a single quote and no double quote. A backslash and the
quote in use are escaped by a backslash; a line feed, a carriage return and a
tab have their letters; every other character that cannot be shown is written
as its code point in the shortest of the forms `\xhh`, `\uhhhh` and
`\Uhhhhhhhh`, with small hexadecimal digits.

## Main definitions

* `quoteFor` chooses the quote, `escapeChar` writes one character.
* `quoted` is the quoted text.
-/

namespace ListQuery

/-- The digit of a number below sixteen. -/
def hexDigit (n : Nat) : Char :=
  if n < 10 then Char.ofNat (48 + n) else Char.ofNat (87 + n)

/-- The last `width` hexadecimal digits of a number. -/
def hexDigits : Nat → Nat → List Char
  | 0, _ => []
  | width + 1, n => hexDigits width (n / 16) ++ [hexDigit (n % 16)]

/-- A code point in the shortest escape that holds it. -/
def escapeCode (n : Nat) : List Char :=
  if n < 0x100 then '\\' :: 'x' :: hexDigits 2 n
  else if n < 0x10000 then '\\' :: 'u' :: hexDigits 4 n
  else '\\' :: 'U' :: hexDigits 8 n

/-- One character inside a text quoted by `quote`. -/
def escapeChar (quote c : Char) : List Char :=
  if c = '\\' || c = quote then ['\\', c]
  else if c = '\n' then ['\\', 'n']
  else if c = '\r' then ['\\', 'r']
  else if c = '\t' then ['\\', 't']
  else if isPrintable c then [c]
  else escapeCode c.toNat

/-- The single quote. -/
def singleQuote : Char := Char.ofNat 39

/-- The double quote. -/
def doubleQuote : Char := Char.ofNat 34

/-- The quote to use: the double one when the text holds a single quote and no double one. -/
def quoteFor (cs : List Char) : Char :=
  if cs.contains singleQuote && !cs.contains doubleQuote then doubleQuote else singleQuote

/-- The text between quotes, with escapes. -/
def quoted (s : String) : String :=
  let quote := quoteFor s.toList
  String.ofList (quote :: s.toList.flatMap (escapeChar quote) ++ [quote])

end ListQuery
