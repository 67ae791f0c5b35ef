import ListQuery.Number.Binary64
import ListQuery.Text.Blank
import ListQuery.Text.Digit
import ListQuery.Text.Quoted

/-!
# Reading numerals

Whole numbers and decimals are read from text in one grammar of digits: decimal
digits of any script, where a single low line may stand between two digits. White
space may surround a numeral; the four separator controls do not count as white
space here. Decimals may have a point and an exponent, and the words for infinity
and for the number that is none are read in any case.

## Main definitions

* `readDigits` reads one run of digits.
* `readInt` reads a whole number, of at most `maxDigits` digits.
* `readDecimal` reads a double-precision number.
-/

namespace ListQuery

/-- White space around a numeral. -/
def isNumeralBlank (c : Char) : Bool := isBlank c && !(28 ≤ c.toNat && c.toNat ≤ 31)

/-- The most digits that a whole number may have. -/
def maxDigits : Nat := 4300

/-- A run of digits read so far: its value and its count of digits. -/
structure DigitRun where
  value : Nat
  count : Nat
  deriving DecidableEq

/-- One more digit at the end. -/
def DigitRun.push (run : DigitRun) (digit : Nat) : DigitRun :=
  ⟨10 * run.value + digit, run.count + 1⟩

/-- The digits that follow at least one digit; a low line counts only between two digits. -/
def moreDigits (run : DigitRun) : List Char → DigitRun × List Char
  | [] => (run, [])
  | '_' :: c :: rest =>
    match decimalDigit? c with
    | some digit => moreDigits (run.push digit) rest
    | none => (run, '_' :: c :: rest)
  | c :: rest =>
    match decimalDigit? c with
    | some digit => moreDigits (run.push digit) rest
    | none => (run, c :: rest)

/-- The longest run of digits at the start, and what follows it. -/
def readDigits : List Char → Option (DigitRun × List Char)
  | [] => none
  | c :: rest => (decimalDigit? c).map fun digit => moreDigits ⟨digit, 1⟩ rest

/-- A sign at the start: whether it is a minus, and what follows. -/
def readSign : List Char → Bool × List Char
  | '-' :: rest => (true, rest)
  | '+' :: rest => (false, rest)
  | cs => (false, cs)

/-- Why a text is not a whole number. -/
inductive NumeralError
  | malformed
  | tooLong (digits : Nat)
  deriving DecidableEq

/-- What is wrong with a text that should denote a whole number. Of a long text only the
start is shown. -/
def NumeralError.message (s : String) : NumeralError → String
  | .malformed =>
    "invalid literal for int() with base 10: " ++ String.ofList ((quoted s).toList.take 200)
  | .tooLong digits =>
    "Exceeds the limit (4300 digits) for integer string conversion: value has " ++
      toString digits ++ " digits; use sys.set_int_max_str_digits() to increase the limit"

/-- The whole number that a text denotes. -/
def readInt (s : String) : Except NumeralError Int :=
  let (minus, cs) := readSign (s.toList.dropWhile isNumeralBlank)
  match readDigits cs with
  | none => .error .malformed
  | some (run, rest) =>
    if rest.head? = some '_' then .error .malformed
    else if maxDigits < run.count then .error (.tooLong run.count)
    else if (rest.dropWhile isNumeralBlank).isEmpty then
      .ok (if minus then -(run.value : Int) else run.value)
    else .error .malformed

/-- The small letter of an ASCII capital. -/
def asciiLower (c : Char) : Char :=
  if 'A' ≤ c && c ≤ 'Z' then Char.ofNat (c.toNat + 32) else c

/-- The numbers that are written as words. -/
def readWord (negative : Bool) (cs : List Char) : Option Binary64 :=
  let word := String.ofList (cs.map asciiLower)
  if word = "inf" || word = "infinity" then some (.infinity negative)
  else if word = "nan" then some .nan
  else none

/-- The digits after a decimal point, which may be missing. -/
def readFraction : List Char → DigitRun × List Char
  | '.' :: rest => (readDigits rest).getD (⟨0, 0⟩, rest)
  | cs => (⟨0, 0⟩, cs)

/-- The exponent at the end of a decimal, which may be missing. -/
def readExponent : List Char → Option Int
  | [] => some 0
  | c :: rest =>
    if c = 'e' || c = 'E' then
      let (minus, cs) := readSign rest
      match readDigits cs with
      | some (run, []) => some (if minus then -(run.value : Int) else run.value)
      | _ => none
    else none

/-- The number that an unsigned decimal denotes. -/
def readMagnitude (negative : Bool) (cs : List Char) : Option Binary64 :=
  let (whole, rest) := (readDigits cs).getD (⟨0, 0⟩, cs)
  let (part, rest) := readFraction rest
  if whole.count + part.count = 0 then none
  else (readExponent rest).map fun exponent =>
    .ofDecimal negative (whole.value * Nat.pow 10 part.count + part.value) (exponent - part.count)

/-- The double-precision number that a text denotes. -/
def readDecimal (s : String) : Option Binary64 :=
  let (minus, cs) := readSign (trim isNumeralBlank s.toList)
  (readWord minus cs).orElse fun _ => readMagnitude minus cs

end ListQuery
