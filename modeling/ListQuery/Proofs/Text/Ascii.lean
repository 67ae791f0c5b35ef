import ListQuery.Number.Numeral
import ListQuery.Text.LowerCase
import ListQuery.Text.WordChar
import Mathlib.Data.List.TakeWhile

/-!
# ASCII text

The tables of character classes go far beyond ASCII, but a table is a list of ranges, and of these
only the few that start below 128 matter for an ASCII character. So among the ASCII characters
white space, word characters and capitals are what one expects.

A word that is read from a text may have white space around it and letters in any case. White space
has no case, so trimming leaves just the letters of the word, and lower-casing makes the word of
them.

## Main definitions

* `asciiBlanks` is the white space of ASCII texts, `IsPadded` puts it around characters.
* `Spells` holds of the texts that write a word.

## Main results

* `CharSet.has_of_ascii`: only ranges that start below 128 matter for ASCII characters.
* `lowerChars_of_ascii`: ASCII text is lower-cased letter by letter.
* `Spells.lowerCase_strip`: trimming and lower-casing bring a word back.
-/

namespace ListQuery

variable {c : Char}

/-! ## Classes of ASCII characters -/

theorem CharSet.has_of_ascii (set : CharSet) (ascii : c.toNat < 128) :
    set.has c = CharSet.has (set.filter fun range => decide (range.1 < 128)) c := by
  rw [Bool.eq_iff_iff, has_eq_true_iff, has_eq_true_iff]
  constructor
  · rintro ⟨range, there, low, high⟩
    exact ⟨range, List.mem_filter.2 ⟨there, by simpa using Nat.lt_of_le_of_lt low ascii⟩, low, high⟩
  · rintro ⟨range, there, within⟩
    exact ⟨range, (List.mem_filter.1 there).1, within⟩

theorem isBlank_iff_of_ascii (ascii : c.toNat < 128) : isBlank c = true ↔
    (9 ≤ c.toNat ∧ c.toNat ≤ 13) ∨ (28 ≤ c.toNat ∧ c.toNat ≤ 32) := by
  have ranges : blankChars.filter (fun range => decide (range.1 < 128)) = [(9, 13), (28, 32)] := rfl
  rw [isBlank, CharSet.has_of_ascii _ ascii, ranges, CharSet.has_eq_true_iff]
  simp

theorem isWordChar_iff_of_ascii (ascii : c.toNat < 128) : isWordChar c = true ↔
    (48 ≤ c.toNat ∧ c.toNat ≤ 57) ∨ (65 ≤ c.toNat ∧ c.toNat ≤ 90) ∨ c.toNat = 95 ∨
      (97 ≤ c.toNat ∧ c.toNat ≤ 122) := by
  have ranges : wordChars.filter (fun range => decide (range.1 < 128)) =
      [(48, 57), (65, 90), (95, 95), (97, 122)] := by decide +kernel
  rw [isWordChar, CharSet.has_of_ascii _ ascii, ranges, CharSet.has_eq_true_iff]
  simp only [List.mem_cons, List.not_mem_nil, or_false, exists_eq_or_imp, exists_eq_left]
  omega

theorem decimalDigit?_of_isDigit (digit : c.isDigit = true) :
    decimalDigit? c = some (c.toNat - '0'.toNat) := by
  obtain ⟨low, high⟩ := Char.isDigit_iff_toNat.1 digit
  have first : (decide (48 ≤ c.toNat) && decide (c.toNat ≤ 48 + 9)) = true := by
    simpa using And.intro low high
  have table : decimalZeros = 48 :: decimalZeros.tail := rfl
  rw [decimalDigit?, table, List.find?_cons]
  simp only [first]
  rfl

/-! ## Lower case -/

theorem asciiLower_eq (c : Char) : asciiLower c =
    if 65 ≤ c.toNat ∧ c.toNat ≤ 90 then Char.ofNat (c.toNat + 32) else c := by
  have capital : ('A' ≤ c && c ≤ 'Z') = true ↔ 65 ≤ c.toNat ∧ c.toNat ≤ 90 := by
    simp [Char.le_def, UInt32.le_iff_toNat_le, ← Char.toNat_val]
  simp only [asciiLower, capital]

theorem toNat_asciiLower (c : Char) :
    (asciiLower c).toNat = if 65 ≤ c.toNat ∧ c.toNat ≤ 90 then c.toNat + 32 else c.toNat := by
  rw [asciiLower_eq]
  split
  · next capital =>
    have valid : (c.toNat + 32).isValidChar := Or.inl (by omega)
    rw [Char.ofNat, dif_pos valid]
    rfl
  · rfl

/-- White space has no case. -/
theorem isBlank_asciiLower (c : Char) : isBlank (asciiLower c) = isBlank c := by
  have small := toNat_asciiLower c
  split at small
  · next capital =>
    rw [Bool.eq_iff_iff, isBlank_iff_of_ascii (by omega), isBlank_iff_of_ascii (by omega)]
    omega
  · rw [Char.toNat_inj.1 small]

theorem lowerChar_of_ascii (ascii : c.toNat < 128) : lowerChar c = [asciiLower c] := by
  have dotted : c ≠ '\u0130' := by
    rintro rfl
    exact absurd ascii (by decide)
  -- the other runs of capitals start after ASCII
  have later : ∀ run ∈ capitalRuns.tail, 128 ≤ run.first := by decide +kernel
  have none : capitalRuns.tail.find? (fun run => run.has c) = none := by
    rw [List.find?_eq_none]
    intro run there
    have start := later run there
    simp only [CaseRun.has, Bool.and_eq_true, decide_eq_true_eq]
    omega
  have table : capitalRuns = ⟨65, 90, 1, 32⟩ :: capitalRuns.tail := rfl
  have first : CaseRun.has ⟨65, 90, 1, 32⟩ c = decide (65 ≤ c.toNat ∧ c.toNat ≤ 90) := by
    simp [CaseRun.has, Nat.mod_one]
  rw [lowerChar, if_neg dotted, table, List.find?_cons, none, first, asciiLower_eq]
  by_cases capital : 65 ≤ c.toNat ∧ c.toNat ≤ 90
  · rw [decide_eq_true capital, if_pos capital]
    rfl
  · rw [decide_eq_false capital, if_neg capital]

theorem lowerChars_of_ascii {cs : List Char} (ascii : ∀ c ∈ cs, c.toNat < 128) (inWord : Bool) :
    lowerChars inWord cs = cs.map asciiLower := by
  induction cs generalizing inWord with
  | nil => rfl
  | cons c rest ih =>
    obtain ⟨here, later⟩ := List.forall_mem_cons.1 ascii
    have sigma : c ≠ '\u03A3' := by
      rintro rfl
      exact absurd here (by decide)
    rw [lowerChars, ih later, lowerChar_of_ascii here]
    simp [sigma]

/-! ## Words in white space -/

/-- The white space of ASCII texts: the space, the tab, and what ends lines and pages. The separator
controls U+001C to U+001F are not meant; they are trimmed from words, but not from numbers. -/
def asciiBlanks : List Char := [' ', '\t', '\n', '\x0b', '\x0c', '\r']

/-- A text holds given characters and ASCII white space around them. -/
def IsPadded (inner : List Char) (text : String) : Prop :=
  ∃ before after, text.toList = before ++ inner ++ after ∧
    before ⊆ asciiBlanks ∧ after ⊆ asciiBlanks

/-- A text writes a word: its letters in any case, and ASCII white space around them. -/
def Spells (text word : String) : Prop :=
  ∃ letters, IsPadded letters text ∧ letters.map asciiLower = word.toList

/-- Whether a word has characters, all of them in ASCII and none of them white space. -/
def isAsciiWord (word : String) : Bool :=
  word ≠ "" && word.toList.all fun c => c.toNat < 128 && !isBlank c

theorem isBlank_of_mem_asciiBlanks (there : c ∈ asciiBlanks) : isBlank c = true := by
  have each : asciiBlanks.all isBlank = true := by decide
  exact List.all_eq_true.1 each c there

/-- Trimming leaves what stands between characters of a class, if it has none of them itself. -/
theorem trim_append {p : Char → Bool} {before inner after : List Char}
    (front : ∀ c ∈ before, p c = true) (solid : ∀ c ∈ inner, p c = false)
    (back : ∀ c ∈ after, p c = true) : trim p (before ++ inner ++ after) = inner := by
  have kept (cs : List Char) (none : ∀ c ∈ cs, p c = false) : cs.dropWhile p = cs :=
    List.dropWhile_eq_self_iff.2 fun there => by simp [none _ (List.getElem_mem there)]
  rw [trim, List.append_assoc, List.dropWhile_append_of_pos front]
  cases inner with
  | nil =>
    rw [List.nil_append, List.dropWhile_eq_nil_iff.2 back]
    rfl
  | cons c rest =>
    have start : (c :: rest ++ after).dropWhile p = c :: rest ++ after :=
      List.dropWhile_cons_of_neg (by simp [solid c List.mem_cons_self])
    rw [start, List.reverse_append,
      List.dropWhile_append_of_pos fun c there => back c (List.mem_reverse.1 there),
      kept _ fun c there => solid c (List.mem_reverse.1 there), List.reverse_reverse]

variable {inner : List Char} {text word : String}

theorem isPadded_self (text : String) : IsPadded text.toList text :=
  ⟨[], [], by simp, List.nil_subset _, List.nil_subset _⟩

theorem IsPadded.ne_empty (padded : IsPadded inner text) (nonempty : inner ≠ []) : text ≠ "" := by
  rintro rfl
  obtain ⟨before, after, chars, -⟩ := padded
  exact nonempty (List.append_eq_nil_iff.1 (List.append_eq_nil_iff.1 chars.symm).1).2

theorem IsPadded.strip_eq (padded : IsPadded inner text) (solid : ∀ c ∈ inner, isBlank c = false) :
    strip text = String.ofList inner := by
  obtain ⟨before, after, chars, front, back⟩ := padded
  rw [strip, chars, trim_append (fun c there => isBlank_of_mem_asciiBlanks (front there)) solid
    fun c there => isBlank_of_mem_asciiBlanks (back there)]

/-- A word in small letters writes itself. -/
theorem spells_self (small : word.toList.map asciiLower = word.toList) : Spells word word :=
  ⟨word.toList, isPadded_self word, small⟩

theorem Spells.ne_empty (spells : Spells text word) (plain : isAsciiWord word = true) :
    text ≠ "" := by
  obtain ⟨letters, padded, same⟩ := spells
  refine padded.ne_empty ?_
  rintro rfl
  have empty : word = "" := String.toList_inj.1 same.symm
  exact absurd plain (by simp [isAsciiWord, empty])

/-- Trimming and lower-casing bring a word back. -/
theorem Spells.lowerCase_strip (spells : Spells text word) (plain : isAsciiWord word = true) :
    lowerCase (strip text) = word := by
  obtain ⟨letters, padded, same⟩ := spells
  have small (c : Char) (there : c ∈ letters) :
      (asciiLower c).toNat < 128 ∧ isBlank (asciiLower c) = false := by
    have among : asciiLower c ∈ word.toList := same ▸ List.mem_map_of_mem there
    simpa using List.all_eq_true.1 (Bool.and_eq_true_iff.1 plain).2 _ among
  have solid : ∀ c ∈ letters, isBlank c = false := fun c there =>
    isBlank_asciiLower c ▸ (small c there).2
  have ascii : ∀ c ∈ letters, c.toNat < 128 := by
    intro c there
    have below := (small c there).1
    rw [toNat_asciiLower] at below
    split at below <;> omega
  rw [padded.strip_eq solid, lowerCase, String.toList_ofList, lowerChars_of_ascii ascii, same,
    String.ofList_toList]

end ListQuery
