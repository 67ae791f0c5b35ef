import ListQuery.Input.Name
import ListQuery.Proofs.Text.Ascii

/-!
# What names attributes have

The name of a field becomes the name of an attribute in three steps, and each of them repairs one
thing: characters that stand in no word, a missing or unfit first character, and a clash with a
reserved word. What a later step adds is a low line, in front or behind. That is a word character
and no digit, and no reserved word ends in one, so no step spoils what an earlier one has repaired.
And a step changes nothing that needs no repair.

## Main definitions

* `IsNameText` holds of the texts that could be names but for the reserved words.
* `IsAttributeName` holds of the names that attributes can have.
* `IsAsciiIdentifier` holds of the identifiers with ASCII characters only.

## Main results

* `isAttributeName_attributeName`: every field gets a name that attributes can have.
* `attributeName_eq_self_iff`: just these names stay as they are.
* `mem_attributeName`: a name has the characters of the field and low lines.
* `attributeName_repairs` puts them together.
-/

namespace ListQuery

variable {c : Char} {cs : List Char} {name : String}

/-- There are characters, all of them word characters, and the first is no digit of any kind. -/
structure IsNameText (cs : List Char) : Prop where
  nonempty : cs ≠ []
  word : ∀ c ∈ cs, isWordChar c = true
  start : ∀ c, cs.head? = some c → isDigitLike c = false

/-- An attribute can have this name. -/
structure IsAttributeName (name : String) : Prop where
  chars : IsNameText name.toList
  unreserved : name ∉ reservedWords

/-- A name is a letter or a low line, followed by letters, digits and low lines, all in ASCII. -/
def IsAsciiIdentifier (name : String) : Prop :=
  ∃ first rest, name.toList = first :: rest ∧ (first.isAlpha = true ∨ first = '_') ∧
    ∀ c ∈ rest, c.isAlphanum = true ∨ c = '_'

theorem isWordChar_lowLine : isWordChar '_' = true := by decide +kernel

theorem isDigitLike_lowLine : isDigitLike '_' = false := by decide +kernel

/-! ## The three steps -/

theorem isWordChar_wordCharOr (c : Char) : isWordChar (wordCharOr c) = true := by
  rw [wordCharOr]
  split
  · assumption
  · exact isWordChar_lowLine

theorem wordCharOr_eq_self (word : isWordChar c = true) : wordCharOr c = c := if_pos word

theorem guardStart_cases (cs : List Char) : guardStart cs = '_' :: cs ∨
    guardStart cs = cs ∧ cs ≠ [] ∧ ∀ c, cs.head? = some c → isDigitLike c = false := by
  cases cs with
  | nil => exact Or.inl rfl
  | cons c rest =>
    rw [guardStart]
    split
    · exact Or.inl rfl
    · next plain => exact Or.inr ⟨rfl, List.cons_ne_nil _ _, by simpa using plain⟩

theorem isNameText_guardStart (word : ∀ c ∈ cs, isWordChar c = true) :
    IsNameText (guardStart cs) := by
  rcases guardStart_cases cs with guarded | ⟨same, nonempty, start⟩
  · rw [guarded]
    refine ⟨List.cons_ne_nil _ _, List.forall_mem_cons.2 ⟨isWordChar_lowLine, word⟩, ?_⟩
    rintro c ⟨⟩
    exact isDigitLike_lowLine
  · rw [same]
    exact ⟨nonempty, word, start⟩

theorem IsNameText.guardStart_eq_self (chars : IsNameText cs) : guardStart cs = cs := by
  cases cs with
  | nil => exact absurd rfl chars.nonempty
  | cons c rest => simp [guardStart, chars.start c rfl]

/-- A low line may follow in any name. -/
theorem IsNameText.append_lowLine (chars : IsNameText cs) : IsNameText (cs ++ ['_']) := by
  obtain ⟨nonempty, word, start⟩ := chars
  refine ⟨by simp, ?_, ?_⟩
  · intro c there
    rcases List.mem_append.1 there with there | there
    · exact word c there
    · rw [List.mem_singleton.1 there]
      exact isWordChar_lowLine
  · cases cs with
    | nil => exact absurd rfl nonempty
    | cons c rest => exact start

theorem not_mem_reservedWords_append (name : String) : name ++ "_" ∉ reservedWords := by
  have ends : ∀ word ∈ reservedWords, word.toList.getLast? ≠ some '_' := by decide
  intro reserved
  refine ends _ reserved ?_
  rw [String.toList_append]
  exact List.getLast?_concat

theorem guardReserved_of_mem (reserved : name ∈ reservedWords) :
    guardReserved name = name ++ "_" := if_pos (List.contains_iff_mem.2 reserved)

theorem guardReserved_eq_self (unreserved : name ∉ reservedWords) : guardReserved name = name :=
  if_neg fun reserved => unreserved (List.contains_iff_mem.1 reserved)

theorem isAttributeName_guardReserved (chars : IsNameText name.toList) :
    IsAttributeName (guardReserved name) := by
  by_cases reserved : name ∈ reservedWords
  · rw [guardReserved_of_mem reserved]
    refine ⟨?_, not_mem_reservedWords_append name⟩
    rw [String.toList_append]
    exact chars.append_lowLine
  · rw [guardReserved_eq_self reserved]
    exact ⟨chars, reserved⟩

/-! ## Names -/

/-- Every field gets a name that attributes can have. -/
theorem isAttributeName_attributeName (s : String) : IsAttributeName (attributeName s) := by
  refine isAttributeName_guardReserved ?_
  rw [String.toList_ofList]
  refine isNameText_guardStart fun c there => ?_
  obtain ⟨given, -, rfl⟩ := List.mem_map.1 there
  exact isWordChar_wordCharOr given

theorem IsAttributeName.attributeName_eq_self (valid : IsAttributeName name) :
    attributeName name = name := by
  obtain ⟨chars, unreserved⟩ := valid
  have kept : name.toList.map wordCharOr = name.toList :=
    (List.map_congr_left fun c there => wordCharOr_eq_self (chars.word c there)).trans
      (List.map_id _)
  rw [attributeName, kept, chars.guardStart_eq_self, String.ofList_toList,
    guardReserved_eq_self unreserved]

/-- Just the names that attributes can have stay as they are. -/
theorem attributeName_eq_self_iff : attributeName name = name ↔ IsAttributeName name :=
  ⟨fun same => same ▸ isAttributeName_attributeName name, IsAttributeName.attributeName_eq_self⟩

theorem mem_guardStart (there : c ∈ guardStart cs) : c = '_' ∨ c ∈ cs := by
  rcases guardStart_cases cs with guarded | ⟨same, -⟩
  · rw [guarded] at there
    exact List.mem_cons.1 there
  · exact Or.inr (same ▸ there)

theorem mem_guardReserved (there : c ∈ (guardReserved name).toList) :
    c = '_' ∨ c ∈ name.toList := by
  by_cases reserved : name ∈ reservedWords
  · rw [guardReserved_of_mem reserved, String.toList_append] at there
    exact (List.mem_append.1 there).elim Or.inr fun last => Or.inl (List.mem_singleton.1 last)
  · rw [guardReserved_eq_self reserved] at there
    exact Or.inr there

/-- A name has the characters of the field and low lines. -/
theorem mem_attributeName {s : String} (there : c ∈ (attributeName s).toList) :
    c = '_' ∨ c ∈ s.toList := by
  rcases mem_guardReserved there with lowLine | there
  · exact Or.inl lowLine
  rw [String.toList_ofList] at there
  rcases mem_guardStart there with lowLine | there
  · exact Or.inl lowLine
  obtain ⟨given, among, rfl⟩ := List.mem_map.1 there
  rw [wordCharOr]
  split
  · exact Or.inr among
  · exact Or.inl rfl

/-! ## ASCII names -/

theorem isAlpha_iff (c : Char) : c.isAlpha = true ↔
    (65 ≤ c.toNat ∧ c.toNat ≤ 90) ∨ (97 ≤ c.toNat ∧ c.toNat ≤ 122) := by
  have capital : c.isUpper = decide (65 ≤ c.toNat ∧ c.toNat ≤ 90) := rfl
  have small : c.isLower = (decide (97 ≤ c.toNat) && decide (c.toNat ≤ 122)) := rfl
  have letter : c.isAlpha = (c.isUpper || c.isLower) := rfl
  simp [letter, capital, small]

/-- A word character of ASCII is a letter, a digit or a low line. -/
theorem isAlphanum_of_isWordChar (ascii : c.toNat < 128) (word : isWordChar c = true) :
    c.isAlphanum = true ∨ c = '_' := by
  rw [Char.isAlphanum, Bool.or_eq_true, isAlpha_iff, Char.isDigit_iff_toNat]
  rcases (isWordChar_iff_of_ascii ascii).1 word with digit | capital | lowLine | small
  · exact Or.inl (Or.inr digit)
  · exact Or.inl (Or.inl (Or.inl capital))
  · exact Or.inr (Char.toNat_inj.1 lowLine)
  · exact Or.inl (Or.inl (Or.inr small))

theorem isDigitLike_of_isDigit (digit : c.isDigit = true) : isDigitLike c = true := by
  rw [isDigitLike, decimalDigit?_of_isDigit digit]
  rfl

theorem IsNameText.isAsciiIdentifier (chars : IsNameText name.toList)
    (ascii : ∀ c ∈ name.toList, c.toNat < 128) : IsAsciiIdentifier name := by
  obtain ⟨nonempty, word, start⟩ := chars
  have each (c : Char) (there : c ∈ name.toList) : c.isAlphanum = true ∨ c = '_' :=
    isAlphanum_of_isWordChar (ascii c there) (word c there)
  obtain ⟨first, rest, split⟩ := List.exists_cons_of_ne_nil nonempty
  rw [split] at each start
  refine ⟨first, rest, split, ?_, fun c there => each c (List.mem_cons_of_mem _ there)⟩
  -- the first character is no digit
  have noDigit : first.isDigit = false := by
    cases digit : first.isDigit with
    | false => rfl
    | true => exact absurd (isDigitLike_of_isDigit digit) (by simp [start first rfl])
  simpa [Char.isAlphanum, noDigit] using each first List.mem_cons_self

/-! ## The names of fields -/

/-- Every field gets a name that attributes can have: of word characters, without a digit of any
kind at its start, and none of the reserved words. Names that are of this kind already stay as they
are, and no others do; so names are not changed again. In ASCII names are identifiers. -/
theorem attributeName_repairs (s : String) :
    IsAttributeName (attributeName s) ∧
      (attributeName s = s ↔ IsAttributeName s) ∧
      attributeName (attributeName s) = attributeName s ∧
      ((∀ c ∈ s.toList, c.toNat < 128) → IsAsciiIdentifier (attributeName s)) := by
  have valid := isAttributeName_attributeName s
  refine ⟨valid, attributeName_eq_self_iff, valid.attributeName_eq_self, fun ascii => ?_⟩
  refine valid.chars.isAsciiIdentifier fun c there => ?_
  rcases mem_attributeName there with rfl | given
  · decide
  · exact ascii c given

theorem attributeName_repairs_ordinal :
    attributeName "2nd-class" = "_2nd_class" ∧ IsAsciiIdentifier "_2nd_class" := by
  have name : attributeName "2nd-class" = "_2nd_class" := by decide +kernel
  obtain ⟨-, -, -, identifier⟩ := attributeName_repairs "2nd-class"
  exact ⟨name, name ▸ identifier (by simp)⟩

end ListQuery
