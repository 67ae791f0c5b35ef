import ListQuery.Proofs.Text.Ascii

/-!
# Reading back whole numbers

A whole number that is written in decimal digits, with a minus in front if it is negative, is read
back from the text. The digits are read one by one, each as the next decimal place, up to the first
character that is neither a digit nor a low line. White space may stand around the number, and the
number of digits is limited.

## Main definitions

* `EndsDigits` holds of what cannot go on a run of digits.
* `IsReadable` bounds the digits of a whole number.

## Main results

* `moreDigits_append`: a run of digits is read to its end.
* `readDigits_toDigits`: the digits of a number are read as that number.
* `readInt_of_isPadded`: a whole number is read back from its digits.
-/

namespace ListQuery

variable {c : Char} {digits rest : List Char}

/-! ## Runs of digits -/

/-- A text does not start with what could go on a run of digits. -/
def EndsDigits (rest : List Char) : Prop :=
  ∀ c, rest.head? = some c → c ≠ '_' ∧ decimalDigit? c = none

theorem moreDigits_of_endsDigits (ends : EndsDigits rest) (run : DigitRun) :
    moreDigits run rest = (run, rest) := by
  cases rest with
  | nil => rfl
  | cons c rest =>
    obtain ⟨apart, none⟩ := ends c rfl
    simp [moreDigits, apart, none]

/-- Digits are read up to what ends them, each as the next decimal place. -/
theorem moreDigits_append (each : ∀ c ∈ digits, c.isDigit = true) (ends : EndsDigits rest)
    (run : DigitRun) : moreDigits run (digits ++ rest) =
      (⟨Nat.ofDigitChars 10 digits run.value, run.count + digits.length⟩, rest) := by
  induction digits generalizing run with
  | nil => exact moreDigits_of_endsDigits ends run
  | cons c digits ih =>
    obtain ⟨here, later⟩ := List.forall_mem_cons.1 each
    -- as the character is a digit, it is not passed over as a low line
    have apart : c ≠ '_' := by
      rintro rfl
      exact absurd here (by decide)
    have step : moreDigits run (c :: (digits ++ rest)) =
        moreDigits (run.push (c.toNat - '0'.toNat)) (digits ++ rest) := by
      simp [moreDigits, apart, decimalDigit?_of_isDigit here]
    have counted : run.count + 1 + digits.length = run.count + (digits.length + 1) := by omega
    rw [List.cons_append, step, ih later, DigitRun.push, Nat.ofDigitChars_cons, List.length_cons,
      counted]

theorem readDigits_append (nonempty : digits ≠ []) (each : ∀ c ∈ digits, c.isDigit = true)
    (ends : EndsDigits rest) : readDigits (digits ++ rest) =
      some (⟨Nat.ofDigitChars 10 digits 0, digits.length⟩, rest) := by
  cases digits with
  | nil => exact absurd rfl nonempty
  | cons c digits =>
    obtain ⟨here, later⟩ := List.forall_mem_cons.1 each
    rw [List.cons_append, readDigits, decimalDigit?_of_isDigit here, Option.map_some,
      moreDigits_append later ends, Nat.ofDigitChars_cons, List.length_cons]
    simp only [Nat.mul_zero, Nat.zero_add, Nat.add_comm 1]

theorem isDigit_toDigits (n : Nat) : ∀ c ∈ Nat.toDigits 10 n, c.isDigit = true := fun _ there =>
  Nat.isDigit_of_mem_toDigits (by decide) (by decide) there

/-- The decimal digits of a number are read as that number. -/
theorem readDigits_toDigits (n : Nat) (ends : EndsDigits rest) :
    readDigits (Nat.toDigits 10 n ++ rest) =
      some (⟨n, (Nat.toDigits 10 n).length⟩, rest) := by
  rw [readDigits_append Nat.toDigits_ne_nil (isDigit_toDigits n) ends,
    Nat.ofDigitChars_ten_toDigits]

/-! ## Whole numbers -/

theorem isNumeralBlank_of_mem_asciiBlanks (there : c ∈ asciiBlanks) : isNumeralBlank c = true := by
  have each : asciiBlanks.all isNumeralBlank = true := by decide
  exact List.all_eq_true.1 each c there

/-- White space ends a run of digits. -/
theorem endsDigits_of_asciiBlanks (blank : rest ⊆ asciiBlanks) : EndsDigits rest := by
  have each : (asciiBlanks.all fun c => c ≠ '_' && decimalDigit? c = none) = true := by decide
  intro c head
  simpa using List.all_eq_true.1 each c (blank (List.mem_of_mem_head? head))

theorem toList_toString (n : Int) : (toString n).toList =
    (if n < 0 then ['-'] else []) ++ Nat.toDigits 10 n.natAbs := by
  rw [Int.toString_eq_repr, Int.repr_eq_if]
  by_cases negative : n < 0
  · rw [if_neg (by omega), if_pos negative, String.toList_append, Nat.toList_repr]
    have same : (-n).toNat = n.natAbs := by omega
    rw [same]
    rfl
  · rw [if_pos (by omega), if_neg negative, Nat.toList_repr]
    have same : n.toNat = n.natAbs := by omega
    rw [same]
    rfl

theorem toList_toString_ne_nil (n : Int) : (toString n).toList ≠ [] := by
  rw [toList_toString]
  intro none
  exact Nat.toDigits_ne_nil (List.append_eq_nil_iff.1 none).2

/-- A run of digits starts with no white space and has no sign. -/
theorem readSign_append (nonempty : digits ≠ []) (each : ∀ c ∈ digits, c.isDigit = true) :
    readSign ((digits ++ rest).dropWhile isNumeralBlank) = (false, digits ++ rest) := by
  cases digits with
  | nil => exact absurd rfl nonempty
  | cons c digits =>
    have digit : c.isDigit = true := each c List.mem_cons_self
    have solid : ¬ isNumeralBlank c = true := by
      intro blank
      obtain ⟨low, high⟩ := Char.isDigit_iff_toNat.1 digit
      have high : c.toNat ≤ 57 := high
      have low : 48 ≤ c.toNat := low
      have blank := (isBlank_iff_of_ascii (by omega)).1 (Bool.and_eq_true_iff.1 blank).1
      omega
    rw [List.cons_append, List.dropWhile_cons_of_neg solid]
    have minus : c ≠ '-' := by
      rintro rfl
      exact absurd digit (by decide)
    have plus : c ≠ '+' := by
      rintro rfl
      exact absurd digit (by decide)
    simp [readSign, minus, plus]

theorem readSign_toString (n : Int) (rest : List Char) :
    readSign (((toString n).toList ++ rest).dropWhile isNumeralBlank) =
      (decide (n < 0), Nat.toDigits 10 n.natAbs ++ rest) := by
  rw [toList_toString]
  by_cases negative : n < 0
  · rw [if_pos negative, decide_eq_true negative]
    rfl
  · rw [if_neg negative, decide_eq_false negative, List.nil_append,
      readSign_append Nat.toDigits_ne_nil (isDigit_toDigits n.natAbs)]

/-- A whole number has no more digits than are read. -/
def IsReadable (n : Int) : Prop := (Nat.toDigits 10 n.natAbs).length ≤ maxDigits

instance (n : Int) : Decidable (IsReadable n) := inferInstanceAs (Decidable (_ ≤ _))

/-- A whole number is read back from its decimal digits, with white space around them. -/
theorem readInt_of_isPadded {n : Int} {text : String} (readable : IsReadable n)
    (padded : IsPadded (toString n).toList text) : readInt text = .ok n := by
  obtain ⟨before, after, chars, front, back⟩ := padded
  have ends : EndsDigits after := endsDigits_of_asciiBlanks back
  have skip : after.dropWhile isNumeralBlank = [] := List.dropWhile_eq_nil_iff.2 fun c there =>
    isNumeralBlank_of_mem_asciiBlanks (back there)
  have signed : readSign (text.toList.dropWhile isNumeralBlank) =
      (decide (n < 0), Nat.toDigits 10 n.natAbs ++ after) := by
    have blank (c : Char) (there : c ∈ before) := isNumeralBlank_of_mem_asciiBlanks (front there)
    rw [chars, List.append_assoc, List.dropWhile_append_of_pos blank, readSign_toString]
  have apart : after.head? ≠ some '_' := fun head => (ends _ head).1 rfl
  rw [readInt, signed]
  simp only [readDigits_toDigits n.natAbs ends, if_neg apart, if_neg (Nat.not_lt.2 readable), skip,
    List.isEmpty_nil, if_true, decide_eq_true_eq]
  -- the sign and the digits make up the number
  congr 1
  split <;> omega

end ListQuery
