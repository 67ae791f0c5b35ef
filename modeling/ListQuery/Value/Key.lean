import ListQuery.Ordered
import ListQuery.Value.Literal

/-!
# Values as keys

Any value that cannot change may be a key of a map, and so may it be the name of an
entity or of a field. Two values are the same key, written `==`, where they come to the
same in their simplest form: a truth value is one or zero, a decimal without a fractional
part is a whole number, and a scalar kind is the text of its name. So `==` holds of values
that are not equal, and of the number that is none it never holds, not even with itself.

## Main definitions

* `Value.canonical` is the simplest form of a value.
* `==` on values says whether they are the same key.
* `Value.asKey` is a value as a key, unless some part of it can change.
* `Value.field` is the value under a text key of a map.

## Main results

* `Value.beq_iff` spells `==` out.
* `==` is symmetric and transitive (`PartialEquivBEq`).
-/

namespace ListQuery

namespace Value

mutual

/-- The simplest value that is the same key. -/
def canonical : Value → Value
  | .bool b => .int (if b then 1 else 0)
  | .float x => (x.toInt?.map Value.int).getD (.float x)
  | .mark (.kind kind) => .text kind.name
  | .list items => .list (canonicalItems items)
  | .tuple items => .tuple (canonicalItems items)
  | .map entries => .map (canonicalEntries entries)
  | .test comparator operand => .test comparator (canonical operand)
  | .relation target => .relation (canonical target)
  | value => value

/-- The simplest forms of a sequence. -/
def canonicalItems : List Value → List Value
  | [] => []
  | item :: rest => canonical item :: canonicalItems rest

/-- The simplest forms of the entries of a map. -/
def canonicalEntries : List (Value × Value) → List (Value × Value)
  | [] => []
  | (key, value) :: rest => (canonical key, canonical value) :: canonicalEntries rest

end

mutual

/-- Whether no part of a value is the number that is none. -/
def isComparable : Value → Bool
  | .float x => x.kind ≠ .nan
  | .list items => areComparable items
  | .tuple items => areComparable items
  | .map entries => entriesComparable entries
  | .test _ operand => isComparable operand
  | .relation target => isComparable target
  | _ => true

/-- Whether no part of a sequence is the number that is none. -/
def areComparable : List Value → Bool
  | [] => true
  | item :: rest => isComparable item && areComparable rest

/-- Whether no part of the entries of a map is the number that is none. -/
def entriesComparable : List (Value × Value) → Bool
  | [] => true
  | (key, value) :: rest => isComparable key && isComparable value && entriesComparable rest

end

/-- Values are the same key where they have the same simplest form. -/
instance : BEq Value where
  beq a b := a.isComparable && b.isComparable && decide (a.canonical = b.canonical)

theorem beq_iff {a b : Value} : (a == b) = true ↔
    (a.isComparable = true ∧ b.isComparable = true) ∧ a.canonical = b.canonical := by
  change (a.isComparable && b.isComparable && decide (a.canonical = b.canonical)) = true ↔ _
  simp

instance : PartialEquivBEq Value where
  symm same := by
    obtain ⟨⟨left, right⟩, form⟩ := beq_iff.1 same
    exact beq_iff.2 ⟨⟨right, left⟩, form.symm⟩
  trans first second := by
    obtain ⟨⟨left, _⟩, form⟩ := beq_iff.1 first
    obtain ⟨⟨_, right⟩, form'⟩ := beq_iff.1 second
    exact beq_iff.2 ⟨⟨left, right⟩, form.trans form'⟩

/-- A value is the same key as itself unless some part of it is the number that is none. -/
theorem beq_self_iff {a : Value} : (a == a) = true ↔ a.isComparable = true := by
  simp [beq_iff]

/-- Texts are the same key exactly where they are equal. -/
@[simp]
theorem text_beq_text (s t : String) : (Value.text s == Value.text t) = decide (s = t) := by
  rw [Bool.eq_iff_iff, beq_iff]
  simp [isComparable, canonical]

mutual

/-- The first part of a value that can change. -/
def changeable? : Value → Option Value
  | .list items => some (.list items)
  | .map entries => some (.map entries)
  | .tuple items => firstChangeable? items
  | .test _ operand => changeable? operand
  | .relation target => changeable? target
  | _ => none

/-- The first part of some values that can change. -/
def firstChangeable? : List Value → Option Value
  | [] => none
  | item :: rest =>
    match changeable? item with
    | some part => some part
    | none => firstChangeable? rest

end

end Value

/-- A value that was to be a key, though a part of it can change. -/
structure UnfitKey where
  part : Value
  deriving DecidableEq

/-- What is wrong with such a key. -/
def UnfitKey.message (e : UnfitKey) : String := "unhashable type: '" ++ e.part.sort ++ "'"

namespace Value

/-- A value as a key. -/
def asKey (value : Value) : Except UnfitKey Value :=
  match value.changeable? with
  | some part => .error ⟨part⟩
  | none => .ok value

/-- Values as keys, by the first of them that cannot be one. -/
def asKeys (values : List Value) : Except UnfitKey (List Value) :=
  match firstChangeable? values with
  | some part => .error ⟨part⟩
  | none => .ok values

theorem asKey_eq_ok_iff {value key : Value} :
    value.asKey = .ok key ↔ value.changeable? = none ∧ value = key := by
  unfold asKey
  split <;> simp_all

mutual

/-- A value can change exactly where its simplest form can. -/
theorem changeable?_canonical_eq_none_iff (value : Value) :
    value.canonical.changeable? = none ↔ value.changeable? = none := by
  cases value with
  | float x => cases whole : x.toInt? <;> simp [canonical, changeable?, whole]
  | mark m => cases m <;> simp [canonical, changeable?]
  | tuple items =>
    simpa only [canonical, changeable?] using firstChangeable?_canonical_eq_none_iff items
  | test comparator operand =>
    simpa only [canonical, changeable?] using changeable?_canonical_eq_none_iff operand
  | relation target =>
    simpa only [canonical, changeable?] using changeable?_canonical_eq_none_iff target
  | _ => simp [canonical, changeable?]

theorem firstChangeable?_canonical_eq_none_iff (items : List Value) :
    firstChangeable? (canonicalItems items) = none ↔ firstChangeable? items = none := by
  cases items with
  | nil => simp [canonicalItems]
  | cons item rest =>
    have first := changeable?_canonical_eq_none_iff item
    have later := firstChangeable?_canonical_eq_none_iff rest
    rw [canonicalItems, firstChangeable?, firstChangeable?]
    cases here : item.changeable? <;> cases there : item.canonical.changeable? <;>
      simp_all

end

/-- What is the same key as something that cannot change cannot change either. -/
theorem changeable?_eq_none_of_beq {a b : Value} (same : (a == b) = true)
    (fit : a.changeable? = none) : b.changeable? = none := by
  have form := (beq_iff.1 same).2
  rwa [← changeable?_canonical_eq_none_iff, ← form, changeable?_canonical_eq_none_iff]

/-- The text that a value is does not depend on how the key is written. -/
theorem text?_canonical (value : Value) : value.canonical.text? = value.text? := by
  cases value with
  | float x => cases whole : x.toInt? <;> simp [canonical, text?, whole]
  | mark m => cases m <;> simp [canonical, text?]
  | _ => simp [canonical, text?]

theorem text?_eq_of_beq {a b : Value} (same : (a == b) = true) : a.text? = b.text? := by
  rw [← text?_canonical a, (beq_iff.1 same).2, text?_canonical]

/-- Keys that are the same text are the same key. -/
theorem beq_of_text? {a b : Value} {s : String} (left : a.text? = some s)
    (right : b.text? = some s) : (a == b) = true := by
  have form {v : Value} (text : v.text? = some s) :
      v.isComparable = true ∧ v.canonical = .text s := by
    cases v with
    | text t => exact ⟨rfl, congrArg Value.text (Option.some.inj text)⟩
    | mark m =>
      cases m with
      | kind kind => exact ⟨rfl, congrArg Value.text (Option.some.inj text)⟩
      | _ => cases text
    | _ => cases text
  exact beq_iff.2 ⟨⟨(form left).1, (form right).1⟩, (form left).2.trans (form right).2.symm⟩

theorem mapError_asKey_of_fit {ε : Type} {value : Value} (fit : value.changeable? = none)
    (f : UnfitKey → ε) : value.asKey.mapError f = .ok value := by
  rw [asKey_eq_ok_iff.2 ⟨fit, rfl⟩]
  rfl

/-- The value under a text key of a map; nothing where the key is missing. -/
def field (name : String) (entries : List (Value × Value)) : Value :=
  (Ordered.find? (.text name) entries).getD .null

end Value

end ListQuery
