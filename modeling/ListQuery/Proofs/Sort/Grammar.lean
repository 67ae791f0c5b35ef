import ListQuery.Sort.Spec
import Mathlib.Tactic.ByContra

/-!
# The grammar of sort orders

A sort order conforms to a specification if it is nothing, or a map whose keys all have
slots and whose values are nothing, a direction in any case where the slot is a scalar, or
again a conforming map where the slot is a relation. Specifications may refer to one
another in circles and some references may lead nowhere, but an order is a finite tree, so
that following the order ends.

An order that does not conform has entries at fault. Walking through the order depth first
and from left to right, every entry is visited under the specification that its own map is
checked by, and whether it is at fault is decided entry by entry. Normalization reports the
first of these faults.

## Main definitions

* `SortSpec.Conforms` is the grammar, `SortSpec.Fits` that of a single entry.
* `SortSpec.visits` walks through an order, `SortVisit.fault?` judges one entry, and
  `SortSpec.faults` lists the faults of an order.
* `Value.normalOrder` is the normal form of an order, without regard to a specification.

## Main results

* `SortSpec.normalizeEntries_eq`: what normalization returns, by the first fault.
* `SortSpec.visits_faultless_iff`: only conforming orders have no faults.
* `SortSpec.normalize_iff_conforms` puts the two together.
-/

namespace ListQuery

/-! ## Induction over the maps of a value -/

/-- To prove something of all lists of entries, prove it of a list whose later entries have
it, and so have the entries of its first value if that is a map. -/
theorem Value.entries_induction {motive : List (Value × Value) → Prop} (nil : motive [])
    (cons : ∀ key value rest, (∀ nested, value = .map nested → motive nested) → motive rest →
      motive ((key, value) :: rest)) (entries : List (Value × Value)) : motive entries := by
  match entries with
  | [] => exact nil
  | (key, value) :: rest =>
    exact cons key value rest
      (fun nested _ => Value.entries_induction nil cons nested)
      (Value.entries_induction nil cons rest)
termination_by sizeOf entries
decreasing_by
  · subst_vars
    simp only [List.cons.sizeOf_spec, Prod.mk.sizeOf_spec, Value.map.sizeOf_spec]
    omega
  · simp only [List.cons.sizeOf_spec]
    omega

/-! ## Normal forms -/

mutual

/-- The normal form of a sort order: entries with no value are left out, and directions are
in capitals. -/
def Value.normalOrder : Value → Value
  | .text s => .text (capitals s)
  | .map entries => .map (normalEntries entries)
  | value => value

/-- The normal form of the entries of a sort order. -/
def Value.normalEntries : List (Value × Value) → List (Value × Value)
  | [] => []
  | (key, value) :: rest =>
    if value = .null then normalEntries rest else (key, value.normalOrder) :: normalEntries rest

end

/-- The word that a text is in capitals is one of the two directions. -/
def IsDirectionText (s : String) : Prop := capitals s = "ASC" ∨ capitals s = "DESC"

instance : DecidablePred IsDirectionText := fun s =>
  inferInstanceAs (Decidable (capitals s = "ASC" ∨ capitals s = "DESC"))

namespace SortSpec

variable {lookup : Value → Option SortSpec} {spec : SortSpec}

/-! ## The grammar -/

/-- The entries that a specification admits. -/
inductive Fits (lookup : Value → Option SortSpec) : SortSpec → Value → Value → Prop
  | null {spec : SortSpec} {key : Value} {slot : SortSlot} (known : spec.slot? key = some slot) :
      Fits lookup spec key .null
  | direction {spec : SortSpec} {key : Value} {kind : FieldKind} {text : String}
      (leaf : spec.slot? key = some (.leaf kind)) (named : IsDirectionText text) :
      Fits lookup spec key (.text text)
  | nested {spec inner : SortSpec} {key target : Value} {entries : List (Value × Value)}
      (ref : spec.slot? key = some (.ref target)) (resolved : lookup target = some inner)
      (each : ∀ entry ∈ entries, Fits lookup inner entry.1 entry.2) :
      Fits lookup spec key (.map entries)

/-- The sort orders that a specification admits. -/
def Conforms (lookup : Value → Option SortSpec) (spec : SortSpec) (order : Value) : Prop :=
  order = .null ∨ ∃ entries, order = .map entries ∧
    ∀ entry ∈ entries, Fits lookup spec entry.1 entry.2

end SortSpec

/-! ## Faults -/

/-- An entry of a sort order, where it was found, and the specification it is checked by. -/
structure SortVisit where
  spec : SortSpec
  path : List String
  key : Value
  value : Value

/-- What is wrong with an entry, without regard to what is nested in it. -/
def SortVisit.fault? (lookup : Value → Option SortSpec) (v : SortVisit) : Option SortError :=
  match v.spec.slot? v.key, v.value with
  | none, value => some ⟨v.spec.entity, v.path, value, .unknownField⟩
  | some _, .null => none
  | some (.leaf _), .text s =>
    if IsDirectionText s then none else some ⟨v.spec.entity, v.path, .text s, .notADirection⟩
  | some (.leaf _), value => some ⟨v.spec.entity, v.path, value, .notADirection⟩
  | some (.ref target), value =>
    match lookup target, value with
    | none, value => some ⟨v.spec.entity, v.path, value, .unresolved target⟩
    | some _, .map _ => none
    | some inner, value => some ⟨inner.entity, v.path, value, .notAnObject⟩

namespace SortSpec

/-- The specification by which what is nested under a key is checked, if any. -/
def inner? (lookup : Value → Option SortSpec) (spec : SortSpec) (key : Value) : Option SortSpec :=
  match spec.slot? key with
  | some (.ref target) => lookup target
  | _ => none

mutual

/-- The entries of a map of a sort order and all that is nested in them, depth first and from
left to right. -/
def visits (lookup : Value → Option SortSpec) (spec : SortSpec) (path : List String) :
    List (Value × Value) → List SortVisit
  | [] => []
  | (key, value) :: rest =>
    ⟨spec, path ++ [key.label], key, value⟩ ::
      (visitsWithin lookup (spec.inner? lookup key) (path ++ [key.label]) value ++
        visits lookup spec path rest)

/-- The entries nested in a value, if there is a specification to check them by. -/
def visitsWithin (lookup : Value → Option SortSpec) (inner : Option SortSpec)
    (path : List String) : Value → List SortVisit
  | .map entries =>
    match inner with
    | some spec => visits lookup spec path entries
    | none => []
  | _ => []

end

/-- All that is wrong with a sort order, depth first and from left to right. -/
def faults (lookup : Value → Option SortSpec) (spec : SortSpec) : Value → List SortError
  | .null => []
  | .map entries => (spec.visits lookup [] entries).filterMap (SortVisit.fault? lookup)
  | other => [⟨spec.entity, [], other, .notAnObject⟩]

/-! ## What normalization returns -/

variable {lookup : Value → Option SortSpec}

/-- The outcome of checks: the first of the faults, or the result where there is none. -/
def outcomeOf {α : Type} (faults : List SortError) (result : α) : Except SortError α :=
  match faults with
  | [] => .ok result
  | first :: _ => .error first

theorem map_outcomeOf {α β : Type} (faults : List SortError) (x : α) (f : α → β) :
    f <$> outcomeOf faults x = outcomeOf faults (f x) := by
  cases faults <;> rfl

/-- Checks one after the other report the first fault of all. -/
theorem outcomeOf_bind {α β γ : Type} (first second : List SortError) (x : α) (y : β)
    (join : α → β → γ) :
    (outcomeOf first x >>= fun a => join a <$> outcomeOf second y) =
      outcomeOf (first ++ second) (join x y) := by
  cases first <;> cases second <;> rfl

/-- A text names a direction where its capitals are the word of one. -/
theorem exists_direction {s : String} (named : IsDirectionText s) :
    ∃ d, SortDirection.ofValue? (.text s) = some d ∧ d.word = capitals s := by
  have read : SortDirection.ofValue? (.text s) = SortDirection.ofWord? (capitals s) := rfl
  rcases named with word | word
  · exact ⟨.ascending, by rw [read, word]; rfl, word.symm⟩
  · exact ⟨.descending, by rw [read, word]; rfl, word.symm⟩

theorem ofValue?_eq_none {s : String} (nameless : ¬ IsDirectionText s) :
    SortDirection.ofValue? (.text s) = none := by
  have read : SortDirection.ofValue? (.text s) = SortDirection.ofWord? (capitals s) := rfl
  rw [IsDirectionText, not_or] at nameless
  rw [read, SortDirection.ofWord?, if_neg nameless.1, if_neg nameless.2]

theorem normalizeAt_of_not_map {spec : SortSpec} {path : List String} {value : Value}
    (noMap : ∀ entries, value ≠ .map entries) :
    normalizeAt lookup spec path value = .error ⟨spec.entity, path, value, .notAnObject⟩ := by
  cases value with
  | map entries => exact absurd rfl (noMap entries)
  | _ => rfl

/-- Normalizing entries gives the first of their faults, or else their normal form. -/
theorem normalizeEntries_eq (entries : List (Value × Value)) :
    ∀ (spec : SortSpec) (path : List String), normalizeEntries lookup spec path entries =
      outcomeOf ((visits lookup spec path entries).filterMap (SortVisit.fault? lookup))
        (Value.normalEntries entries) := by
  induction entries using Value.entries_induction with
  | nil => intro spec path; simp [normalizeEntries, visits, outcomeOf, Value.normalEntries]
  | cons key value rest nested ih =>
    intro spec path
    -- the cases of a visit: no slot, no value, a scalar, a relation
    cases slot : spec.slot? key with
    | none => simp [normalizeEntries, visits, slot, SortVisit.fault?, outcomeOf]
    | some slot' =>
      by_cases null : value = .null
      · subst null
        simp [normalizeEntries, visits, visitsWithin, slot, SortVisit.fault?,
          Value.normalEntries, ih]
      · cases slot' with
        | leaf kind =>
          cases value with
          | text s =>
            by_cases named : IsDirectionText s
            · obtain ⟨d, read, word⟩ := exists_direction named
              simp [normalizeEntries, visits, visitsWithin, slot, read, word, SortVisit.fault?,
                named, ih, Value.normalEntries, Value.normalOrder, map_outcomeOf]
            · simp [normalizeEntries, visits, slot, ofValue?_eq_none named, SortVisit.fault?,
                named, outcomeOf]
          | null => exact absurd rfl null
          | _ =>
            simp [normalizeEntries, visits, slot, SortDirection.ofValue?, SortVisit.fault?,
              outcomeOf]
        | ref target =>
          cases found : lookup target with
          | none => simp [normalizeEntries, visits, slot, null, found, SortVisit.fault?, outcomeOf]
          | some inner =>
            cases value with
            | map entries =>
              -- faults within the nested map come before those of the later entries
              simp [normalizeEntries, normalizeAt, visits, visitsWithin, inner?, slot, found,
                SortVisit.fault?, nested entries rfl, ih, Value.normalEntries, Value.normalOrder,
                outcomeOf_bind]
            | null => exact absurd rfl null
            | _ =>
              simp [normalizeEntries, visits, slot, found, SortVisit.fault?, outcomeOf,
                normalizeAt_of_not_map, bind, Except.bind]

/-! ## Only conforming orders have no faults -/

/-- An entry fits if it is not at fault itself and nothing nested in it is. -/
theorem fits_iff {key value : Value}
    (nested : ∀ entries, value = .map entries → ∀ (spec : SortSpec) (path : List String),
      (∀ v ∈ visits lookup spec path entries, v.fault? lookup = none) ↔
        ∀ entry ∈ entries, Fits lookup spec entry.1 entry.2)
    (spec : SortSpec) (path : List String) :
    Fits lookup spec key value ↔ SortVisit.fault? lookup ⟨spec, path, key, value⟩ = none ∧
      ∀ v ∈ visitsWithin lookup (spec.inner? lookup key) path value, v.fault? lookup = none := by
  constructor
  · intro fits
    cases fits with
    | null known => simp [SortVisit.fault?, known, visitsWithin]
    | direction leaf named => simp [SortVisit.fault?, leaf, named, visitsWithin]
    | nested ref resolved each =>
      have clean := (nested _ rfl _ path).2 each
      simpa [SortVisit.fault?, ref, resolved, visitsWithin, inner?] using clean
  · rintro ⟨faultless, within⟩
    -- a slot leaves one kind of value, or a visit to the entry would meet a fault
    cases slot : spec.slot? key with
    | none => simp [SortVisit.fault?, slot] at faultless
    | some slot' =>
      cases slot' with
      | leaf kind =>
        cases value with
        | null => exact .null slot
        | text s => exact .direction slot (by simpa [SortVisit.fault?, slot] using faultless)
        | _ => simp [SortVisit.fault?, slot] at faultless
      | ref target =>
        cases found : lookup target with
        | none =>
          cases value with
          | null => exact .null slot
          | _ => simp [SortVisit.fault?, slot, found] at faultless
        | some inner =>
          cases value with
          | null => exact .null slot
          | map entries =>
            have clean : ∀ v ∈ visits lookup inner path entries, v.fault? lookup = none := by
              simpa [visitsWithin, inner?, slot, found] using within
            exact .nested slot found ((nested entries rfl inner path).1 clean)
          | _ => simp [SortVisit.fault?, slot, found] at faultless

/-- The entries of a map fit exactly where a walk through them meets no fault. -/
theorem visits_faultless_iff (entries : List (Value × Value)) :
    ∀ (spec : SortSpec) (path : List String),
      (∀ v ∈ visits lookup spec path entries, v.fault? lookup = none) ↔
        ∀ entry ∈ entries, Fits lookup spec entry.1 entry.2 := by
  induction entries using Value.entries_induction with
  | nil => intro spec path; simp [visits]
  | cons key value rest nested ih =>
    intro spec path
    rw [List.forall_mem_cons, fits_iff nested spec (path ++ [key.label]), ← ih spec path, visits,
      List.forall_mem_cons, List.forall_mem_append, and_assoc]

/-- The sort orders without faults are those that conform. -/
theorem faults_eq_nil_iff {spec : SortSpec} {order : Value} :
    spec.faults lookup order = [] ↔ spec.Conforms lookup order := by
  cases order with
  | null => simp [faults, Conforms]
  | map entries => simp [faults, Conforms, List.filterMap_eq_nil_iff, visits_faultless_iff]
  | _ => simp [faults, Conforms]

/-- Normalizing a sort order gives the first of its faults, or else its normal form. -/
theorem normalize_eq (spec : SortSpec) (order : Value) :
    spec.normalize lookup order = outcomeOf (spec.faults lookup order) order.normalOrder := by
  cases order with
  | null => rfl
  | map entries =>
    simp [normalize, normalizeAt, normalizeEntries_eq, map_outcomeOf, faults, Value.normalOrder]
  | _ => rfl

/-! ## Normal forms are normal -/

theorem mem_normalEntries {entries : List (Value × Value)} {entry : Value × Value} :
    entry ∈ Value.normalEntries entries ↔
      ∃ key value, (key, value) ∈ entries ∧ value ≠ .null ∧ (key, value.normalOrder) = entry := by
  induction entries with
  | nil => simp [Value.normalEntries]
  | cons first rest ih =>
    obtain ⟨key, value⟩ := first
    by_cases null : value = .null
    · simp only [Value.normalEntries, null, if_true, ih, List.mem_cons, Prod.mk.injEq]
      refine exists₂_congr fun key' value' => ?_
      constructor
      · exact fun ⟨there, filled, same⟩ => ⟨Or.inr there, filled, same⟩
      · rintro ⟨⟨-, rfl⟩ | there, filled, same⟩
        · exact absurd rfl filled
        · exact ⟨there, filled, same⟩
    · simp only [Value.normalEntries, null, if_false, List.mem_cons, ih, Prod.mk.injEq]
      constructor
      · rintro (rfl | ⟨key', value', there, rest⟩)
        · exact ⟨key, value, Or.inl ⟨rfl, rfl⟩, null, rfl⟩
        · exact ⟨key', value', Or.inr there, rest⟩
      · rintro ⟨key', value', ⟨rfl, rfl⟩ | there, filled, same⟩
        · exact Or.inl same.symm
        · exact Or.inr ⟨key', value', there, filled, same⟩

theorem normalOrder_ne_null {value : Value} (filled : value ≠ .null) :
    value.normalOrder ≠ .null := by
  cases value with
  | null => exact absurd rfl filled
  | _ => simp [Value.normalOrder]

/-- Entries with values that are in normal form are left as they are. -/
theorem normalEntries_of_normal {entries : List (Value × Value)}
    (normal : ∀ entry ∈ entries, entry.2 ≠ .null ∧ entry.2.normalOrder = entry.2) :
    Value.normalEntries entries = entries := by
  induction entries with
  | nil => rfl
  | cons entry rest ih =>
    obtain ⟨key, value⟩ := entry
    obtain ⟨⟨filled, same⟩, later⟩ := List.forall_mem_cons.1 normal
    simp only at filled same
    rw [Value.normalEntries, if_neg filled, same, ih later]

/-- The normal form of a fitting entry fits, and is its own normal form. -/
theorem Fits.normalOrder {spec : SortSpec} {key value : Value}
    (fits : Fits lookup spec key value) :
    Fits lookup spec key value.normalOrder ∧
      value.normalOrder.normalOrder = value.normalOrder := by
  induction fits with
  | null known => exact ⟨.null known, rfl⟩
  | @direction spec key kind text leaf named =>
    -- both directions are written in capitals
    have same : capitals (capitals text) = capitals text := by
      rcases named with word | word <;> rw [word] <;> rfl
    refine ⟨.direction leaf ?_, congrArg Value.text same⟩
    rwa [IsDirectionText, same]
  | @nested spec inner key target entries ref resolved each ih =>
    constructor
    · refine .nested ref resolved fun entry there => ?_
      obtain ⟨key', value', among, -, rfl⟩ := mem_normalEntries.1 there
      exact (ih (key', value') among).1
    · refine congrArg Value.map (normalEntries_of_normal fun entry there => ?_)
      obtain ⟨key', value', among, filled, rfl⟩ := mem_normalEntries.1 there
      exact ⟨normalOrder_ne_null filled, (ih (key', value') among).2⟩

/-- The normal form of a conforming order conforms, and is its own normal form. -/
theorem Conforms.normalOrder {spec : SortSpec} {order : Value}
    (conforms : spec.Conforms lookup order) :
    spec.Conforms lookup order.normalOrder ∧
      order.normalOrder.normalOrder = order.normalOrder := by
  rcases conforms with rfl | ⟨entries, rfl, each⟩
  · exact ⟨Or.inl rfl, rfl⟩
  · have fitting : ∀ entry ∈ Value.normalEntries entries,
        Fits lookup spec entry.1 entry.2 ∧ entry.2 ≠ .null ∧ entry.2.normalOrder = entry.2 := by
      intro entry there
      obtain ⟨key, value, among, filled, rfl⟩ := mem_normalEntries.1 there
      have normal := (each (key, value) among).normalOrder
      exact ⟨normal.1, normalOrder_ne_null filled, normal.2⟩
    exact ⟨Or.inr ⟨_, rfl, fun entry there => (fitting entry there).1⟩,
      congrArg Value.map (normalEntries_of_normal fun entry there => (fitting entry there).2)⟩

/-! ## Validation -/

/-- Normalization accepts exactly the conforming orders. What it returns is the normal form,
which it returns unchanged when asked again; and where it refuses an order, it reports the
first fault that a walk through the order meets. -/
theorem normalize_iff_conforms (lookup : Value → Option SortSpec) (spec : SortSpec)
    (order : Value) :
    ((∃ normal, spec.normalize lookup order = .ok normal) ↔ spec.Conforms lookup order) ∧
      (∀ normal, spec.normalize lookup order = .ok normal →
        normal = order.normalOrder ∧ spec.normalize lookup normal = .ok normal) ∧
      (¬ spec.Conforms lookup order → ∃ first, (spec.faults lookup order).head? = some first ∧
        spec.normalize lookup order = .error first) := by
  have accepted (order : Value) (conforms : spec.Conforms lookup order) :
      spec.normalize lookup order = .ok order.normalOrder := by
    rw [normalize_eq, faults_eq_nil_iff.2 conforms, outcomeOf]
  have refused (astray : ¬ spec.Conforms lookup order) :
      ∃ first, (spec.faults lookup order).head? = some first ∧
        spec.normalize lookup order = .error first := by
    cases found : spec.faults lookup order with
    | nil => exact absurd (faults_eq_nil_iff.1 found) astray
    | cons first rest => exact ⟨first, rfl, by rw [normalize_eq, found, outcomeOf]⟩
  have decided : ∀ normal, spec.normalize lookup order = .ok normal →
      spec.Conforms lookup order := by
    intro normal done
    by_contra astray
    obtain ⟨first, -, failed⟩ := refused astray
    rw [done] at failed
    cases failed
  -- with `decided` the three parts follow from `accepted` and `refused`
  refine ⟨⟨fun ⟨normal, done⟩ => decided normal done, fun conforms => ⟨_, accepted _ conforms⟩⟩,
    fun normal done => ?_, refused⟩
  have conforms := decided normal done
  rw [accepted order conforms] at done
  obtain rfl := Except.ok.inj done
  have again := conforms.normalOrder
  exact ⟨rfl, by rw [accepted _ again.1, again.2]⟩

end SortSpec

end ListQuery
