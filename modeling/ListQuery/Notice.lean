import ListQuery.Value.Bound

/-!
# Notices

The library reports what it did, and above all what it dropped, by notices. Every
computation that can give one returns its notices in the order in which they arose,
beside its result; where a computation fails, those that arose before are kept.

## Main definitions

* `Notice` is the type of notices, with `Notice.level` and `Notice.message`.
* `Logged` is a result with notices.
* `Checked` is a computation that may fail besides; `Checked.Within` says which notices and
  errors it may come to.
-/

namespace ListQuery

/-- How grave a notice is. -/
inductive Level
  | debug
  | warning
  deriving DecidableEq

/-- What the library reports. -/
inductive Notice
  /-- A filter node is nested deeper than the bound and was left as it is. -/
  | tooDeep (bound : Bound)
  /-- A disjunction among the branches of a disjunction kept its first branch only. -/
  | nestedDisjunction (dropped : Nat)
  /-- A disjunction among the parts of a conjunction kept its first branch only. -/
  | conjoinedDisjunction (dropped : Nat)
  /-- The operand of a range was not a pair. -/
  | malformedRange (operand : Value)
  /-- A field had several operators, of which the first was applied. -/
  | discardedOperators (path : Option String) (applied : String) (discarded : List String)
  /-- Find options were assembled. -/
  | assembled (skip : Nat) (take : Option Bound) (relations : List Value)
  /-- An entity was registered again. -/
  | overwriting (entity : String)
  /-- An entity was registered. -/
  | registered (entity : String) (scalars relations : Nat)
  /-- A relation was attached to its owner. -/
  | attaching (target field owner : String)
  /-- The relations of a registry were resolved. -/
  | finalized (entities : Nat)
  /-- The input types of a registry were generated. -/
  | inputsBuilt (entities : Nat)
  /-- A filter field was left out of an input type. -/
  | fieldSkipped (entity field : String)
  /-- A raw expression went into a clause. -/
  | rawApplied (column : String)
  /-- A relation that the table does not have was not loaded. -/
  | relationSkipped (relation : Value) (table : String)
  deriving DecidableEq

namespace Notice

/-- How grave a notice is. -/
def level : Notice → Level
  | .tooDeep _ | .nestedDisjunction _ | .conjoinedDisjunction _ | .malformedRange _
  | .discardedOperators .. | .fieldSkipped .. | .rawApplied _ | .relationSkipped .. => .warning
  | .assembled .. | .overwriting _ | .registered .. | .attaching .. | .finalized _
  | .inputsBuilt _ => .debug

/-- The text of a notice. The numbers in it are written out whatever their length, as in
`Value.literal`; this concerns the bounds of `assembled`, which may be any whole numbers. -/
def message : Notice → String
  | .tooDeep bound =>
    "Filter nested deeper than " ++ bound.literal ++
      " levels; passing the remainder through unchanged"
  | .nestedDisjunction dropped =>
    "Nested OR inside OR collapsed to its first branch (" ++ toString dropped ++ " dropped)"
  | .conjoinedDisjunction dropped =>
    "Disjunction inside AND collapsed to its first branch (" ++ toString dropped ++ " dropped)"
  | .malformedRange operand =>
    "Malformed between value " ++ operand.literal ++ "; passing it through unchanged"
  | .discardedOperators path applied discarded =>
    "Field '" ++ path.getD "?" ++ "' has several operators; applying '" ++ applied ++
      "' and discarding " ++ listLiteral discarded
  | .assembled skip take relations =>
    "Assembled find options: skip=" ++ toString skip ++
      " take=" ++ (take.map Bound.literal).getD "None" ++
      " relations=" ++ (Value.list relations).literal
  | .overwriting entity => "Overwriting entity spec for " ++ entity
  | .registered entity scalars relations =>
    "Registered " ++ entity ++ " with " ++ toString scalars ++ " scalar field(s), " ++
      toString relations ++ " pending relation(s)"
  | .attaching target field owner =>
    "Appending " ++ target ++ " for " ++ field ++ " in " ++ owner
  | .finalized entities =>
    "Finalized relations for " ++ toString entities ++ " entities"
  | .inputsBuilt entities =>
    "Built GraphQL inputs for " ++ toString entities ++ " entities"
  | .fieldSkipped entity field =>
    "Skipping filter field " ++ entity ++ "." ++ field ++ ": name clashes with a combinator"
  | .rawApplied column => "Applying raw where expression on " ++ column
  | .relationSkipped relation table =>
    "Skipping eager load of unknown relation '" ++ relation.label ++ "' on " ++ table

end Notice

universe u

/-- A result and the notices that were given on the way to it, in order. -/
structure Logged (α : Type u) where
  value : α
  notices : List Notice
  deriving DecidableEq

namespace Logged

variable {α β : Type u}

@[ext]
theorem ext {first second : Logged α} (value : first.value = second.value)
    (notices : first.notices = second.notices) : first = second := by
  cases first
  cases second
  cases value
  cases notices
  rfl

/-- A result without notices. -/
def quiet (value : α) : Logged α := ⟨value, []⟩

/-- A notice, and nothing else. -/
def give (notice : Notice) : Logged PUnit := ⟨⟨⟩, [notice]⟩

/-- Goes on with a result; the notices of the second part follow those of the first. -/
def andThen (first : Logged α) (next : α → Logged β) : Logged β :=
  ⟨(next first.value).value, first.notices ++ (next first.value).notices⟩

instance : Monad Logged where
  pure := quiet
  bind := andThen

@[simp] theorem value_pure (x : α) : (pure x : Logged α).value = x := rfl

@[simp] theorem notices_pure (x : α) : (pure x : Logged α).notices = [] := rfl

@[simp] theorem value_bind (first : Logged α) (next : α → Logged β) :
    (first >>= next).value = (next first.value).value := rfl

@[simp] theorem notices_bind (first : Logged α) (next : α → Logged β) :
    (first >>= next).notices = first.notices ++ (next first.value).notices := rfl

@[simp] theorem value_map (f : α → β) (first : Logged α) :
    (f <$> first).value = f first.value := rfl

@[simp] theorem notices_map (f : α → β) (first : Logged α) :
    (f <$> first).notices = first.notices := List.append_nil _

end Logged

/-- A computation that may fail; the notices given before the failure are kept. -/
abbrev Checked (ε : Type u) := ExceptT ε Logged

namespace Checked

variable {ε α : Type u}

/-- The outcome of a computation and its notices. -/
def outcome (c : Checked ε α) : Logged (Except ε α) := c.run

/-- A computation that gives notices and does not fail. -/
def ofLogged (l : Logged α) : Checked ε α := ExceptT.lift l

/-- A computation that may fail and gives no notices. -/
def ofExcept (e : Except ε α) : Checked ε α := ExceptT.mk (.quiet e)

/-- Gives a notice. -/
def give (notice : Notice) : Checked ε PUnit := ofLogged (Logged.give notice)

variable {β : Type u}

@[simp] theorem outcome_pure (x : α) :
    (pure x : Checked ε α).outcome = ⟨.ok x, []⟩ := rfl

@[simp] theorem outcome_ofExcept (e : Except ε α) : (ofExcept e).outcome = ⟨e, []⟩ := rfl

@[simp] theorem outcome_ofLogged (l : Logged α) :
    (ofLogged l : Checked ε α).outcome = ⟨.ok l.value, l.notices⟩ := by
  simp [outcome, ofLogged, ExceptT.lift, ExceptT.run, ExceptT.mk, Functor.map, Logged.andThen,
    Logged.quiet]

@[simp] theorem outcome_give (notice : Notice) :
    (give notice : Checked ε PUnit).outcome = ⟨.ok ⟨⟩, [notice]⟩ := rfl

/-- A computation goes on where the first part succeeds. -/
theorem outcome_bind_of_ok {c : Checked ε α} {x : α} {notices : List Notice}
    (done : c.outcome = ⟨.ok x, notices⟩) (next : α → Checked ε β) :
    (c >>= next).outcome = ⟨(next x).outcome.value, notices ++ (next x).outcome.notices⟩ := by
  change Logged.andThen c.outcome _ = _
  rw [done]
  rfl

/-- A computation ends where the first part fails. -/
theorem outcome_bind_of_error {c : Checked ε α} {e : ε} {notices : List Notice}
    (failed : c.outcome = ⟨.error e, notices⟩) (next : α → Checked ε β) :
    (c >>= next).outcome = ⟨.error e, notices⟩ := by
  change Logged.andThen c.outcome _ = _
  rw [failed]
  exact congrArg (Logged.mk _) (List.append_nil notices)

/-- A computation succeeds if its first part does and what comes after that does too. -/
theorem value_bind_eq_ok_iff {c : Checked ε α} {next : α → Checked ε β} {y : β} :
    (c >>= next).outcome.value = .ok y ↔
      ∃ x, c.outcome.value = .ok x ∧ (next x).outcome.value = .ok y := by
  cases done : c.outcome with
  | mk result notices =>
    cases result with
    | error e => simp [outcome_bind_of_error done]
    | ok x => simp [outcome_bind_of_ok done]

/-- What a computation comes to does not depend on its notices. -/
theorem value_outcome_bind (c : Checked ε α) (next : α → Checked ε β) :
    (c >>= next).outcome.value = c.outcome.value >>= fun x => (next x).outcome.value := by
  cases done : c.outcome with
  | mk result notices =>
    cases result with
    | error e => rw [outcome_bind_of_error done]; rfl
    | ok x => rw [outcome_bind_of_ok done]; rfl

theorem value_outcome_map (f : α → β) (c : Checked ε α) :
    (f <$> c).outcome.value = f <$> c.outcome.value := by
  have run : (f <$> c).outcome = c.outcome >>= fun result =>
      match result with
      | .ok x => pure (.ok (f x))
      | .error e => pure (.error e) := rfl
  rw [run, Logged.value_bind]
  cases c.outcome.value <;> rfl

/-- The notices of a computation that goes on are followed by those of what comes after it. -/
theorem notices_bind_of_ok {c : Checked ε α} {x : α} (done : c.outcome.value = .ok x)
    (next : α → Checked ε β) :
    (c >>= next).outcome.notices = c.outcome.notices ++ (next x).outcome.notices := by
  cases run : c.outcome with
  | mk result notices =>
    obtain rfl : result = .ok x := by rw [run] at done; exact done
    rw [outcome_bind_of_ok run]

theorem notices_outcome_map (f : α → β) (c : Checked ε α) :
    (f <$> c).outcome.notices = c.outcome.notices := by
  cases run : c.outcome with
  | mk result notices =>
    cases result with
    | error e => exact congrArg Logged.notices (outcome_bind_of_error run _)
    | ok x =>
      exact (congrArg Logged.notices (outcome_bind_of_ok run _)).trans (List.append_nil notices)

theorem value_map_eq_ok_iff {f : α → β} {c : Checked ε α} {y : β} :
    (f <$> c).outcome.value = .ok y ↔ ∃ x, c.outcome.value = .ok x ∧ f x = y := by
  rw [value_outcome_map]
  cases c.outcome.value with
  | error e => exact ⟨nofun, nofun⟩
  | ok x => simp [Functor.map, Except.map]

/-- A computation fails if its first part does or what comes after that. -/
theorem value_bind_eq_error_iff {c : Checked ε α} {next : α → Checked ε β} {e : ε} :
    (c >>= next).outcome.value = .error e ↔
      c.outcome.value = .error e ∨
        ∃ x, c.outcome.value = .ok x ∧ (next x).outcome.value = .error e := by
  rw [value_outcome_bind]
  cases c.outcome.value with
  | error other => simp [bind, Except.bind]
  | ok x => simp [bind, Except.bind]

theorem value_map_eq_error_iff {f : α → β} {c : Checked ε α} {e : ε} :
    (f <$> c).outcome.value = .error e ↔ c.outcome.value = .error e := by
  rw [value_outcome_map]
  cases c.outcome.value <;> simp [Functor.map, Except.map]

/-- A computation succeeds. -/
def Succeeds (c : Checked ε α) : Prop := ∃ x, c.outcome.value = .ok x

@[simp] theorem succeeds_pure (x : α) : (pure x : Checked ε α).Succeeds := ⟨x, rfl⟩

@[simp] theorem succeeds_ofExcept {e : Except ε α} :
    (ofExcept e).Succeeds ↔ ∃ x, e = .ok x := Iff.rfl

@[simp] theorem succeeds_map {f : α → β} {c : Checked ε α} :
    (f <$> c).Succeeds ↔ c.Succeeds := by
  simp only [Succeeds, value_map_eq_ok_iff]
  exact ⟨fun ⟨_, x, done, _⟩ => ⟨x, done⟩, fun ⟨x, done⟩ => ⟨f x, x, done, rfl⟩⟩

theorem succeeds_bind {c : Checked ε α} {next : α → Checked ε β} :
    (c >>= next).Succeeds ↔ ∃ x, c.outcome.value = .ok x ∧ (next x).Succeeds := by
  simp only [Succeeds, value_bind_eq_ok_iff]
  exact ⟨fun ⟨y, x, done, later⟩ => ⟨x, done, y, later⟩,
    fun ⟨x, done, y, later⟩ => ⟨y, x, done, later⟩⟩

/-- A computation that does not succeed fails with an error. -/
theorem not_succeeds_iff {c : Checked ε α} :
    ¬ c.Succeeds ↔ ∃ e, c.outcome.value = .error e := by
  rw [Succeeds]
  cases c.outcome.value <;> simp

/-! ## Results -/

/-- What a computation comes to, if it succeeds. -/
def result? (c : Checked ε α) : Option α := c.outcome.value.toOption

@[simp] theorem result?_pure (x : α) : (pure x : Checked ε α).result? = some x := rfl

@[simp] theorem result?_ofExcept (e : Except ε α) : (ofExcept e).result? = e.toOption := rfl

@[simp] theorem result?_bind (c : Checked ε α) (next : α → Checked ε β) :
    (c >>= next).result? = c.result?.bind fun x => (next x).result? := by
  rw [result?, value_outcome_bind, result?]
  cases c.outcome.value <;> rfl

@[simp] theorem result?_map (f : α → β) (c : Checked ε α) :
    (f <$> c).result? = c.result?.map f := by
  rw [result?, value_outcome_map, result?]
  cases c.outcome.value <;> rfl

theorem result?_eq_some_iff {c : Checked ε α} {x : α} :
    c.result? = some x ↔ c.outcome.value = .ok x := by
  rw [result?]
  cases c.outcome.value <;> simp [Except.toOption]

theorem succeeds_iff_isSome {c : Checked ε α} : c.Succeeds ↔ c.result?.isSome = true := by
  simp only [Succeeds, Option.isSome_iff_exists, result?_eq_some_iff]

/-! ## What a computation may report -/

/-- All notices that a computation gives are of one sort, and so is the error if it fails. -/
structure Within (notices : Notice → Prop) (errors : ε → Prop) (c : Checked ε α) : Prop where
  notices : ∀ notice ∈ c.outcome.notices, notices notice
  errors : ∀ e, c.outcome.value = .error e → errors e

variable {notices : Notice → Prop} {errors : ε → Prop}

theorem within_pure (x : α) : (pure x : Checked ε α).Within notices errors :=
  ⟨List.forall_mem_nil _, nofun⟩

theorem within_ofExcept {e : Except ε α} (fault : ∀ error, e = .error error → errors error) :
    (ofExcept e).Within notices errors :=
  ⟨List.forall_mem_nil _, fault⟩

theorem within_give {notice : Notice} (given : notices notice) :
    (give notice : Checked ε PUnit).Within notices errors :=
  ⟨by simpa using given, nofun⟩

theorem within_ofLogged {l : Logged α} (given : ∀ notice ∈ l.notices, notices notice) :
    (ofLogged l : Checked ε α).Within notices errors :=
  ⟨by simpa using given, by simp⟩

theorem Within.bind {c : Checked ε α} {next : α → Checked ε β} (first : c.Within notices errors)
    (later : ∀ x, (next x).Within notices errors) : (c >>= next).Within notices errors := by
  obtain ⟨given, fault⟩ := first
  cases done : c.outcome with
  | mk result earlier =>
    rw [done] at given fault
    cases result with
    | error e =>
      constructor
      · rw [outcome_bind_of_error done]
        exact given
      · rw [outcome_bind_of_error done]
        rintro _ ⟨⟩
        exact fault e rfl
    | ok x =>
      constructor
      · rw [outcome_bind_of_ok done]
        exact List.forall_mem_append.2 ⟨given, (later x).notices⟩
      · rw [outcome_bind_of_ok done]
        exact (later x).errors

theorem Within.map {f : α → β} {c : Checked ε α} (first : c.Within notices errors) :
    (f <$> c).Within notices errors := first.bind fun x => within_pure (f x)

/-- Another error in place of the one that a computation fails with. -/
theorem Within.adapt {ε' : Type u} {f : ε → ε'} {c : Checked ε α} {errors : ε' → Prop}
    (first : c.Within notices fun e => errors (f e)) :
    Within notices errors (ExceptT.adapt f c) := by
  have run : outcome (ExceptT.adapt f c) = Except.mapError f <$> c.outcome := rfl
  constructor
  · rw [run, Logged.notices_map]
    exact first.notices
  · rw [run, Logged.value_map]
    intro e failed
    cases done : c.outcome.value with
    | ok x => rw [done] at failed; cases failed
    | error fault =>
      rw [done] at failed
      cases failed
      exact first.errors fault done

end Checked

end ListQuery
