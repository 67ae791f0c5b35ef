import ListQuery.Registry.Bootstrap

/-!
# The history of a registry

A registry goes through registrations and attempts to finalize it, in any order. An
operation that fails leaves the registry as it was. The history of a run lists the
registrations that succeeded, each with the fields it carried, and it determines the
registry at the end of the run: as long as nothing is finalized the registry is what one
gets by writing the entries of the history one after the other, and from then on it is the
completion of that registry.

## Main definitions

* `Registry.Operation` is an operation, `Registry.run` runs a list of them.
* `Registry.history` lists the registrations of a run that succeed, oldest first.
* `Registry.collected` is the registry that a history leaves behind, `Registry.completed` what
  finalizing makes of a registry.
* `Registry.Reflects` relates a registry to its history, `Registry.Finalized` a registry that
  nothing can be added to.

## Main results

* `Registry.of_register`, `Registry.of_finalize`: what the operations do where they succeed.
* `Registry.Reflects.step` and `Registry.Reflects.run`: a registry keeps reflecting its
  history.
* `Registry.finalized_of_run`: what a run that ends in finalizing leaves behind.
-/

namespace ListQuery

/-- The class under another name for its entity, if one is given. -/
def EntityClass.renamed (name? : Option Value) (c : EntityClass) : EntityClass :=
  { c with entityName := name?.getD c.entityName }

/-- The name under which an entity is registered. -/
def Registrant.name : Registrant → Value
  | .declared c => c.registeredName
  | .listed name _ => name

/-- What is listed as the fields of an entity. -/
def Registrant.items : Registrant → List FieldItem
  | .declared c => c.fields.map .field
  | .listed _ items => items

namespace Registry

/-- An operation that may change a registry. -/
inductive Operation
  | enter (registrant : Registrant)
  /-- Registers the entity of a class, under another name if one is given. -/
  | enterAs (name? : Option Value) (c : EntityClass)
  | finalize

/-- The entity that an operation registers, if it registers one. -/
def Operation.registrant? : Operation → Option Registrant
  | .enter registrant => some registrant
  | .enterAs name? c => some (.declared (c.renamed name?))
  | .finalize => none

/-- What a registry is after an operation: what the operation returns, or the registry as it
was where the operation fails. -/
def settle {ε : Type} (r : Registry) (done : Checked ε Registry) : Registry :=
  match done.outcome.value with
  | .ok next => next
  | .error _ => r

/-- A registry after an operation. -/
def step (r : Registry) (op : Operation) : Registry :=
  match op.registrant? with
  | some registrant => r.settle (r.enter registrant)
  | none => r.settle r.finalize

/-- A registry after some operations. -/
def run (r : Registry) (ops : List Operation) : Registry := ops.foldl step r

/-- The entity that an operation registers and the fields it carries, if it succeeds in
registering one. -/
def registered? (r : Registry) (op : Operation) : Option (Value × List Field) :=
  op.registrant?.bind fun registrant =>
    match (r.enter registrant).outcome.value with
    | .ok _ => (FieldItem.fields? registrant.items).map (registrant.name, ·)
    | .error _ => none

/-- The registrations that succeed while some operations run, in their order. -/
def history (r : Registry) : List Operation → List (Value × List Field)
  | [] => []
  | op :: rest => (r.registered? op).toList ++ history (r.step op) rest

/-- The fields that the last registration of a name carried. -/
def lastFields? (history : List (Value × List Field)) (name : Value) : Option (List Field) :=
  Ordered.find? name history.reverse

/-- The registry that registrations leave behind. -/
def collected (config : Config) (history : List (Value × List Field)) : Registry where
  config := config
  entries := Ordered.ofEntries <| history.map fun entry =>
    (entry.1, Entry.collecting entry.1 entry.2)
  finalized := false

/-- A registry with all its relations attached. -/
def completed (r : Registry) : Registry where
  config := r.config
  entries := r.entries.map fun entry => (entry.1, entry.2.complete entry.1)
  finalized := true

/-! ## What the operations do -/

theorem eq_field_of_checkField {entity : Value} {item : FieldItem} {f : Field}
    (checked : checkField entity item = .ok f) : item = .field f := by
  cases item with
  | stray value => cases checked
  | field g =>
    rw [checkField] at checked
    split at checked
    · cases checked
    · split at checked
      · cases key : g.name.asKey with
        | error e => rw [key] at checked; cases checked
        | ok name => rw [key] at checked; cases checked; rfl
      · cases checked

/-- Items that are fit to be fields are fields. -/
theorem fields?_of_checkFields {entity : Value} {items : List FieldItem} :
    ∀ {fields : List Field}, checkFields entity items = .ok fields →
      FieldItem.fields? items = some fields := by
  induction items with
  | nil =>
    intro fields checked
    cases checked
    rfl
  | cons item rest ih =>
    intro fields checked
    rw [checkFields] at checked
    cases first : checkField entity item with
    | error e => rw [first] at checked; cases checked
    | ok f =>
      cases later : checkFields entity rest with
      | error e => rw [first, later] at checked; cases checked
      | ok others =>
        rw [first, later] at checked
        cases checked
        rw [eq_field_of_checkField first, FieldItem.fields?, ih later, Option.map_some]

theorem key_of_mapError {name key : Value}
    (done : name.asKey.mapError RegistrationError.unfitName = .ok key) :
    name.changeable? = none ∧ key = name := by
  cases asked : name.asKey with
  | error e => rw [asked] at done; cases done
  | ok other =>
    rw [asked] at done
    obtain ⟨fit, rfl⟩ := Value.asKey_eq_ok_iff.1 asked
    cases done
    exact ⟨fit, rfl⟩

/-- A registration that succeeds writes the entry of the entity, and changes nothing else. -/
theorem of_register {r next : Registry} {name : Value} {items : List FieldItem}
    {spec : EntitySpec} (done : (r.register name items).outcome.value = .ok (next, spec)) :
    r.finalized = false ∧ name.changeable? = none ∧
      ∃ fields, FieldItem.fields? items = some fields ∧
        next =
          { r with entries := Ordered.insert name (Entry.collecting name fields) r.entries } := by
  rw [register] at done
  split at done
  · cases done
  · next collecting =>
    split at done
    · cases done
    · obtain ⟨fields, checked, later⟩ := Checked.value_bind_eq_ok_iff.1 done
      obtain ⟨key, named, written⟩ := Checked.value_bind_eq_ok_iff.1 later
      obtain ⟨fit, same⟩ := key_of_mapError named
      subst same
      have result : next =
          { r with entries := Ordered.insert key (Entry.collecting key fields) r.entries } := by
        -- whether the name is new only decides about a notice
        split at written
        · obtain ⟨_, _, noted⟩ := Checked.value_bind_eq_ok_iff.1 written
          obtain ⟨_, _, last⟩ := Checked.value_bind_eq_ok_iff.1 noted
          cases last
          rfl
        · obtain ⟨_, _, last⟩ := Checked.value_bind_eq_ok_iff.1 written
          cases last
          rfl
      exact ⟨by simpa using collecting, fit, fields, fields?_of_checkFields checked, result⟩

/-- Finalizing succeeds where no relation leads nowhere, or where it was done before. -/
theorem of_finalize {r next : Registry} (done : r.finalize.outcome.value = .ok next) :
    (r.finalized = true ∧ next = r) ∨
      (r.finalized = false ∧ r.dangling? = none ∧ next = r.completed) := by
  rw [finalize] at done
  split at done
  · next finalized =>
    cases done
    exact Or.inl ⟨finalized, rfl⟩
  · next collecting =>
    split at done
    · cases done
    · next resolved =>
      cases done
      exact Or.inr ⟨by simpa using collecting, resolved, rfl⟩

theorem enter_eq (r : Registry) (registrant : Registrant) :
    r.enter registrant = Prod.fst <$> r.register registrant.name registrant.items := by
  cases registrant <;> rfl

/-- An operation registers an entity, or finalizes the registry, or changes nothing. -/
theorem step_cases (r : Registry) (op : Operation) :
    (r.registered? op = none ∧ r.step op = r) ∨
      (r.registered? op = none ∧ r.finalized = false ∧ r.dangling? = none ∧
        r.step op = r.completed) ∨
      ∃ name fields, r.registered? op = some (name, fields) ∧ r.finalized = false ∧
        name.changeable? = none ∧ r.step op =
          { r with entries := Ordered.insert name (Entry.collecting name fields) r.entries } := by
  rw [registered?, step]
  cases op.registrant? with
  | none =>
    rw [settle]
    cases done : r.finalize.outcome.value with
    | error e => exact Or.inl ⟨rfl, rfl⟩
    | ok next =>
      rcases of_finalize done with ⟨-, same⟩ | ⟨collecting, resolved, complete⟩
      · exact Or.inl ⟨rfl, same⟩
      · exact Or.inr (Or.inl ⟨rfl, collecting, resolved, complete⟩)
  | some registrant =>
    simp only [settle, Option.bind_some]
    cases done : (r.enter registrant).outcome.value with
    | error e => exact Or.inl ⟨rfl, rfl⟩
    | ok next =>
      rw [enter_eq, Checked.value_outcome_map] at done
      cases entered : (r.register registrant.name registrant.items).outcome.value with
      | error e => rw [entered] at done; cases done
      | ok both =>
        obtain ⟨collecting, fit, fields, listed, written⟩ := of_register entered
        rw [entered] at done
        cases done
        have carried : (FieldItem.fields? registrant.items).map (registrant.name, ·) =
            some (registrant.name, fields) := by rw [listed, Option.map_some]
        exact Or.inr (Or.inr ⟨registrant.name, fields, carried, collecting, fit, written⟩)

/-! ## Registries reflect their histories -/

/-- A registry is what its history makes of an empty one: the registry that was collected, or
the completion of that registry if none of its relations leads nowhere. -/
structure Reflects (config : Config) (past : List (Value × List Field)) (r : Registry) : Prop where
  fit : ∀ entry ∈ past, entry.1.changeable? = none
  state : r = collected config past ∨
    r = (collected config past).completed ∧ (collected config past).dangling? = none

theorem reflects_empty (config : Config) : Reflects config [] (empty config) where
  fit := by simp
  state := Or.inl rfl

variable {config : Config} {past : List (Value × List Field)} {r : Registry}

theorem collected_concat (config : Config) (past : List (Value × List Field)) (name : Value)
    (fields : List Field) : collected config (past ++ [(name, fields)]) =
      { collected config past with
        entries := Ordered.insert name (Entry.collecting name fields)
          (collected config past).entries } := by
  simp only [collected, List.map_append, List.map_cons, List.map_nil, Ordered.ofEntries_concat]

/-- An operation that succeeds in registering an entity adds to the history, and the registry
goes on reflecting it. -/
theorem Reflects.step (reflects : Reflects config past r) (op : Operation) :
    Reflects config (past ++ (r.registered? op).toList) (r.step op) := by
  rcases r.step_cases op with ⟨none, same⟩ | ⟨none, collecting, resolved, complete⟩ |
      ⟨name, fields, entered, collecting, fit, written⟩
  · rw [none, same, Option.toList_none, List.append_nil]
    exact reflects
  · rw [none, complete, Option.toList_none, List.append_nil]
    rcases reflects.state with rfl | ⟨rfl, -⟩
    · exact ⟨reflects.fit, Or.inr ⟨rfl, resolved⟩⟩
    · cases collecting
  · rw [entered, written, Option.toList_some]
    constructor
    · intro entry there
      rcases List.mem_append.1 there with earlier | new
      · exact reflects.fit entry earlier
      · rw [List.mem_singleton.1 new]
        exact fit
    · rcases reflects.state with rfl | ⟨rfl, -⟩
      · exact Or.inl (collected_concat config past name fields).symm
      · -- a completed registry takes no more registrations
        cases collecting

/-- A registry reflects its history all along a run. -/
theorem Reflects.run (ops : List Operation) :
    ∀ {past : List (Value × List Field)} {r : Registry}, Reflects config past r →
      Reflects config (past ++ r.history ops) (r.run ops) := by
  induction ops with
  | nil =>
    intro past r reflects
    rw [history, List.append_nil]
    exact reflects
  | cons op rest ih =>
    intro past r reflects
    rw [history, ← List.append_assoc]
    exact ih (reflects.step op)

/-- A finalized registry is the completion of what its history collected, in which no relation
leads nowhere. -/
structure Finalized (config : Config) (past : List (Value × List Field)) (r : Registry) :
    Prop where
  fit : ∀ entry ∈ past, entry.1.changeable? = none
  resolved : (collected config past).dangling? = none
  state : r = (collected config past).completed

/-- A run that ends in finalizing leaves a finalized registry, also if it was finalized in
between. -/
theorem finalized_of_run {ops : List Operation} {last : Registry}
    (done : ((empty config).run ops).finalize.outcome.value = .ok last) :
    Finalized config ((empty config).history ops) last := by
  have reflects := (reflects_empty config).run ops
  rw [List.nil_append] at reflects
  rcases of_finalize done with ⟨finalized, same⟩ | ⟨collecting, resolved, complete⟩
  · -- an earlier attempt has succeeded, and this one changed nothing
    rcases reflects.state with state | ⟨state, resolved⟩
    · rw [state] at finalized
      cases finalized
    · exact ⟨reflects.fit, resolved, same.trans state⟩
  · rcases reflects.state with state | ⟨state, -⟩
    · exact ⟨reflects.fit, state ▸ resolved, state ▸ complete⟩
    · rw [state] at collecting
      cases collecting

end Registry

end ListQuery
