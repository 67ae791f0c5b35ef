import ListQuery.Proofs.Sql.Sorting
import ListQuery.Proofs.Value.Parts

/-!
# The paths of a sort order

A sort order leads along relationships, and each of its entries stands at the end of a path: the
keys of the maps that it is nested in, and its own. An entry under the key of a relationship joins
the table at the end of its path to the one that the path comes from, and an entry under the key of
a column sorts by that column of the table that its path comes from. So a table is known by its
path, whichever model it belongs to and however often that model is reached.

Joins are numbered in the order in which they are made, and the entries that follow a nested map
continue with the numbers that it has left. What carries the numbers through the recursion is that
the paths joined so far stand in the list of them at the numbers of their joins, and that more
paths are only ever appended to that list.

## Main definitions

* `OrderFits` is the grammar of sort orders on a model.
* `orderVisits` lists the entries of a sort order with their paths, depth first and each before
  those nested in it; `OrderVisit.fault?` judges one of them.
* `Follows` says what the joins and terms for such entries are: `JoinsAt` and `SortsBy` say so
  of a single entry, and `IsSource` which table belongs to a path.

## Main results

* `isTracked`: joins and terms follow the paths, up to the first entry at fault.
* `faultless_iff`: only the orders that fit have no entry at fault.
* `nodup_entryPaths`: no two entries have the same path.
* `nodup_aliases`: no two joins have the same name.
* `orderClauses_follows` puts them together.
-/

namespace ListQuery.Sql

variable {ι : Type}

/-! ## The grammar -/

/-- The entries of a sort order that a model admits: no value, a map under the key of a
relationship, whose entries the target admits, or a direction under the key of a column. -/
inductive OrderFits (schema : Schema ι) : ι → Value → Value → Prop
  | null {model : ι} {key : Value} : OrderFits schema model key .null
  | nested {model : ι} {key : Value} {rel : Relationship ι} {entries : List (Value × Value)}
      (leads : relationshipOf? (schema model) key = some rel)
      (each : ∀ entry ∈ entries, OrderFits schema rel.target entry.1 entry.2) :
      OrderFits schema model key (.map entries)
  | column {model : ι} {key value : Value} {col : Column}
      (named : columnOf? (schema model) key = some col)
      (direction : IsDirectionText (directionText value)) : OrderFits schema model key value

/-! ## Visits -/

/-- An entry of a sort order that has a value, and where it stands. -/
structure OrderVisit (ι : Type) where
  /-- The model that the entry is read for. -/
  model : ι
  /-- The keys of the maps that the entry is nested in. -/
  path : List String
  name : String
  value : Value

namespace OrderVisit

/-- The path of the entry itself. -/
def entryPath (v : OrderVisit ι) : List String := v.path ++ [v.name]

variable (schema : Schema ι) (v : OrderVisit ι)

/-- The relationship of the key. -/
def relationship? : Option (Relationship ι) := (schema v.model).relationship? v.name

/-- The column of the key. -/
def column? : Option Column := (schema v.model).column? v.name

/-- What is wrong with an entry, without regard to what is nested in it. -/
def fault? : Option OrderError :=
  match v.relationship? schema with
  | some _ =>
    match v.value with
    | .map _ => none
    | value => some (.notAnObject (pathText v.entryPath) value)
  | none =>
    match v.column? schema with
    | some _ =>
      if IsDirectionText (directionText v.value) then none
      else some (.notADirection (pathText v.entryPath) v.value)
    | none => some (.unknownColumn (pathText v.entryPath))

end OrderVisit

mutual

/-- The entries of a map of a sort order and all that is nested in them, depth first and from
left to right, without those that have no value. Only keys that are texts count. -/
def orderVisits (schema : Schema ι) (model : ι) (path : List String) :
    List (Value × Value) → List (OrderVisit ι)
  | [] => []
  | (key, value) :: rest =>
    entryVisits schema model path key value ++ orderVisits schema model path rest

/-- An entry, by its key, and all that is nested in it. -/
def entryVisits (schema : Schema ι) (model : ι) (path : List String) (key : Value) :
    Value → List (OrderVisit ι)
  | .null => []
  | .map entries =>
    match key.text? with
    | some name =>
      ⟨model, path, name, .map entries⟩ ::
        match (schema model).relationship? name with
        | some rel => orderVisits schema rel.target (path ++ [name]) entries
        | none => []
    | none => []
  | value => (key.text?.map fun name => ⟨model, path, name, value⟩).toList

end

/-- The paths along which tables are joined, in the order of the entries. -/
def joinPaths (schema : Schema ι) (visits : List (OrderVisit ι)) : List (List String) :=
  (visits.filter fun v => (v.relationship? schema).isSome).map OrderVisit.entryPath

/-! ## Joins and terms -/

/-- The table at the end of a path: that of the model itself, or the one that is joined there. -/
def IsSource (paths : List (List String)) (path : List String) : Source → Prop
  | .model => path = []
  | .join index => paths[index]? = some path

/-- A join leads from the table that the path of an entry comes from along its relationship. -/
structure JoinsAt (schema : Schema ι) (paths : List (List String)) (v : OrderVisit ι)
    (join : Join ι) : Prop where
  source : IsSource paths v.path join.source
  owner : join.owner = v.model
  relationship : v.relationship? schema = some join.relationship

/-- A term sorts by the column of an entry, in the table that its path comes from. -/
structure SortsBy (schema : Schema ι) (paths : List (List String)) (v : OrderVisit ι)
    (term : Term) : Prop where
  source : IsSource paths v.path term.source
  column : v.column? schema = some term.column
  direction : term.direction.word = capitals (directionText v.value)

/-- There is one join for each entry under the key of a relationship and one term for each under
the key of a column, in the order of the entries. -/
structure Follows (schema : Schema ι) (paths : List (List String)) (visits : List (OrderVisit ι))
    (ordering : Ordering ι) : Prop where
  joins : List.Forall₂ (JoinsAt schema paths)
    (visits.filter fun v => (v.relationship? schema).isSome) ordering.joins
  terms : List.Forall₂ (SortsBy schema paths)
    (visits.filter fun v => (v.column? schema).isSome) ordering.terms

variable {schema : Schema ι} {model : ι} {path : List String} {paths : List (List String)}
  {visits others : List (OrderVisit ι)} {v : OrderVisit ι} {source : Source}
  {first second ordering : Ordering ι} {key value : Value} {name : String}
  {entries : List (Value × Value)}

theorem joinPaths_append : joinPaths schema (visits ++ others) =
    joinPaths schema visits ++ joinPaths schema others := by
  rw [joinPaths, List.filter_append, List.map_append, joinPaths, joinPaths]

/-- A path that is joined keeps its number while more paths are joined. -/
theorem IsSource.append (known : IsSource paths path source) (more : List (List String)) :
    IsSource (paths ++ more) path source := by
  cases source with
  | model => exact known
  | join index =>
    obtain ⟨bound, -⟩ := List.getElem?_eq_some_iff.1 known
    rw [IsSource, List.getElem?_append_left bound]
    exact known

/-- The path that is joined next has the number of all those before. -/
theorem isSource_next (paths : List (List String)) (path : List String) :
    IsSource (paths ++ [path]) path (.join paths.length) := by
  simp [IsSource]

theorem Follows.weaken (follows : Follows schema paths visits ordering)
    (more : List (List String)) : Follows schema (paths ++ more) visits ordering where
  joins := follows.joins.imp fun _ _ join => ⟨join.source.append more, join.owner,
    join.relationship⟩
  terms := follows.terms.imp fun _ _ term => ⟨term.source.append more, term.column,
    term.direction⟩

theorem follows_none : Follows schema paths [] .none := ⟨.nil, .nil⟩

theorem Follows.append (left : Follows schema paths visits first)
    (right : Follows schema paths others second) :
    Follows schema paths (visits ++ others) (first.append second) where
  joins := by
    rw [List.filter_append]
    exact List.rel_append left.joins right.joins
  terms := by
    rw [List.filter_append]
    exact List.rel_append left.terms right.terms

theorem Follows.length_joins (follows : Follows schema paths visits ordering) :
    ordering.joins.length = (joinPaths schema visits).length := by
  rw [joinPaths, List.length_map, follows.joins.length_eq]

/-! ## Up to the first fault -/

/-- What is returned for some entries: the first fault of all, or joins and terms that follow
their paths. -/
def IsOutcome (schema : Schema ι) (paths : List (List String)) (visits : List (OrderVisit ι)) :
    Except OrderError (Ordering ι) → Prop
  | .error e => visits.findSome? (OrderVisit.fault? schema) = some e
  | .ok ordering => visits.findSome? (OrderVisit.fault? schema) = none ∧
    Follows schema paths visits ordering

/-- Wherever a map of these entries stands, what is returned for them follows their paths: whatever
was joined before, as long as the table that the map is read from was. -/
def IsTracked (schema : Schema ι) (entries : List (Value × Value)) : Prop :=
  ∀ (model : ι) (path : List String) (source : Source) (before : List (List String)),
    IsSource before path source →
      IsOutcome schema (before ++ joinPaths schema (orderVisits schema model path entries))
        (orderVisits schema model path entries)
        (orderEntries schema model source path before.length entries)

/-- Entries are answered for one after the other. -/
theorem IsOutcome.append {more : List (List String)} {result : Except OrderError (Ordering ι)}
    {next : Ordering ι → Except OrderError (Ordering ι)}
    (here : IsOutcome schema paths visits result)
    (later : ∀ ordering, result = .ok ordering → Follows schema paths visits ordering →
      IsOutcome schema (paths ++ more) others (next ordering)) :
    IsOutcome schema (paths ++ more) (visits ++ others)
      (result >>= fun first => next first >>= fun second => pure (first.append second)) := by
  cases result with
  | error e =>
    have found : visits.findSome? (OrderVisit.fault? schema) = some e := here
    change (visits ++ others).findSome? _ = some e
    rw [List.findSome?_append, found, Option.some_or]
  | ok first =>
    obtain ⟨clean, follows⟩ := here
    have rest := later first rfl follows
    change IsOutcome schema _ _ (next first >>= fun second => pure (first.append second))
    cases done : next first with
    | error e =>
      rw [done] at rest
      change (visits ++ others).findSome? _ = some e
      rw [List.findSome?_append, clean, Option.none_or]
      exact rest
    | ok second =>
      rw [done] at rest
      refine ⟨?_, (follows.weaken more).append rest.2⟩
      rw [List.findSome?_append, clean, Option.none_or]
      exact rest.1

theorem Model.IsMapped.column?_eq_none {m : Model ι} (mapped : m.IsMapped)
    {rel : Relationship ι} (leads : m.relationship? name = some rel) : m.column? name = none := by
  cases found : m.column? name with
  | none => rfl
  | some col =>
    have there : col ∈ m.columns := List.mem_of_find?_eq_some found
    rw [← Sql.column?_key found, mapped.relationship?_key there] at leads
    cases leads

/-- An entry under a key of no relationship becomes a term, or is at fault. -/
theorem isOutcome_column (apart : (schema model).relationship? name = none)
    (known : IsSource paths path source) (value : Value) :
    IsOutcome schema paths [⟨model, path, name, value⟩]
      (columnTerm (schema model) source (path ++ [name]) name value >>= fun term =>
        pure ⟨[], [term]⟩) := by
  cases named : (schema model).column? name with
  | none =>
    simp [columnTerm, named, IsOutcome, OrderVisit.fault?, OrderVisit.relationship?, apart,
      OrderVisit.column?, OrderVisit.entryPath, bind, Except.bind]
  | some col =>
    by_cases direction : IsDirectionText (directionText value)
    · obtain ⟨d, read, word⟩ := SortSpec.exists_direction direction
      have read : SortDirection.ofText? (directionText value) = some d := read
      have term : SortsBy schema paths ⟨model, path, name, value⟩ ⟨source, col, d⟩ :=
        ⟨known, named, word⟩
      simp only [columnTerm, named, read]
      refine ⟨?_, ⟨?_, ?_⟩⟩
      · simp [OrderVisit.fault?, OrderVisit.relationship?, apart, OrderVisit.column?, named,
          direction]
      · simp [OrderVisit.relationship?, apart]
      · simpa [OrderVisit.column?, named] using term
    · have read : SortDirection.ofText? (directionText value) = none :=
        SortSpec.ofValue?_eq_none direction
      simp [columnTerm, named, read, IsOutcome, OrderVisit.fault?, OrderVisit.relationship?, apart,
        OrderVisit.column?, OrderVisit.entryPath, direction, bind, Except.bind]

/-- An entry under the key of a relationship that is no map is at fault. -/
theorem isOutcome_notAnObject {rel : Relationship ι}
    (leads : (schema model).relationship? name = some rel)
    (plain : ∀ entries, value ≠ .map entries) :
    IsOutcome schema paths [⟨model, path, name, value⟩]
      (.error (.notAnObject (pathText (path ++ [name])) value)) := by
  have fault : OrderVisit.fault? schema ⟨model, path, name, value⟩ =
      some (.notAnObject (pathText (path ++ [name])) value) := by
    rw [OrderVisit.fault?, OrderVisit.relationship?, leads]
    cases value with
    | map entries => exact absurd rfl (plain entries)
    | _ => rfl
  simp [IsOutcome, fault]

theorem fault?_nested {rel : Relationship ι}
    (leads : (schema model).relationship? name = some rel) :
    OrderVisit.fault? schema ⟨model, path, name, .map entries⟩ = none := by
  rw [OrderVisit.fault?, OrderVisit.relationship?, leads]

/-- A map under the key of a relationship becomes a join, and what comes of its entries is read
from the joined table. -/
theorem isOutcome_nested (mapped : ∀ m, (schema m).IsMapped) {rel : Relationship ι}
    (leads : (schema model).relationship? name = some rel) (known : IsSource paths path source)
    {more : List (List String)} {result : Except OrderError (Ordering ι)}
    (inner : IsOutcome schema (paths ++ [path ++ [name]] ++ more) visits result) :
    IsOutcome schema (paths ++ [path ++ [name]] ++ more)
      (⟨model, path, name, .map entries⟩ :: visits)
      (result >>= fun nested => pure (Ordering.append ⟨[⟨source, model, rel⟩], []⟩ nested)) := by
  have join : JoinsAt schema (paths ++ [path ++ [name]] ++ more)
      ⟨model, path, name, .map entries⟩ ⟨source, model, rel⟩ := by
    rw [List.append_assoc]
    exact ⟨known.append _, rfl, leads⟩
  cases result with
  | error e =>
    change List.findSome? _ _ = some e
    rw [List.findSome?_cons, fault?_nested leads]
    exact inner
  | ok nested =>
    obtain ⟨clean, follows⟩ := inner
    refine ⟨?_, ?_, ?_⟩
    · rw [List.findSome?_cons, fault?_nested leads]
      exact clean
    · rw [List.filter_cons_of_pos (by simp [OrderVisit.relationship?, leads])]
      exact .cons join follows.joins
    · rw [List.filter_cons_of_neg
        (by simp [OrderVisit.column?, (mapped model).column?_eq_none leads])]
      exact follows.terms

/-- What comes of an entry follows the paths in it, if that holds of the entries of a map under its
key. -/
theorem isOutcome_orderEntry (model : ι) (mapped : ∀ m, (schema m).IsMapped)
    (text : key.text? = some name)
    (nested : ∀ entries, value = .map entries → IsTracked schema entries)
    {before : List (List String)} (known : IsSource before path source) :
    IsOutcome schema (before ++ joinPaths schema (entryVisits schema model path key value))
      (entryVisits schema model path key value)
      (orderEntry schema model source path before.length key value) := by
  cases leads : (schema model).relationship? name with
  | none =>
    -- nothing is joined here
    have noJoin : joinPaths schema [⟨model, path, name, value⟩] = [] := by
      simp [joinPaths, OrderVisit.relationship?, leads]
    have term := isOutcome_column leads known value
    cases value with
    | null => simpa [entryVisits, orderEntry, joinPaths] using ⟨rfl, follows_none⟩
    | _ =>
      simpa only [entryVisits, orderEntry, text, leads, Option.map_some, Option.toList_some,
        noJoin, List.append_nil] using term
  | some rel =>
    cases value with
    | null => simpa [entryVisits, orderEntry, joinPaths] using ⟨rfl, follows_none⟩
    | map entries =>
      -- the nested entries are read from the table that is joined here, which is numbered next
      have start := isSource_next before (path ++ [name])
      have inner := nested entries rfl rel.target (path ++ [name]) (.join before.length)
        (before ++ [path ++ [name]]) start
      have joined : joinPaths schema (⟨model, path, name, .map entries⟩ ::
          orderVisits schema rel.target (path ++ [name]) entries) =
            [path ++ [name]] ++
              joinPaths schema (orderVisits schema rel.target (path ++ [name]) entries) := by
        simp [joinPaths, OrderVisit.relationship?, leads, OrderVisit.entryPath]
      rw [List.length_append, List.length_singleton] at inner
      simp only [entryVisits, orderEntry, text, leads, joined, ← List.append_assoc]
      exact isOutcome_nested mapped leads known inner
    | _ =>
      simp only [entryVisits, orderEntry, text, leads, Option.map_some, Option.toList_some]
      exact isOutcome_notAnObject leads (by simp)

/-- What comes of the entries of a map follows their paths, up to the first fault. -/
theorem isTracked (mapped : ∀ m, (schema m).IsMapped) (entries : List (Value × Value)) :
    (Value.map entries).StringKeyed → IsTracked schema entries := by
  induction entries using Value.entries_induction with
  | nil =>
    intro _ model path source before known
    simpa [orderVisits, orderEntries, joinPaths] using ⟨rfl, follows_none⟩
  | cons key value rest nested ih =>
    intro keyed model path source before known
    obtain ⟨name, text, -, within, later⟩ := Value.StringKeyed.cons keyed
    have here := isOutcome_orderEntry model mapped text
      (fun entries is => nested entries is (is ▸ within)) known
    rw [orderVisits, joinPaths_append, ← List.append_assoc, orderEntries]
    refine here.append fun first _ follows => ?_
    -- the entries that follow count on from the joins of the first
    have count : before.length + first.joins.length =
        (before ++ joinPaths schema (entryVisits schema model path key value)).length := by
      rw [follows.length_joins, List.length_append]
    rw [count]
    exact ih later model path source _ (known.append _)

/-! ## Only fitting orders have no faults -/

/-- The message of an error that quotes a path. -/
def OrderError.Quotes (e : OrderError) (path : String) : Prop :=
  ∃ before after, e.message = before ++ "'" ++ path ++ "'" ++ after

theorem quotes_notAnObject (path : String) (value : Value) :
    (OrderError.notAnObject path value).Quotes path := by
  have written : (OrderError.notAnObject path value).message =
      "Invalid order_by for relation '" ++ path ++ "': expected an object, got " ++
        value.literal := rfl
  have opening : "Invalid order_by for relation " ++ "'" = "Invalid order_by for relation '" := by
    simp
  have closing : "'" ++ ": expected an object, got " = "': expected an object, got " := by simp
  refine ⟨"Invalid order_by for relation ", ": expected an object, got " ++ value.literal, ?_⟩
  simp only [written, opening, ← closing, String.append_assoc]

theorem quotes_notADirection (path : String) (value : Value) :
    (OrderError.notADirection path value).Quotes path := by
  have written : (OrderError.notADirection path value).message =
      "Invalid order_by direction for '" ++ path ++ "': " ++ value.literal := rfl
  have opening : "Invalid order_by direction for " ++ "'" = "Invalid order_by direction for '" := by
    simp
  have closing : "'" ++ ": " = "': " := by simp
  refine ⟨"Invalid order_by direction for ", ": " ++ value.literal, ?_⟩
  simp only [written, opening, ← closing, String.append_assoc]

theorem quotes_unknownColumn (path : String) : (OrderError.unknownColumn path).Quotes path := by
  have written : (OrderError.unknownColumn path).message =
      "Invalid order_by: unknown column '" ++ path ++ "'" := rfl
  exact ⟨"Invalid order_by: unknown column ", "", by simp [written]⟩

/-- The message for a fault quotes the path of the entry. -/
theorem OrderVisit.quotes_of_fault? {e : OrderError} (fault : v.fault? schema = some e) :
    e.Quotes (pathText v.entryPath) := by
  rw [OrderVisit.fault?] at fault
  split at fault
  · split at fault
    · cases fault
    · rw [← Option.some.inj fault]
      exact quotes_notAnObject _ _
  · split at fault
    · split at fault
      · cases fault
      · rw [← Option.some.inj fault]
        exact quotes_notADirection _ _
    · rw [← Option.some.inj fault]
      exact quotes_unknownColumn _

/-- An entry in which nothing is nested fits if it is not at fault. -/
theorem fault?_eq_none_iff (mapped : ∀ m, (schema m).IsMapped) (text : key.text? = some name)
    (filled : value ≠ .null)
    (alone : (schema model).relationship? name = none ∨ ∀ entries, value ≠ .map entries) :
    OrderVisit.fault? schema ⟨model, path, name, value⟩ = none ↔
      OrderFits schema model key value := by
  constructor
  · intro faultless
    rw [OrderVisit.fault?, OrderVisit.relationship?] at faultless
    split at faultless
    · next rel leads =>
      have plain := alone.resolve_left (by simp [leads])
      split at faultless
      · next is => exact absurd is (plain _)
      · cases faultless
    · split at faultless
      · next col named =>
        split at faultless
        · next direction => exact .column (by rw [columnOf?, text]; exact named) direction
        · cases faultless
      · cases faultless
  · intro fits
    cases fits with
    | null => exact absurd rfl filled
    | nested leads _ =>
      rw [relationshipOf?, text, Option.bind_some] at leads
      rcases alone with apart | plain
      · rw [apart] at leads
        cases leads
      · exact absurd rfl (plain _)
    | column named direction =>
      rw [columnOf?, text, Option.bind_some] at named
      have apart : (schema model).relationship? name = none := by
        cases leads : (schema model).relationship? name with
        | none => rfl
        | some rel =>
          rw [(mapped model).column?_eq_none leads] at named
          cases named
      simp [OrderVisit.fault?, OrderVisit.relationship?, apart, OrderVisit.column?, named,
        direction]

/-- An entry fits if neither it nor anything that is nested in it is at fault. -/
theorem faultless_entry_iff (mapped : ∀ m, (schema m).IsMapped) (text : key.text? = some name)
    (nested : ∀ entries, value = .map entries → ∀ (model : ι) (path : List String),
      (orderVisits schema model path entries).findSome? (OrderVisit.fault? schema) = none ↔
        ∀ entry ∈ entries, OrderFits schema model entry.1 entry.2) :
    (entryVisits schema model path key value).findSome? (OrderVisit.fault? schema) = none ↔
      OrderFits schema model key value := by
  have single (filled : value ≠ .null)
      (alone : (schema model).relationship? name = none ∨ ∀ entries, value ≠ .map entries) :
      [(⟨model, path, name, value⟩ : OrderVisit ι)].findSome? (OrderVisit.fault? schema) = none ↔
        OrderFits schema model key value := by
    rw [List.findSome?_eq_none_iff, List.forall_mem_singleton]
    exact fault?_eq_none_iff mapped text filled alone
  cases value with
  | null => simpa [entryVisits] using OrderFits.null
  | map entries =>
    cases leads : (schema model).relationship? name with
    | none =>
      simp only [entryVisits, text, leads]
      exact single (by simp) (Or.inl leads)
    | some rel =>
      simp only [entryVisits, text, leads, List.findSome?_cons, fault?_nested leads]
      rw [nested entries rfl]
      constructor
      · exact fun each => .nested (by rw [relationshipOf?, text]; exact leads) each
      · intro fits
        cases fits with
        | nested leads' each =>
          rw [relationshipOf?, text, Option.bind_some, leads] at leads'
          rwa [Option.some.inj leads']
        | column named _ =>
          rw [columnOf?, text, Option.bind_some, (mapped model).column?_eq_none leads] at named
          cases named
  | _ =>
    simp only [entryVisits, text, Option.map_some, Option.toList_some]
    exact single (by simp) (Or.inr (by simp))

/-- Entries fit exactly where a walk through them meets no fault. -/
theorem faultless_iff (mapped : ∀ m, (schema m).IsMapped) (entries : List (Value × Value)) :
    (Value.map entries).StringKeyed → ∀ (model : ι) (path : List String),
      (orderVisits schema model path entries).findSome? (OrderVisit.fault? schema) = none ↔
        ∀ entry ∈ entries, OrderFits schema model entry.1 entry.2 := by
  induction entries using Value.entries_induction with
  | nil => intro _ model path; simp [orderVisits]
  | cons key value rest nested ih =>
    intro keyed model path
    obtain ⟨name, text, -, within, later⟩ := Value.StringKeyed.cons keyed
    rw [orderVisits, List.findSome?_append, Option.or_eq_none_iff, List.forall_mem_cons,
      faultless_entry_iff mapped text (fun entries is => nested entries is (is ▸ within)),
      ih later model path]

/-! ## Paths and names are apart -/

/-- A visit to an entry comes before those to what is nested in it, whose paths go on from that of
the entry. -/
theorem entryVisits_eq_nil_or (schema : Schema ι) (model : ι) (path : List String)
    (key value : Value) :
    entryVisits schema model path key value = [] ∨
      ∃ name below, key.text? = some name ∧
        entryVisits schema model path key value = ⟨model, path, name, value⟩ :: below ∧
        (below = [] ∨ ∃ (rel : Relationship ι) (entries : List (Value × Value)),
          value = .map entries ∧
            below = orderVisits schema rel.target (path ++ [name]) entries) := by
  cases text : key.text? with
  | none => cases value <;> simp [entryVisits, text]
  | some name =>
    cases value with
    | null => simp [entryVisits]
    | map entries =>
      right
      cases leads : (schema model).relationship? name with
      | none => exact ⟨name, [], rfl, by simp [entryVisits, text, leads], Or.inl rfl⟩
      | some rel =>
        exact ⟨name, _, rfl, by simp [entryVisits, text, leads], Or.inr ⟨rel, entries, rfl, rfl⟩⟩
    | _ => exact Or.inr ⟨name, [], rfl, by simp [entryVisits, text], Or.inl rfl⟩

/-- The path of an entry starts with the path that its map is read at, and goes on with the key of
an entry of the map. -/
theorem exists_entryPath (entries : List (Value × Value)) :
    ∀ (model : ι) (path : List String), ∀ v ∈ orderVisits schema model path entries,
      ∃ entry ∈ entries, ∃ name more, entry.1.text? = some name ∧
        v.entryPath = path ++ name :: more := by
  induction entries using Value.entries_induction with
  | nil =>
    intro model path v there
    rw [orderVisits] at there
    cases there
  | cons key value rest nested ih =>
    intro model path v there
    rw [orderVisits, List.mem_append] at there
    rcases there with here | later
    · rcases entryVisits_eq_nil_or schema model path key value with
        none | ⟨name, below, text, listed, within⟩
      · rw [none] at here
        cases here
      · rw [listed] at here
        rcases List.mem_cons.1 here with rfl | deeper
        · exact ⟨_, List.mem_cons_self, name, [], text, rfl⟩
        · rcases within with rfl | ⟨rel, entries, is, rfl⟩
          · cases deeper
          · obtain ⟨-, -, next, more, -, start⟩ :=
              nested entries is rel.target (path ++ [name]) v deeper
            refine ⟨_, List.mem_cons_self, name, next :: more, text, ?_⟩
            rw [start, List.append_assoc, List.singleton_append]
    · obtain ⟨entry, among, start⟩ := ih model path v later
      exact ⟨entry, List.mem_cons_of_mem _ among, start⟩

/-- No two entries have the same path. -/
theorem nodup_entryPaths (entries : List (Value × Value)) : (Value.map entries).StringKeyed →
    ∀ (model : ι) (path : List String),
      ((orderVisits schema model path entries).map OrderVisit.entryPath).Nodup := by
  induction entries using Value.entries_induction with
  | nil => intro _ model path; simp [orderVisits]
  | cons key value rest nested ih =>
    intro keyed model path
    obtain ⟨name, text, apart, within, later⟩ := Value.StringKeyed.cons keyed
    rw [orderVisits]
    rcases entryVisits_eq_nil_or schema model path key value with
      none | ⟨name', below, text', listed, inner⟩
    · rw [none]
      exact ih later model path
    · obtain rfl : name = name' := Option.some.inj (text.symm.trans text')
      -- all that is nested in the entry goes on from its path
      have deeper : (below.map OrderVisit.entryPath).Nodup ∧
          ∀ v ∈ below, ∃ next more, v.entryPath = path ++ name :: next :: more := by
        rcases inner with rfl | ⟨rel, entries, is, rfl⟩
        · exact ⟨List.nodup_nil, List.forall_mem_nil _⟩
        · refine ⟨nested entries is (is ▸ within) rel.target (path ++ [name]), fun v there => ?_⟩
          obtain ⟨-, -, next, more, -, start⟩ := exists_entryPath entries _ _ v there
          exact ⟨next, more, by rw [start, List.append_assoc, List.singleton_append]⟩
      have beside : ∀ v ∈ orderVisits schema model path rest,
          ∃ next more, next ≠ name ∧ v.entryPath = path ++ next :: more := by
        intro v there
        obtain ⟨entry, among, next, more, text', start⟩ := exists_entryPath rest _ _ v there
        exact ⟨next, more, fun same => apart entry among (same ▸ text'), start⟩
      rw [listed, List.map_append, List.map_cons, List.nodup_append, List.nodup_cons]
      refine ⟨⟨fun again => ?_, deeper.1⟩, ih later model path, ?_⟩
      · obtain ⟨v, there, same⟩ := List.mem_map.1 again
        obtain ⟨next, more, longer⟩ := deeper.2 v there
        rw [longer] at same
        simp [OrderVisit.entryPath] at same
      · intro first here second there same
        obtain ⟨v, among, rfl⟩ := List.mem_map.1 there
        obtain ⟨next, more, other, start⟩ := beside v among
        have begins : ∃ more, first = path ++ name :: more := by
          rcases List.mem_cons.1 here with rfl | below'
          · exact ⟨[], rfl⟩
          · obtain ⟨u, inside, rfl⟩ := List.mem_map.1 below'
            obtain ⟨next, more, longer⟩ := deeper.2 u inside
            exact ⟨next :: more, longer⟩
        obtain ⟨more', begins⟩ := begins
        rw [begins, start, List.append_cancel_left_eq, List.cons.injEq] at same
        exact other same.1.symm

/-- What follows the last underscore of a text, and what stands before it, is the same in equal
texts. -/
theorem append_underscore_inj {front front' back back' : List Char} (last : '_' ∉ back)
    (last' : '_' ∉ back') (same : front ++ '_' :: back = front' ++ '_' :: back') :
    front = front' ∧ back = back' := by
  have shorter {more back back' : List Char} (last : '_' ∉ back)
      (rest : '_' :: back = more ++ '_' :: back') : more = [] ∧ back = back' := by
    cases more with
    | nil => exact ⟨rfl, (List.cons.inj rest).2⟩
    | cons first more =>
      rw [List.cons_append, List.cons.injEq] at rest
      exact absurd (rest.2 ▸ List.mem_append_right more List.mem_cons_self) last
  rcases List.append_eq_append_iff.1 same with ⟨more, longer, rest⟩ | ⟨more, longer, rest⟩
  · obtain ⟨rfl, rfl⟩ := shorter last rest
    exact ⟨by rw [longer, List.append_nil], rfl⟩
  · obtain ⟨rfl, rfl⟩ := shorter last' rest
    exact ⟨by rw [longer, List.append_nil], rfl⟩

/-- The name of a joined table tells the table and its number. -/
theorem aliasName_inj {table table' : String} {count count' : Nat}
    (same : aliasName table count = aliasName table' count') : table = table' ∧ count = count' := by
  have letters : table.toList ++ '_' :: Nat.toDigits 10 count =
      table'.toList ++ '_' :: Nat.toDigits 10 count' := by
    simpa [aliasName, String.toList_append] using congrArg String.toList same
  -- the number is written in digits, so that the last underscore is the one before it
  obtain ⟨tables, counts⟩ :=
    append_underscore_inj Nat.underscore_not_in_toDigits Nat.underscore_not_in_toDigits letters
  refine ⟨String.toList_inj.1 tables, ?_⟩
  calc count
    _ = Nat.ofDigitChars 10 (Nat.toDigits 10 count) 0 := Nat.ofDigitChars_ten_toDigits.symm
    _ = Nat.ofDigitChars 10 (Nat.toDigits 10 count') 0 := by rw [counts]
    _ = count' := Nat.ofDigitChars_ten_toDigits

/-- The names after some tables count on from those. -/
theorem lt_of_mem_aliasesAfter {before tables : List String} {name : String}
    (there : name ∈ aliasesAfter before tables) :
    ∃ table count, name = aliasName table count ∧ before.count table < count := by
  induction tables generalizing before with
  | nil => cases there
  | cons table rest ih =>
    rw [aliasesAfter] at there
    rcases List.mem_cons.1 there with rfl | later
    · exact ⟨table, _, rfl, Nat.lt_succ_self _⟩
    · obtain ⟨other, count, rfl, more⟩ := ih later
      exact ⟨other, count, rfl, Nat.lt_of_le_of_lt (List.count_le_count_cons ..) more⟩

theorem nodup_aliasesAfter (before tables : List String) : (aliasesAfter before tables).Nodup := by
  induction tables generalizing before with
  | nil => exact List.nodup_nil
  | cons table rest ih =>
    rw [aliasesAfter, List.nodup_cons]
    refine ⟨fun again => ?_, ih (table :: before)⟩
    -- the names that follow have greater numbers for the same table
    obtain ⟨other, count, same, more⟩ := lt_of_mem_aliasesAfter again
    obtain ⟨rfl, rfl⟩ := aliasName_inj same
    rw [List.count_cons_self] at more
    exact Nat.lt_irrefl _ more

/-- No two joined tables have the same name. -/
theorem nodup_aliases (schema : Schema ι) (joins : List (Join ι)) :
    (aliases schema joins).Nodup := nodup_aliasesAfter _ _

theorem length_aliasesAfter (before tables : List String) :
    (aliasesAfter before tables).length = tables.length := by
  induction tables generalizing before with
  | nil => rfl
  | cons table rest ih => rw [aliasesAfter, List.length_cons, ih, List.length_cons]

theorem length_aliases (schema : Schema ι) (joins : List (Join ι)) :
    (aliases schema joins).length = joins.length := by
  rw [aliases, length_aliasesAfter, List.length_map]

/-! ## Sort orders on a model -/

theorem orderClauses_map (schema : Schema ι) (model : ι) (entries : List (Value × Value)) :
    orderClauses schema model (.map entries) = orderEntries schema model .model [] 0 entries := by
  cases entries with
  | nil =>
    rw [orderEntries]
    rfl
  | cons entry rest => rfl

/-- A sort order with text keys on mapped models is accepted exactly where its entries fit. It
then joins a table for each entry under the key of a relationship and has a term for each entry
under the key of a column, in the order in which the entries are met. Each starts from the table
that its path comes from. No two paths are the same, so that each join has a table of its own,
and each of these has a name of its own. A sort order that is refused is so for the first entry
at fault, whose path the message quotes. -/
theorem orderClauses_follows (mapped : ∀ m, (schema m).IsMapped)
    (keyed : (Value.map entries).StringKeyed) (model : ι) :
    ((∃ ordering, orderClauses schema model (.map entries) = .ok ordering) ↔
        ∀ entry ∈ entries, OrderFits schema model entry.1 entry.2) ∧
      (∀ ordering, orderClauses schema model (.map entries) = .ok ordering →
        Follows schema (joinPaths schema (orderVisits schema model [] entries))
            (orderVisits schema model [] entries) ordering ∧
          (joinPaths schema (orderVisits schema model [] entries)).Nodup ∧
          (aliases schema ordering.joins).Nodup ∧
          (aliases schema ordering.joins).length = ordering.joins.length) ∧
      ((¬ ∀ entry ∈ entries, OrderFits schema model entry.1 entry.2) →
        ∃ before v after e, orderVisits schema model [] entries = before ++ v :: after ∧
          (∀ u ∈ before, u.fault? schema = none) ∧ v.fault? schema = some e ∧
          orderClauses schema model (.map entries) = .error e ∧
          e.Quotes (pathText v.entryPath)) := by
  have outcome := isTracked mapped entries keyed model [] .model [] rfl
  rw [List.length_nil, ← orderClauses_map, List.nil_append] at outcome
  have fits := faultless_iff mapped entries keyed model []
  cases result : orderClauses schema model (.map entries) with
  | ok ordering =>
    rw [result] at outcome
    obtain ⟨clean, follows⟩ := outcome
    refine ⟨⟨fun _ => fits.1 clean, fun _ => ⟨ordering, rfl⟩⟩, ?_, fun astray => ?_⟩
    · rintro _ ⟨⟩
      refine ⟨follows, ?_, nodup_aliases _ _, length_aliases _ _⟩
      exact (nodup_entryPaths entries keyed model []).sublist (List.filter_sublist.map _)
    · exact absurd (fits.1 clean) astray
  | error e =>
    rw [result] at outcome
    have found : (orderVisits schema model [] entries).findSome? (OrderVisit.fault? schema) =
      some e := outcome
    refine ⟨⟨nofun, fun each => ?_⟩, nofun, fun _ => ?_⟩
    · rw [fits.2 each] at found
      cases found
    · obtain ⟨before, v, after, listed, fault, clean⟩ := List.findSome?_eq_some_iff.1 found
      exact ⟨before, v, after, e, listed, clean, fault, rfl, OrderVisit.quotes_of_fault? fault⟩

theorem stringKeyed_noteOrder : noteOrder.StringKeyed := by
  have text (s : String) : (Value.text s).StringKeyed := Value.stringKeyed_of_plain rfl
  have null : Value.null.StringKeyed := Value.stringKeyed_of_plain rfl
  simp [noteOrder, Value.stringKeyed_map, Ordered.Distinct, Ordered.keys, Value.text?, text, null]

/-- The two joined tables have the same columns, and are told apart by their paths. Where notes are
to be sorted by the title of a parent in no direction, the path of that title is reported. -/
theorem orderClauses_follows_notes :
    (∃ entries ordering, noteOrder = .map entries ∧
      orderClauses notes () noteOrder = .ok ordering ∧
      joinPaths notes (orderVisits notes () [] entries) = [["parent"], ["parent", "answers"]] ∧
      Follows notes (joinPaths notes (orderVisits notes () [] entries))
        (orderVisits notes () [] entries) ordering ∧
      ordering.terms.map Term.source = [.join 0, .join 1, .model] ∧
      aliases notes ordering.joins = ["notes_1", "notes_2"]) ∧
    ∃ e, orderClauses notes () (.map [(.text "parent", .map [(.text "title", .text "up")])]) =
      .error e ∧ e.Quotes "parent.title" := by
  constructor
  · obtain ⟨-, accepted, -⟩ := orderClauses_follows isMapped_notes stringKeyed_noteOrder ()
    exact ⟨_, _, rfl, rfl, rfl, (accepted _ rfl).1, rfl, by decide⟩
  · exact ⟨.notADirection "parent.title" (.text "up"), rfl, quotes_notADirection _ _⟩

end ListQuery.Sql
