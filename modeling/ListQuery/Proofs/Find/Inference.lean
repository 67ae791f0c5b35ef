import ListQuery.Proofs.Find.Stages
import ListQuery.Proofs.Sort.Normal

/-!
# Relations that are inferred

The relations of find options are inferred from the values of the order alone: whatever is not the
word of a direction in capitals counts as a relation. Of an order as it was given this is often
wrong, as directions may be written in any case and values may be missing. With a sort
specification the order is brought into its normal form first. There the values tell the slots
apart: under the key of a scalar there is a direction in capitals, under the key of a relation a
map, and entries without a value are gone. So exactly the relations that the order goes through are
inferred, whatever the order looked like before.

## Main definitions

* `SortSpec.refers` tells which keys lead to relations, `SortSpec.relationsOf` lists those of them
  that have a value in an order.

## Main results

* `SortSpec.Fits.isDirectionWord_normalOrder`: values in normal form tell the slots apart.
* `assemble_relations`: with a specification, inference of relations is exact, and for a single row
  the same criteria and order are found.
-/

namespace ListQuery

namespace SortSpec

/-- Whether the slot under a key leads to a relation. -/
def refers (spec : SortSpec) (key : Value) : Bool :=
  match spec.slot? key with
  | some (.ref _) => true
  | _ => false

/-- The keys of an order that lead to relations and have a value, in the order in which they were
given. -/
def relationsOf (spec : SortSpec) (order : Value) : List Value :=
  ((order.entries?.getD []).filter fun entry => spec.refers entry.1 && entry.2 ≠ .null).map Prod.fst

variable {lookup : Value → Option SortSpec} {spec : SortSpec} {key value order : Value}
  {entries : List (Value × Value)}

/-- In normal form, a value is a direction exactly if its key leads to no relation. -/
theorem Fits.isDirectionWord_normalOrder (fits : Fits lookup spec key value)
    (filled : value ≠ .null) : isDirectionWord value.normalOrder = !spec.refers key := by
  cases fits with
  | null known => exact absurd rfl filled
  | direction leaf named =>
    obtain ⟨d, -, word⟩ := exists_direction named
    rw [Value.normalOrder, ← word, isDirectionWord, SortDirection.ofWord?_word, refers, leaf]
    rfl
  | nested ref resolved each =>
    rw [Value.normalOrder, refers, ref]
    rfl

/-- What is inferred from entries in normal form are the relations that were there before. -/
theorem relationKeys_normalEntries
    (each : ∀ entry ∈ entries, Fits lookup spec entry.1 entry.2) :
    relationKeys (Value.normalEntries entries) = spec.relationsOf (.map entries) := by
  induction entries with
  | nil => rfl
  | cons entry rest ih =>
    obtain ⟨key, value⟩ := entry
    obtain ⟨fits, later⟩ := List.forall_mem_cons.1 each
    have others := ih later
    rw [relationKeys, relationsOf, Value.entries?, Option.getD_some] at others ⊢
    rw [Value.normalEntries, List.filter_cons]
    by_cases null : value = .null
    · -- an entry without a value is in neither list
      simpa [null] using others
    · rw [if_neg null, List.filter_cons, fits.isDirectionWord_normalOrder null]
      cases spec.refers key <;> simpa [null] using others

theorem slot?_ne_leaf_of_mem_relationsOf (there : key ∈ spec.relationsOf order) (kind : FieldKind) :
    spec.slot? key ≠ some (.leaf kind) := by
  intro leaf
  obtain ⟨entry, kept, rfl⟩ := List.mem_map.1 there
  have refers : spec.refers entry.1 = true := by simp_all
  rw [SortSpec.refers, leaf] at refers
  cases refers

/-- In an order whose keys are distinct no relation is found twice. -/
theorem pairwise_relationsOf (distinct : Ordered.Distinct entries) :
    (spec.relationsOf (.map entries)).Pairwise fun a b => (a == b) = false :=
  distinct.sublist (List.Sublist.map Prod.fst List.filter_sublist)

end SortSpec

variable {config : Config} {graph : SortGraph} {request : Request} {args : QueryArgs}

/-- From the normal form of an order exactly the relations are inferred that it goes through. -/
theorem inferRelations_eq {order normal : Value} (done : graph.normalize order = .ok normal) :
    inferRelations normal = .ok (graph.root.relationsOf order) := by
  obtain ⟨rfl | ⟨entries, rfl, each⟩, rfl⟩ := SortSpec.conforms_of_normalize done
  · rfl
  · rw [Value.normalOrder, inferRelations_map, SortSpec.relationKeys_normalEntries each]

/-- With a sort specification the inference of relations is exact. Where find options are made,
their relations are the keys of the given order that lead to relations and have a value, as they
stand in the order. None of them is a scalar, and none comes twice if no two keys of the order count
as the same. For a single row options are made of the same request, with the same criteria and the
same order. -/
theorem assemble_relations (asked : request.args? = some args) {options : FindOptions}
    (done : (assemble config (some graph) request).outcome.value = .ok options) :
    options.relations = graph.root.relationsOf args.order ∧
      (∀ key ∈ options.relations, ∀ kind, graph.root.slot? key ≠ some (.leaf kind)) ∧
      (∀ entries, args.order = .map entries → Ordered.Distinct entries →
        options.relations.Pairwise fun a b => (a == b) = false) ∧
      (assembleOne config (some graph) request).outcome.value =
        .ok ⟨options.criteria, options.order⟩ := by
  obtain ⟨-, -, compiled, ordered, inferred⟩ := (assemble_eq_ok_iff asked).1 done
  have normal : graph.normalize args.order = .ok options.order := mapError_eq_ok_iff.1 ordered
  rw [inferRelations_eq normal] at inferred
  rw [← Except.ok.inj inferred]
  refine ⟨rfl, fun key there => SortSpec.slot?_ne_leaf_of_mem_relationsOf there, ?_, ?_⟩
  · intro entries given distinct
    rw [given]
    exact SortSpec.pairwise_relationsOf distinct
  · exact (assembleOne_eq_ok_iff asked).2 ⟨compiled, ordered⟩

/-- Notes that answer other notes. -/
def answeringNotes : SortGraph :=
  let spec : SortSpec := ⟨.text "Note", [(.text "title", .leaf (.scalar .string)),
    (.text "parent", .ref (.text "Note")), (.text "thread", .ref (.text "Note"))]⟩
  ⟨spec, fun _ => some spec⟩

/-- A direction in small letters, a relation without a value, and a nested order. -/
def answersFirst : Value :=
  .map [(.text "sort", .map [(.text "title", .text "asc"), (.text "thread", .null),
    (.text "parent", .map [(.text "title", .text "Desc")])])]

theorem assemble_relations_answersFirst :
    ∃ options, (assemble .standard (some answeringNotes) (.raw answersFirst)).outcome.value =
        .ok options ∧
      options.order = .map [(.text "title", .text "ASC"),
        (.text "parent", .map [(.text "title", .text "DESC")])] ∧
      options.relations = [.text "parent"] ∧
      (assembleOne .standard (some answeringNotes) (.raw answersFirst)).outcome.value =
        .ok ⟨options.criteria, options.order⟩ := by
  refine ⟨_, rfl, rfl, ?_⟩
  obtain ⟨relations, -, -, single⟩ :=
    @assemble_relations .standard answeringNotes (.raw answersFirst) _ rfl _ rfl
  exact ⟨relations.trans rfl, single⟩

end ListQuery
