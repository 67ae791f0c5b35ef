/-!
# Maps that keep the order of insertion

A map is a list of entries. A key that is written again keeps its place and gets
the new value; a new key goes to the end. So the order of the keys is the order in
which they were first written.

Keys are compared by `==`, which need not be equality: a key may count as the same
as another that looks different, and then the one that was written first stays. Nor
need every key count as the same as itself, and one that does not is never found.

## Main definitions

* `Ordered.find?` looks a key up, `Ordered.insert` writes it.
* `Ordered.merge` writes the entries of a second map over a first, `Ordered.ofEntries` those
  of a list over no map at all.
* `Ordered.Distinct` holds of the maps in which no two keys count as the same.
* `Ordered.firstOccurrences` picks the first of the keys that count as the same, by position.

## Main results

* `Ordered.find?_insert` says what a write changes, `Ordered.keys_insert` where the key goes.
* `Ordered.distinct_ofEntries` and `Ordered.ofEntries_of_distinct`: writing makes keys
  distinct, and entries whose keys are distinct already are left as they are.
* `Ordered.find?_merge`: of all that is written under a key, the last is found.
* `Ordered.keys_ofEntries`: keys stand in the order in which each was first written.
* `Ordered.ofEntries_flatten`: writing a map comes to writing what it was written from.
* `Ordered.merge_perm`: which entries result from writing a map over another does not depend on
  the order in which the entries of the two stand.
-/

namespace ListQuery

universe u v

/-- A map, as the list of its entries in the order of insertion. -/
abbrev Ordered (κ : Type u) (α : Type v) := List (κ × α)

namespace Ordered

variable {κ : Type u} {α : Type v}

/-- The keys, in the order in which they were first written. -/
def keys (map : Ordered κ α) : List κ := map.map Prod.fst

variable [BEq κ]

/-- The value under a key. -/
def find? (key : κ) : Ordered κ α → Option α
  | [] => none
  | (other, value) :: rest => if other == key then some value else find? key rest

/-- Writes a key: in its place if it is there, at the end if it is not. -/
def insert (key : κ) (value : α) : Ordered κ α → Ordered κ α
  | [] => [(key, value)]
  | (other, old) :: rest =>
    if other == key then (other, value) :: rest else (other, old) :: insert key value rest

/-- Whether a key is there. -/
def has (key : κ) (map : Ordered κ α) : Bool := (find? key map).isSome

/-- Writes every entry of the second map over the first, in order. -/
def merge (first second : Ordered κ α) : Ordered κ α :=
  second.foldl (fun map entry => insert entry.1 entry.2 map) first

/-- The map that results from writing the entries of a list in order. -/
def ofEntries (entries : List (κ × α)) : Ordered κ α := merge [] entries

/-- Whether two maps have the same keys, in any order, with values that agree. -/
def agrees (same : α → α → Bool) (first second : Ordered κ α) : Bool :=
  first.length = second.length && first.all fun entry =>
    match find? entry.1 second with
    | some value => same entry.2 value
    | none => false

/-- No two keys count as the same. -/
def Distinct (map : Ordered κ α) : Prop := (keys map).Pairwise fun a b => (a == b) = false

theorem has_iff_any (key : κ) (map : Ordered κ α) :
    has key map = (keys map).any fun other => other == key := by
  induction map with
  | nil => rfl
  | cons entry rest ih =>
    obtain ⟨other, value⟩ := entry
    cases same : other == key with
    | true => simp [has, find?, keys, same]
    | false =>
      simp only [has, find?, keys, same, List.map_cons, List.any_cons, Bool.false_or] at ih ⊢
      exact ih

theorem keys_insert (key : κ) (value : α) (map : Ordered κ α) :
    keys (insert key value map) = if has key map then keys map else keys map ++ [key] := by
  induction map with
  | nil => simp [insert, keys, has, find?]
  | cons entry rest ih =>
    obtain ⟨other, old⟩ := entry
    cases same : other == key with
    | true => simp [insert, keys, has, find?, same]
    | false =>
      simp only [insert, has, find?, same, keys, List.map_cons] at ih ⊢
      simp only [Bool.false_eq_true, if_false, List.map_cons, ih]
      split <;> simp_all

/-- A key that is not there goes to the end. -/
theorem insert_of_not_has {key : κ} {map : Ordered κ α} (new : has key map = false) (value : α) :
    insert key value map = map ++ [(key, value)] := by
  induction map with
  | nil => rfl
  | cons entry rest ih =>
    obtain ⟨other, old⟩ := entry
    cases same : other == key with
    | true => simp [has, find?, same] at new
    | false =>
      have later : has key rest = false := by simpa [has, find?, same] using new
      simp [insert, same, ih later]

/-- Entries whose keys are new and distinct are appended as they are. -/
theorem merge_of_distinct (entries : List (κ × α)) :
    ∀ {map : Ordered κ α}, Distinct (map ++ entries) → merge map entries = map ++ entries := by
  induction entries with
  | nil => intro map _; simp [merge]
  | cons entry rest ih =>
    intro map distinct
    have new : has entry.1 map = false := by
      rw [has_iff_any, List.any_eq_false]
      intro other there
      simp only [Distinct, keys, List.map_append, List.map_cons] at distinct
      simp [(List.pairwise_append.1 distinct).2.2 other there entry.1 List.mem_cons_self]
    have shifted : map ++ entry :: rest = (map ++ [entry]) ++ rest := by simp
    rw [shifted] at distinct ⊢
    rw [← ih distinct]
    simp [merge, insert_of_not_has new]

/-- Entries with distinct keys make the map that they are. -/
theorem ofEntries_of_distinct {entries : List (κ × α)} (distinct : Distinct entries) :
    ofEntries entries = entries := merge_of_distinct entries distinct

/-- Writing a key keeps the keys distinct. -/
theorem distinct_insert {map : Ordered κ α} (distinct : Distinct map) (key : κ) (value : α) :
    Distinct (insert key value map) := by
  rw [Distinct, keys_insert]
  split
  · exact distinct
  · next new =>
    rw [Bool.not_eq_true, has_iff_any, List.any_eq_false] at new
    refine List.pairwise_append.2 ⟨distinct, List.pairwise_singleton _ _, ?_⟩
    intro old there other same
    rw [List.mem_singleton.1 same]
    simpa using new old there

/-- Writing entries over a map with distinct keys keeps them distinct. -/
theorem distinct_merge (entries : List (κ × α)) :
    ∀ {map : Ordered κ α}, Distinct map → Distinct (merge map entries) := by
  induction entries with
  | nil => exact id
  | cons entry rest ih => exact fun distinct => ih (distinct_insert distinct entry.1 entry.2)

/-- A map that results from writing entries has distinct keys. -/
theorem distinct_ofEntries (entries : List (κ × α)) : Distinct (ofEntries entries) :=
  distinct_merge entries List.Pairwise.nil

/-- A write is seen under the keys that count as the same as the written one, and nowhere
else. -/
theorem find?_insert [PartialEquivBEq κ] (key other : κ) (value : α) (map : Ordered κ α) :
    find? other (insert key value map) = if key == other then some value else find? other map := by
  induction map with
  | nil => rfl
  | cons entry rest ih =>
    obtain ⟨first, old⟩ := entry
    cases same : first == key with
    | true =>
      have agree : (first == other) = (key == other) := BEq.congr_left same
      cases found : key == other <;> simp [insert, find?, same, agree, found]
    | false =>
      cases found : first == other with
      | false => simp only [insert, same, Bool.false_eq_true, if_false, find?, found, ih]
      | true =>
        -- the key read here cannot be the written one, which stands elsewhere
        have apart : (key == other) = false := by
          cases here : key == other with
          | false => rfl
          | true => exact absurd (BEq.trans found (BEq.symm here)) (by simp [same])
        simp [insert, find?, same, found, apart]

/-! ## Writing many entries -/

theorem merge_append (map first second : Ordered κ α) :
    merge map (first ++ second) = merge (merge map first) second := by
  rw [merge, List.foldl_append]
  rfl

/-- What is written last is written over all that was written before. -/
theorem ofEntries_concat (entries : List (κ × α)) (key : κ) (value : α) :
    ofEntries (entries ++ [(key, value)]) = insert key value (ofEntries entries) :=
  merge_append [] entries [(key, value)]

theorem find?_eq (key : κ) (map : Ordered κ α) :
    find? key map = (List.find? (fun entry => entry.1 == key) map).map Prod.snd := by
  induction map with
  | nil => rfl
  | cons entry rest ih =>
    rw [find?, List.find?_cons, ih]
    cases entry.1 == key <;> rfl

/-- Keys that count as the same are the same to look up. -/
theorem find?_congr [PartialEquivBEq κ] {key other : κ} (same : (key == other) = true)
    (map : Ordered κ α) : find? key map = find? other map := by
  simp only [find?_eq, BEq.congr_right same]

theorem find?_append (key : κ) (first second : Ordered κ α) :
    find? key (first ++ second) = (find? key first).or (find? key second) := by
  simp only [find?_eq, List.find?_append, Option.map_or]

/-- Under each key, the last entry that was written for it is found. -/
theorem find?_merge [PartialEquivBEq κ] (key : κ) (entries : List (κ × α)) :
    ∀ map : Ordered κ α,
      find? key (merge map entries) = (find? key entries.reverse).or (find? key map) := by
  induction entries with
  | nil => intro map; rfl
  | cons entry rest ih =>
    intro map
    -- the first entry is written over `map`, and the others over that
    have first : merge map (entry :: rest) = merge (insert entry.1 entry.2 map) rest := rfl
    rw [first, ih, find?_insert, List.reverse_cons, find?_append, Option.or_assoc]
    congr 1
    rw [find?]
    cases entry.1 == key <;> rfl

theorem find?_ofEntries [PartialEquivBEq κ] (key : κ) (entries : List (κ × α)) :
    find? key (ofEntries entries) = find? key entries.reverse := by
  rw [ofEntries, find?_merge]
  exact Option.or_none

/-! ## Where entries come from -/

/-- After a write, an entry is one of before, or it has the written value under a key that is
the same as the written one. -/
theorem mem_insert {key written : κ} {value new : α} {map : Ordered κ α}
    (there : (key, value) ∈ insert written new map) :
    (key, value) ∈ map ∨
      (value = new ∧ (key = written ∨ (key ∈ keys map ∧ (key == written) = true))) := by
  induction map with
  | nil =>
    obtain ⟨rfl, rfl⟩ := Prod.mk.inj (List.mem_singleton.1 there)
    exact Or.inr ⟨rfl, Or.inl rfl⟩
  | cons entry rest ih =>
    obtain ⟨other, old⟩ := entry
    cases same : other == written with
    | true =>
      simp only [insert, same, if_true] at there
      rcases List.mem_cons.1 there with first | later
      · obtain ⟨rfl, rfl⟩ := Prod.mk.inj first
        exact Or.inr ⟨rfl, Or.inr ⟨List.mem_cons_self, same⟩⟩
      · exact Or.inl (List.mem_cons_of_mem _ later)
    | false =>
      simp only [insert, same, Bool.false_eq_true, if_false] at there
      rcases List.mem_cons.1 there with first | later
      · exact Or.inl (first ▸ List.mem_cons_self)
      · rcases ih later with before | ⟨rfl, written | ⟨known, same⟩⟩
        · exact Or.inl (List.mem_cons_of_mem _ before)
        · exact Or.inr ⟨rfl, Or.inl written⟩
        · exact Or.inr ⟨rfl, Or.inr ⟨List.mem_cons_of_mem _ known, same⟩⟩

/-- What results from writing entries has only written keys and written values, a value under
a key that is the same as the one it was written under. -/
theorem mem_ofEntries {key : κ} {value : α} {entries : List (κ × α)}
    (there : (key, value) ∈ ofEntries entries) :
    key ∈ keys entries ∧ ∃ other, (other, value) ∈ entries ∧ (key = other ∨ key == other) := by
  -- from the last write back to the first
  obtain ⟨writes, rfl⟩ : ∃ writes : List (κ × α), entries = writes.reverse :=
    ⟨entries.reverse, entries.reverse_reverse.symm⟩
  induction writes generalizing key value with
  | nil => cases there
  | cons last earlier ih =>
    rw [List.reverse_cons, ofEntries_concat] at there
    rw [List.reverse_cons, keys, List.map_append, List.mem_append]
    rcases mem_insert there with before | ⟨rfl, rfl | ⟨known, same⟩⟩
    · obtain ⟨known, other, among, same⟩ := ih before
      exact ⟨Or.inl known, other, List.mem_append_left _ among, same⟩
    · exact ⟨Or.inr List.mem_cons_self, _, List.mem_append_right _ List.mem_cons_self,
        Or.inl rfl⟩
    · obtain ⟨⟨_, old⟩, among, rfl⟩ := List.mem_map.1 known
      exact ⟨Or.inl (ih among).1, _, List.mem_append_right _ List.mem_cons_self, Or.inr same⟩

/-- Values that are replaced by others, depending on their keys, are found in the same places. -/
theorem find?_map {β : Type v} (key : κ) (f : κ → α → β) (map : Ordered κ α) :
    find? key (map.map fun entry => (entry.1, f entry.1 entry.2)) =
      (List.find? (fun entry => entry.1 == key) map).map fun entry => f entry.1 entry.2 := by
  rw [find?_eq, List.find?_map, Option.map_map]
  rfl

/-- Where keys are distinct, what stands under a key is found, if the key can be found at all. -/
theorem find?_of_mem [PartialEquivBEq κ] {map : Ordered κ α} (distinct : Distinct map) {key : κ}
    {value : α} (there : (key, value) ∈ map) (found : (key == key) = true) :
    find? key map = some value := by
  induction map with
  | nil => cases there
  | cons entry rest ih =>
    obtain ⟨apart, distinct⟩ := List.pairwise_cons.1 distinct
    rw [find?]
    rcases List.mem_cons.1 there with rfl | later
    · rw [found, if_pos rfl]
    · rw [apart key (List.mem_map_of_mem later), if_neg Bool.false_ne_true]
      exact ih distinct later

/-! ## The order of keys -/

theorem has_ofEntries [PartialEquivBEq κ] (key : κ) (entries : List (κ × α)) :
    has key (ofEntries entries) = (keys entries).any fun other => other == key := by
  rw [has, find?_ofEntries, ← has, has_iff_any, keys, List.map_reverse, List.any_reverse, keys]

/-- The keys that count as none of those before them, in their order. -/
def firstOccurrences (keys : List κ) : List κ :=
  (keys.zipIdx.filter fun (key, i) => (keys.take i).all fun earlier => !(earlier == key)).map
    Prod.fst

theorem firstOccurrences_concat (keys : List κ) (key : κ) :
    firstOccurrences (keys ++ [key]) =
      if keys.any (fun earlier => earlier == key) then firstOccurrences keys
      else firstOccurrences keys ++ [key] := by
  -- the positions before the last have the same keys before them
  have before : (keys.zipIdx.filter fun (other, i) =>
      ((keys ++ [key]).take i).all fun earlier => !(earlier == other)).map Prod.fst =
      firstOccurrences keys := by
    rw [firstOccurrences]
    congr 1
    refine List.filter_congr fun ⟨other, i⟩ there => ?_
    have bound : i ≤ keys.length := Nat.le_of_lt (by simpa using List.snd_lt_of_mem_zipIdx there)
    dsimp only
    rw [List.take_append_of_le_length bound]
  have last : ((keys ++ [key]).take keys.length) = keys := by simp
  rw [firstOccurrences, List.zipIdx_append, List.filter_append, List.map_append, before]
  simp only [List.zipIdx_singleton, Nat.zero_add, List.filter_cons, List.filter_nil, last,
    ← List.not_any_eq_all_not]
  cases keys.any fun earlier => earlier == key <;> simp

/-- Written keys stand in the order in which each was first written. -/
theorem keys_ofEntries [PartialEquivBEq κ] (entries : List (κ × α)) :
    keys (ofEntries entries) = firstOccurrences (keys entries) := by
  obtain ⟨writes, rfl⟩ : ∃ writes : List (κ × α), entries = writes.reverse :=
    ⟨entries.reverse, entries.reverse_reverse.symm⟩
  induction writes with
  | nil => rfl
  | cons last earlier ih =>
    have split : keys (earlier.reverse ++ [last]) = keys earlier.reverse ++ [last.1] := by
      rw [keys, List.map_append]
      rfl
    rw [List.reverse_cons, ofEntries_concat, keys_insert, has_ofEntries, split,
      firstOccurrences_concat, ih]

/-! ## Writing what was written before -/

/-- A key that is written twice in a row has the second value. -/
theorem insert_insert [PartialEquivBEq κ] {key other : κ} (same : (other == key) = true)
    (value old : α) (map : Ordered κ α) :
    insert key value (insert other old map) = insert other value map := by
  induction map with
  | nil => simp [insert, same]
  | cons entry rest ih =>
    obtain ⟨first, present⟩ := entry
    have agree : (first == other) = (first == key) := BEq.congr_right same
    cases found : first == key <;> simp [insert, agree, found, ih]

/-- A key that is there is written in its place, before or after another key is. -/
theorem insert_comm [PartialEquivBEq κ] {key other : κ} (apart : (other == key) = false)
    (value new : α) {map : Ordered κ α} (there : has key map = true) :
    insert key value (insert other new map) = insert other new (insert key value map) := by
  induction map with
  | nil => cases there
  | cons entry rest ih =>
    obtain ⟨first, old⟩ := entry
    cases here : first == key with
    | true =>
      -- the other key is another one than that of this entry, so it is written further on
      have elsewhere : (first == other) = false := by
        rw [BEq.congr_left here, BEq.comm]
        exact apart
      simp [insert, here, elsewhere]
    | false =>
      have later : has key rest = true := by simpa [has, find?, here] using there
      cases found : first == other <;> simp [insert, here, found, ih later]

theorem has_insert [PartialEquivBEq κ] (key other : κ) (value : α) (map : Ordered κ α) :
    has other (insert key value map) = (key == other || has other map) := by
  rw [has, find?_insert, has]
  cases key == other <;> simp

/-- Writing a key that is there already may wait until other keys are written. -/
theorem insert_merge [PartialEquivBEq κ] {key : κ} (value : α) {entries : List (κ × α)}
    (apart : ∀ entry ∈ entries, (entry.1 == key) = false) :
    ∀ {map : Ordered κ α}, has key map = true →
      insert key value (merge map entries) = merge (insert key value map) entries := by
  induction entries with
  | nil => exact fun _ => rfl
  | cons entry rest ih =>
    intro map there
    obtain ⟨elsewhere, apart⟩ := List.forall_mem_cons.1 apart
    have still : has key (insert entry.1 entry.2 map) = true := by
      rw [has_insert, there, Bool.or_true]
    calc insert key value (merge (insert entry.1 entry.2 map) rest)
      _ = merge (insert key value (insert entry.1 entry.2 map)) rest := ih apart still
      _ = merge (insert entry.1 entry.2 (insert key value map)) rest := by
        rw [insert_comm elsewhere value entry.2 there]

/-- To write a map after another key was written to it is to write the map and then the key. -/
theorem merge_insert [PartialEquivBEq κ] (key : κ) (value : α) {second : Ordered κ α}
    (distinct : Distinct second) : ∀ first : Ordered κ α,
      merge first (insert key value second) = insert key value (merge first second) := by
  induction second with
  | nil => exact fun _ => rfl
  | cons entry rest ih =>
    intro first
    obtain ⟨other, old⟩ := entry
    obtain ⟨apart, distinct⟩ := List.pairwise_cons.1 distinct
    cases same : other == key with
    | false =>
      have later : insert key value ((other, old) :: rest) =
          (other, old) :: insert key value rest := by simp [insert, same]
      rw [later]
      exact ih distinct (insert other old first)
    | true =>
      have here : insert key value ((other, old) :: rest) = (other, value) :: rest := by
        simp [insert, same]
      have elsewhere : ∀ entry ∈ rest, (entry.1 == key) = false := by
        intro entry among
        have different := apart entry.1 (List.mem_map_of_mem among)
        rw [BEq.congr_left same, BEq.comm] at different
        exact different
      have there : has key (insert other old first) = true := by
        rw [has_insert, same, Bool.true_or]
      rw [here]
      calc merge (insert other value first) rest
        _ = merge (insert key value (insert other old first)) rest := by
          rw [insert_insert same]
        _ = insert key value (merge (insert other old first) rest) :=
          (insert_merge value elsewhere there).symm

/-- To write a map is to write, one after the other, all that was written to it. -/
theorem merge_ofEntries [PartialEquivBEq κ] (map : Ordered κ α) (entries : List (κ × α)) :
    merge map (ofEntries entries) = merge map entries := by
  -- from the last write back to the first
  obtain ⟨writes, rfl⟩ : ∃ writes : List (κ × α), entries = writes.reverse :=
    ⟨entries.reverse, entries.reverse_reverse.symm⟩
  induction writes with
  | nil => rfl
  | cons last earlier ih =>
    rw [List.reverse_cons, ofEntries_concat, merge_insert _ _ (distinct_ofEntries _), ih,
      merge_append]
    rfl

/-- The map of some entries with the map of others among them is the map of all of them. -/
theorem ofEntries_flatten [PartialEquivBEq κ] (before inner after : List (κ × α)) :
    ofEntries (before ++ ofEntries inner ++ after) = ofEntries (before ++ inner ++ after) := by
  simp only [ofEntries, merge_append]
  rw [← ofEntries, ← ofEntries, merge_ofEntries]

/-! ## Entries in another order -/

/-- Keys stay distinct when entries are moved. -/
theorem Distinct.perm [PartialEquivBEq κ] {first second : Ordered κ α} (distinct : Distinct first)
    (moved : first.Perm second) : Distinct second := by
  refine (moved.map Prod.fst).pairwise distinct ?_
  intro a b apart
  rwa [BEq.comm]

/-- Where keys are distinct, a key is found wherever it stands. -/
theorem find?_perm [PartialEquivBEq κ] {first second : Ordered κ α} (distinct : Distinct first)
    (moved : first.Perm second) (key : κ) : find? key first = find? key second := by
  induction moved with
  | nil => rfl
  | cons entry _ ih =>
    rw [find?, find?, ih (List.pairwise_cons.1 distinct).2]
  | swap entry other rest =>
    have apart := (List.pairwise_cons.1 distinct).1 entry.1 List.mem_cons_self
    simp only [find?]
    -- only one of the two entries can be the one that is looked for
    cases here : entry.1 == key with
    | false => rfl
    | true =>
      have elsewhere : (other.1 == key) = false := by rwa [BEq.congr_right here] at apart
      rw [elsewhere]
      rfl
  | trans moved _ ih ih' =>
    rw [ih distinct, ih' (distinct.perm moved)]

/-- Of maps with distinct keys that are written one after the other, the last that has a key
decides. -/
theorem find?_ofEntries_flatMap [PartialEquivBEq κ] {β : Type v} {maps : List β}
    {f : β → Ordered κ α} (distinct : ∀ map ∈ maps, Distinct (f map)) (key : κ) :
    find? key (ofEntries (maps.flatMap f)) =
      maps.reverse.findSome? fun map => find? key (f map) := by
  rw [find?_ofEntries]
  induction maps with
  | nil => rfl
  | cons map rest ih =>
    obtain ⟨here, later⟩ := List.forall_mem_cons.1 distinct
    rw [List.flatMap_cons, List.reverse_append, find?_append, ih later, List.reverse_cons,
      List.findSome?_append,
      find?_perm (here.perm (List.reverse_perm _).symm) (List.reverse_perm _)]
    cases List.findSome? (fun map => find? key (f map)) rest.reverse <;> simp

theorem insert_perm [PartialEquivBEq κ] {first second : Ordered κ α} (distinct : Distinct first)
    (moved : first.Perm second) (key : κ) (value : α) :
    (insert key value first).Perm (insert key value second) := by
  induction moved with
  | nil => exact .refl _
  | cons entry moved ih =>
    rw [insert, insert]
    split
    · exact moved.cons _
    · exact (ih (List.pairwise_cons.1 distinct).2).cons entry
  | swap entry other rest =>
    have apart := (List.pairwise_cons.1 distinct).1 entry.1 List.mem_cons_self
    simp only [insert]
    cases here : entry.1 == key with
    | false => cases other.1 == key <;> exact .swap _ _ _
    | true =>
      have elsewhere : (other.1 == key) = false := by rwa [BEq.congr_right here] at apart
      rw [elsewhere]
      exact .swap _ _ _
  | trans moved _ ih ih' =>
    exact (ih distinct).trans (ih' (distinct.perm moved))

/-- In whichever order two keys are written, the same entries result. -/
theorem insert_insert_perm [PartialEquivBEq κ] {key other : κ} (apart : (key == other) = false)
    (value new : α) (map : Ordered κ α) :
    (insert key value (insert other new map)).Perm (insert other new (insert key value map)) := by
  have apart' : (other == key) = false := by rwa [BEq.comm]
  cases there : has key map with
  | true => rw [insert_comm apart' value new there]
  | false =>
    cases there' : has other map with
    | true => rw [insert_comm apart new value there']
    | false =>
      -- both go to the end, one behind the other
      have still : has key (insert other new map) = false := by simp [has_insert, apart', there]
      have still' : has other (insert key value map) = false := by simp [has_insert, apart, there']
      rw [insert_of_not_has still, insert_of_not_has still', insert_of_not_has there,
        insert_of_not_has there', List.append_assoc, List.append_assoc]
      exact (List.Perm.swap _ _ []).append_left map

theorem merge_perm_left [PartialEquivBEq κ] (entries : List (κ × α)) :
    ∀ {first second : Ordered κ α}, Distinct first → first.Perm second →
      (merge first entries).Perm (merge second entries) := by
  induction entries with
  | nil => exact fun _ moved => moved
  | cons entry rest ih =>
    intro first second distinct moved
    exact ih (distinct_insert distinct entry.1 entry.2)
      (insert_perm distinct moved entry.1 entry.2)

/-- A map that is written over another gives the same entries, in whichever order the entries of
both stand. -/
theorem merge_perm [PartialEquivBEq κ] {first second : Ordered κ α} {entries others : List (κ × α)}
    (distinct : Distinct first) (apart : Distinct entries) (moved : first.Perm second)
    (moved' : entries.Perm others) : (merge first entries).Perm (merge second others) := by
  refine (merge_perm_left entries distinct moved).trans ?_
  replace distinct := distinct.perm moved
  clear moved
  induction moved' generalizing second with
  | nil => exact .refl _
  | cons entry _ ih =>
    exact ih (List.pairwise_cons.1 apart).2 (distinct_insert distinct entry.1 entry.2)
  | swap entry other rest =>
    have different := (List.pairwise_cons.1 apart).1 entry.1 List.mem_cons_self
    refine merge_perm_left rest ?_ ?_
    · exact distinct_insert (distinct_insert distinct other.1 other.2) entry.1 entry.2
    · exact insert_insert_perm (by rwa [BEq.comm]) entry.2 other.2 second
  | trans moved _ ih ih' =>
    exact (ih apart distinct).trans (ih' (apart.perm moved) distinct)

/-! ## Replaced values -/

section Values

variable {β : Type v}

theorem find?_map_snd (key : κ) (f : α → β) (map : Ordered κ α) :
    find? key (map.map fun entry => (entry.1, f entry.2)) = (find? key map).map f := by
  rw [find?_map key fun _ => f, find?_eq, Option.map_map]
  rfl

theorem has_map_snd (key : κ) (f : α → β) (map : Ordered κ α) :
    has key (map.map fun entry => (entry.1, f entry.2)) = has key map := by
  rw [has, find?_map_snd, Option.isSome_map, has]

/-- Writing commutes with replacing the values. -/
theorem insert_map_snd (key : κ) (f : α → β) (value : α) (map : Ordered κ α) :
    insert key (f value) (map.map fun entry => (entry.1, f entry.2)) =
      (insert key value map).map fun entry => (entry.1, f entry.2) := by
  induction map with
  | nil => rfl
  | cons entry rest ih =>
    simp only [List.map_cons, insert]
    cases entry.1 == key with
    | true => rfl
    | false => simp [ih]

theorem merge_map_snd (f : α → β) (entries : List (κ × α)) : ∀ map : Ordered κ α,
    merge (map.map fun entry => (entry.1, f entry.2))
        (entries.map fun entry => (entry.1, f entry.2)) =
      (merge map entries).map fun entry => (entry.1, f entry.2) := by
  induction entries with
  | nil => exact fun _ => rfl
  | cons entry rest ih =>
    intro map
    have first := insert_map_snd entry.1 f entry.2 map
    rw [List.map_cons, merge, List.foldl_cons]
    dsimp only
    rw [first]
    exact ih (insert entry.1 entry.2 map)

end Values

/-! ## Entries in the middle -/

section Middle

variable {key : κ} {done rest : Ordered κ α} {old : α}

/-- A key is found behind entries with other keys. -/
theorem find?_middle (apart : ∀ other ∈ keys done, (other == key) = false)
    (same : (key == key) = true) (value : α) :
    find? key (done ++ (key, value) :: rest) = some value := by
  induction done with
  | nil => rw [List.nil_append, find?, if_pos same]
  | cons entry earlier ih =>
    obtain ⟨here, later⟩ := List.forall_mem_cons.1 apart
    rw [List.cons_append, find?, here, if_neg Bool.false_ne_true]
    exact ih later

theorem insert_middle (apart : ∀ other ∈ keys done, (other == key) = false)
    (same : (key == key) = true) (value : α) :
    insert key value (done ++ (key, old) :: rest) = done ++ (key, value) :: rest := by
  induction done with
  | nil => rw [List.nil_append, insert, if_pos same, List.nil_append]
  | cons entry earlier ih =>
    obtain ⟨here, later⟩ := List.forall_mem_cons.1 apart
    rw [List.cons_append, insert, here, if_neg Bool.false_ne_true, ih later, List.cons_append]

end Middle

end Ordered

end ListQuery
