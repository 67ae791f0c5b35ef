import ListQuery.Value.Key
import Mathlib.Data.List.Forall2

/-!
# Values up to the order of keys

Two values are alike if they differ only in the order in which the entries of maps stand, at any
depth. Sequences have their items in the same order.

Maps are compared in two steps: the entries of the first are moved about, and then stand in the
places of the entries of the second that have the same keys. Either step commutes with writing one
map over another. Moving does, as long as no map has the same key twice, and replacing values always
does.

## Main definitions

* `Ordered.Rearranged` relates two maps with the same keys in any order, by what is under them.
* `Value.Alike` relates values that differ in the order of keys only.

## Main results

* `Ordered.Rearranged.merge` and `Ordered.Rearranged.ofEntries_flatMap`: writing rearranged maps one
  over the other gives rearranged maps.
-/

namespace ListQuery

namespace Ordered

universe u v w

variable {κ : Type u} {α : Type v} {R S : κ → α → α → Prop}

/-- Two entries have the same key, and their values are related under this key. -/
inductive SameKey (R : κ → α → α → Prop) : κ × α → κ × α → Prop
  | under {key : κ} {value other : α} (related : R key value other) :
      SameKey R (key, value) (key, other)

/-- Two maps have the same keys in any order, with values that are related. -/
def Rearranged (R : κ → α → α → Prop) (first second : Ordered κ α) : Prop :=
  ∃ middle, first.Perm middle ∧ List.Forall₂ (SameKey R) middle second

variable {first second : Ordered κ α}

theorem keys_eq_of_forall₂ (each : List.Forall₂ (SameKey R) first second) :
    keys first = keys second := by
  induction each with
  | nil => rfl
  | cons same _ ih =>
    cases same
    rw [keys, List.map_cons, ← keys, ih]
    rfl

theorem Rearranged.refl (each : ∀ entry ∈ first, R entry.1 entry.2 entry.2) :
    Rearranged R first first :=
  ⟨first, .refl first, List.forall₂_same.2 fun entry there => .under (each entry there)⟩

/-- Rearranged maps have the same keys. -/
theorem Rearranged.keys_perm (rearranged : Rearranged R first second) :
    (keys first).Perm (keys second) := by
  obtain ⟨middle, moved, each⟩ := rearranged
  rw [← keys_eq_of_forall₂ each]
  exact moved.map Prod.fst

/-- What is related in one way under the keys of a map may be related in another. -/
theorem Rearranged.mono (rearranged : Rearranged R first second)
    (imp : ∀ entry ∈ first, ∀ other, R entry.1 entry.2 other → S entry.1 entry.2 other) :
    Rearranged S first second := by
  obtain ⟨middle, moved, each⟩ := rearranged
  have among := (List.forall₂_and_left middle second).2
    ⟨fun entry there => moved.mem_iff.2 there, each⟩
  refine ⟨middle, moved, among.imp ?_⟩
  rintro _ _ ⟨there, same⟩
  cases same with
  | under related => exact .under (imp _ there _ related)

theorem Rearranged.filter (rearranged : Rearranged R first second) (p : κ → Bool) :
    Rearranged R (first.filter fun entry => p entry.1) (second.filter fun entry => p entry.1) := by
  obtain ⟨middle, moved, each⟩ := rearranged
  refine ⟨_, moved.filter _, List.rel_filter ?_ each⟩
  rintro _ _ ⟨⟩
  exact Iff.rfl

theorem Rearranged.map (f : κ → α → α)
    (rearranged : Rearranged (fun key value other => R key (f key value) (f key other))
      first second) :
    Rearranged R (first.map fun entry => (entry.1, f entry.1 entry.2))
      (second.map fun entry => (entry.1, f entry.1 entry.2)) := by
  obtain ⟨middle, moved, each⟩ := rearranged
  refine ⟨_, moved.map _, ?_⟩
  rw [List.forall₂_map_left_iff, List.forall₂_map_right_iff]
  refine each.imp ?_
  rintro _ _ ⟨related⟩
  exact .under related

/-! ## Writing rearranged maps -/

section Writing

variable [BEq κ] {R : α → α → Prop}

theorem forall₂_insert (key : κ) {value other : α} (related : R value other)
    (each : List.Forall₂ (SameKey fun _ => R) first second) :
    List.Forall₂ (SameKey fun _ => R) (insert key value first) (insert key other second) := by
  induction each with
  | nil => exact .cons (.under related) .nil
  | cons same rest ih =>
    cases same with
    | under old =>
      rw [insert, insert]
      split
      · exact .cons (.under related) rest
      · exact .cons (.under old) ih

theorem forall₂_merge {entries others : Ordered κ α}
    (written : List.Forall₂ (SameKey fun _ => R) entries others) :
    ∀ {first second : Ordered κ α}, List.Forall₂ (SameKey fun _ => R) first second →
      List.Forall₂ (SameKey fun _ => R) (merge first entries) (merge second others) := by
  induction written with
  | nil => exact id
  | cons same _ ih =>
    intro first second each
    cases same with
    | under related => exact ih (forall₂_insert _ related each)

variable [PartialEquivBEq κ]

/-- To write a map over another is to write a rearranged map over a rearranged one, but for the
order. -/
theorem Rearranged.merge {entries others : Ordered κ α} (distinct : Distinct first)
    (apart : Distinct entries) (rearranged : Rearranged (fun _ => R) first second)
    (written : Rearranged (fun _ => R) entries others) :
    Rearranged (fun _ => R) (merge first entries) (merge second others) := by
  obtain ⟨middle, moved, each⟩ := rearranged
  obtain ⟨between, moved', each'⟩ := written
  exact ⟨_, merge_perm distinct apart moved moved', forall₂_merge each' each⟩

/-- Rearranged maps that are written one after the other give a rearranged map. -/
theorem Rearranged.ofEntries_flatMap {β : Type w} {f : β → Ordered κ α} {items others : List β}
    (distinct : ∀ item ∈ items, Distinct (f item))
    (each : List.Forall₂ (fun item other => Rearranged (fun _ => R) (f item) (f other))
      items others) :
    Rearranged (fun _ => R) (ofEntries (items.flatMap f)) (ofEntries (others.flatMap f)) := by
  -- generalized over the maps that were written before
  suffices written : ∀ {first second : Ordered κ α}, Distinct first →
      Rearranged (fun _ => R) first second →
        Rearranged (fun _ => R) (Ordered.merge first (items.flatMap f))
          (Ordered.merge second (others.flatMap f)) from
    written List.Pairwise.nil ⟨[], .refl [], .nil⟩
  induction each with
  | nil => exact fun _ rearranged => rearranged
  | @cons item other _ _ here _ ih =>
    obtain ⟨apart, distinct⟩ := List.forall_mem_cons.1 distinct
    intro first second free rearranged
    rw [List.flatMap_cons, List.flatMap_cons, merge_append, merge_append]
    exact ih distinct (distinct_merge (f item) free) (rearranged.merge free apart here)

end Writing

end Ordered

namespace Value

open Ordered (SameKey Rearranged)

/-- Two values differ at most in the order in which the entries of maps stand. -/
inductive Alike : Value → Value → Prop
  | refl (value : Value) : Alike value value
  | list {items others : List Value} (each : List.Forall₂ Alike items others) :
      Alike (.list items) (.list others)
  | tuple {items others : List Value} (each : List.Forall₂ Alike items others) :
      Alike (.tuple items) (.tuple others)
  | map {entries middle others : List (Value × Value)} (moved : entries.Perm middle)
      (each : List.Forall₂ (SameKey fun _ => Alike) middle others) :
      Alike (.map entries) (.map others)

theorem Alike.of_rearranged {entries others : List (Value × Value)}
    (rearranged : Rearranged (fun _ => Alike) entries others) :
    Alike (.map entries) (.map others) := by
  obtain ⟨middle, moved, each⟩ := rearranged
  exact .map moved each

theorem forall₂_alike_refl (items : List Value) : List.Forall₂ Alike items items :=
  List.forall₂_same.2 fun item _ => .refl item

end Value

end ListQuery
