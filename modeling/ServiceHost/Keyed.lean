/-!
This module contains collections keyed by text and kept in ascending order of their keys. Texts are
compared by code point, which is also the order of their bytes.
-/

namespace ServiceHost
namespace Entries

variable {α : Type}

def insert (key : String) (value : α) : List (String × α) → List (String × α)
  | [] => [(key, value)]
  | (k, v) :: rest =>
    if key < k then
      (key, value) :: (k, v) :: rest
    else if key = k then
      (key, value) :: rest
    else
      (k, v) :: insert key value rest

def find? (key : String) : List (String × α) → Option α
  | [] => none
  | (k, v) :: rest => if key = k then some v else find? key rest

def modify (key : String) (f : α → α) : List (String × α) → List (String × α)
  | [] => []
  | (k, v) :: rest => if key = k then (k, f v) :: rest else (k, v) :: modify key f rest

def Ascending (entries : List (String × α)) : Prop :=
  entries.Pairwise fun a b => a.1 < b.1

instance (entries : List (String × α)) : Decidable (Ascending entries) :=
  inferInstanceAs (Decidable (entries.Pairwise fun a b => a.1 < b.1))

theorem mem_of_mem_insert {key : String} {value : α} {entries : List (String × α)} {entry : String × α}
    (h : entry ∈ insert key value entries) : entry = (key, value) ∨ entry ∈ entries := by
  induction entries with
  | nil => simpa [insert] using h
  | cons first rest ih =>
    simp only [insert] at h
    split at h
    . simpa using h
    . split at h
      . rw [List.mem_cons] at h
        cases h with
        | inl h => exact .inl h
        | inr h => exact .inr (List.mem_cons_of_mem first h)
      . rw [List.mem_cons] at h
        cases h with
        | inl h => exact .inr (h ▸ List.mem_cons_self)
        | inr h =>
          cases ih h with
          | inl h => exact .inl h
          | inr h => exact .inr (List.mem_cons_of_mem first h)

theorem ascending_insert {entries : List (String × α)} (h : Ascending entries) (key : String) (value : α) :
    Ascending (insert key value entries) := by
  induction entries with
  | nil => exact List.pairwise_singleton _ _
  | cons entry rest ih =>
    obtain ⟨hfirst, hrest⟩ := List.pairwise_cons.mp h
    simp only [insert]
    split
    . next hlt =>
      refine List.pairwise_cons.mpr ⟨?_, h⟩
      rw [List.forall_mem_cons]
      exact ⟨hlt, fun other hother => String.lt_trans hlt (hfirst other hother)⟩
    . next hlt =>
      split
      . next heq =>
        subst heq
        exact List.pairwise_cons.mpr ⟨hfirst, hrest⟩
      . next hne =>
        refine List.pairwise_cons.mpr ⟨?_, ih hrest⟩
        intro other hother
        cases mem_of_mem_insert hother with
        | inl hnew =>
          rw [hnew]
          exact Std.lt_of_le_of_ne (String.not_lt.mp hlt) (Ne.symm hne)
        | inr hold => exact hfirst other hold

theorem map_key_modify (key : String) (f : α → α) (entries : List (String × α)) :
    (modify key f entries).map (·.1) = entries.map (·.1) := by
  induction entries with
  | nil => rfl
  | cons entry rest ih =>
    simp only [modify]
    split
    . rfl
    . rw [List.map_cons, List.map_cons, ih]

theorem ascending_iff_keys {entries : List (String × α)} :
    Ascending entries ↔ (entries.map (·.1)).Pairwise (· < ·) := by
  unfold Ascending
  rw [List.pairwise_map]

theorem ascending_modify {entries : List (String × α)} (h : Ascending entries) (key : String) (f : α → α) :
    Ascending (modify key f entries) := by
  rw [ascending_iff_keys, map_key_modify]
  exact ascending_iff_keys.mp h

end Entries

@[ext]
structure Keyed (α : Type) where
  entries : List (String × α)
  ascending : Entries.Ascending entries
  deriving DecidableEq

namespace Keyed

variable {α β : Type}

instance : Membership (String × α) (Keyed α) :=
  ⟨fun collection entry => entry ∈ collection.entries⟩

instance [DecidableEq α] (entry : String × α) (collection : Keyed α) : Decidable (entry ∈ collection) :=
  inferInstanceAs (Decidable (entry ∈ collection.entries))

instance [Repr α] : Repr (Keyed α) :=
  ⟨fun collection => reprPrec collection.entries⟩

def empty : Keyed α :=
  ⟨[], .nil⟩

def insert (key : String) (value : α) (collection : Keyed α) : Keyed α :=
  ⟨Entries.insert key value collection.entries, Entries.ascending_insert collection.ascending key value⟩

def find? (key : String) (collection : Keyed α) : Option α :=
  Entries.find? key collection.entries

def contains (key : String) (collection : Keyed α) : Bool :=
  (collection.find? key).isSome

def modify (key : String) (f : α → α) (collection : Keyed α) : Keyed α :=
  ⟨Entries.modify key f collection.entries, Entries.ascending_modify collection.ascending key f⟩

def keys (collection : Keyed α) : List String :=
  collection.entries.map (·.1)

def length (collection : Keyed α) : Nat :=
  collection.entries.length

def map (f : String × α → β) (collection : Keyed α) : List β :=
  collection.entries.map f

/-- The collection of some pairs; of two with one key the later counts. -/
def ofList (pairs : List (String × α)) : Keyed α :=
  pairs.foldl (fun collection (key, value) => collection.insert key value) .empty

end Keyed

end ServiceHost
