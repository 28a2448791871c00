import Mathlib.Data.List.Forall2
import Mathlib.Data.String.Basic
import ServiceHost.Keyed

/-!
This module contains what is found in a collection after a value was put into it. The collection of some pairs is
the one way to write them with ascending keys.
-/

namespace ServiceHost

namespace Entries

variable {α : Type}

theorem find?_insert (key k : String) (value : α) (entries : List (String × α)) :
    find? k (insert key value entries) = if k = key then some value else find? k entries := by
  induction entries with
  | nil => simp [insert, find?]
  | cons entry rest ih =>
    simp only [insert]
    split
    . simp [find?]
    . split
      . next heq =>
        subst heq
        simp only [find?]
        split
        . rfl
        . rfl
      . next hne =>
        simp only [find?]
        rw [ih]
        split
        . next h =>
          subst h
          simp [Ne.symm hne]
        . rfl

theorem find?_modify (key k : String) (f : α → α) (entries : List (String × α)) :
    find? k (modify key f entries) = if k = key then (find? k entries).map f else find? k entries := by
  induction entries with
  | nil => simp [modify, find?]
  | cons entry rest ih =>
    simp only [modify]
    split
    . next heq =>
      subst heq
      simp only [find?]
      split
      . rfl
      . rfl
    . next hne =>
      simp only [find?]
      rw [ih]
      split
      . next h =>
        subst h
        simp [Ne.symm hne]
      . rfl

theorem modify_eq_self {key : String} {f : α → α} {entries : List (String × α)}
    (h : ∀ value, find? key entries = some value → f value = value) : modify key f entries = entries := by
  induction entries with
  | nil => rfl
  | cons entry rest ih =>
    unfold find? at h
    simp only [modify]
    split
    . next heq => rw [h entry.2 (if_pos heq)]
    . next hne =>
      rw [if_neg hne] at h
      rw [ih h]

theorem find?_eq_list_find? (key : String) (entries : List (String × α)) :
    find? key entries = (List.find? (fun entry => entry.1 == key) entries).map (·.2) := by
  induction entries with
  | nil => rfl
  | cons entry rest ih =>
    unfold find?
    rw [List.find?_cons, ih]
    by_cases h : key = entry.1
    . simp [h]
    . have hne : (entry.1 == key) = false := beq_eq_false_iff_ne.mpr (Ne.symm h)
      rw [if_neg h, hne]

theorem mem_of_find? {key : String} {entries : List (String × α)} {value : α} (h : find? key entries = some value) :
    (key, value) ∈ entries := by
  rw [find?_eq_list_find?, Option.map_eq_some_iff] at h
  obtain ⟨entry, hentry, rfl⟩ := h
  have hkey := List.find?_some hentry
  rw [beq_iff_eq] at hkey
  rw [← hkey]
  exact List.mem_of_find?_eq_some hentry

theorem mem_of_lookup {κ : Type} [BEq κ] [LawfulBEq κ] {pairs : List (κ × α)} {key : κ} {value : α}
    (h : pairs.lookup key = some value) : (key, value) ∈ pairs := by
  obtain ⟨before, after, rfl, -⟩ := List.lookup_eq_some_iff.mp h
  rw [List.mem_append, List.mem_cons]
  exact .inr (.inl rfl)

theorem lookup_filter (p : String → Prop) [DecidablePred p] (key : String) (pairs : List (String × α)) :
    (pairs.filter fun pair => p pair.1).lookup key = if p key then pairs.lookup key else none := by
  induction pairs with
  | nil => exact (ite_self none).symm
  | cons pair pairs ih =>
    obtain ⟨k, value⟩ := pair
    rw [List.filter_cons]
    by_cases hkey : key = k
    . subst hkey
      by_cases hp : p key
      . simp [hp]
      . simp only [hp, decide_false, Bool.false_eq_true, if_false] at ih ⊢
        exact ih
    . have hne : (key == k) = false := beq_eq_false_iff_ne.mpr hkey
      by_cases hp : p k
      . simp only [hp, decide_true, if_true, List.lookup_cons, hne, ih]
      . simp only [hp, decide_false, Bool.false_eq_true, if_false, List.lookup_cons, hne, ih]

theorem find?_eq_some_iff {entries : List (String × α)} (h : (entries.map (·.1)).Nodup) {key : String} {value : α} :
    find? key entries = some value ↔ (key, value) ∈ entries := by
  induction entries with
  | nil => simp [find?]
  | cons entry rest ih =>
    obtain ⟨k, v⟩ := entry
    obtain ⟨hnew, hrest⟩ := List.nodup_cons.mp h
    simp only [find?, List.mem_cons, Prod.mk.injEq]
    split
    . next heq =>
      subst heq
      have hnone : (key, value) ∉ rest := fun hmem => hnew (List.mem_map.mpr ⟨_, hmem, rfl⟩)
      simp [hnone, eq_comm]
    . next hne => simp [hne, ih hrest]

theorem mem_keys_iff {key : String} {entries : List (String × α)} :
    key ∈ entries.map (·.1) ↔ (find? key entries).isSome := by
  rw [find?_eq_list_find?, Option.isSome_map, List.find?_isSome]
  simp

theorem ascending_nodup {entries : List (String × α)} (h : Ascending entries) : (entries.map (·.1)).Nodup :=
  (ascending_iff_keys.mp h).imp fun hlt => ne_of_lt hlt

theorem forall₂_iff {β : Type} {entries : List (String × α)} {members : List (String × β)} {r : α → β → Prop}
    (h : (entries.map (·.1)).Nodup) :
    List.Forall₂ (fun entry member => entry.1 = member.1 ∧ r entry.2 member.2) entries members
      ↔
    members.map (·.1) = (entries.map (·.1)) ∧ ∀ member ∈ members, ∃ a, (member.1, a) ∈ entries ∧ r a member.2 := by
  induction entries generalizing members with
  | nil =>
    rw [List.forall₂_nil_left_iff]
    constructor
    . rintro rfl
      exact ⟨rfl, fun _ hmem => absurd hmem List.not_mem_nil⟩
    . rintro ⟨hkeys, -⟩
      exact List.map_eq_nil_iff.mp hkeys
  | cons entry rest ih =>
    obtain ⟨k, a⟩ := entry
    obtain ⟨hnew, hrest⟩ := List.nodup_cons.mp h
    rw [List.forall₂_cons_left_iff]
    constructor
    . rintro ⟨⟨_, b⟩, members, ⟨rfl, hb⟩, hall, rfl⟩
      obtain ⟨hkeys, hall⟩ := (ih hrest).mp hall
      refine ⟨congrArg (k :: ·) hkeys, ?_⟩
      rw [List.forall_mem_cons]
      refine ⟨⟨a, List.mem_cons_self, hb⟩, ?_⟩
      intro member hmember
      obtain ⟨a', ha', hb'⟩ := hall member hmember
      exact ⟨a', List.mem_cons_of_mem _ ha', hb'⟩
    . rintro ⟨hkeys, hall⟩
      cases members with
      | nil => cases hkeys
      | cons member members =>
        obtain ⟨k', b⟩ := member
        have htail : members.map (·.1) = (rest.map (·.1)) := (List.cons_eq_cons.mp hkeys).2
        obtain rfl : k' = k := (List.cons_eq_cons.mp hkeys).1
        have hnew' : ∀ a, (k', a) ∉ rest := fun a hmem => hnew (List.mem_map.mpr ⟨_, hmem, rfl⟩)
        rw [List.forall_mem_cons] at hall
        obtain ⟨⟨a', ha', hb⟩, hall⟩ := hall
        have haa' : a' = a := by
          cases List.mem_cons.mp ha' with
          | inl heq => exact (Prod.mk.inj heq).2
          | inr hmem => exact absurd hmem (hnew' a')
        subst haa'
        refine ⟨(k', b), members, ⟨rfl, hb⟩, (ih hrest).mpr ⟨htail, ?_⟩, rfl⟩
        intro member hmember
        obtain ⟨a, ha, hr⟩ := hall member hmember
        cases List.mem_cons.mp ha with
        | inl heq =>
          -- the key comes only once among the members, as it does among the entries
          have hkey : member.1 ∈ (rest.map (·.1)) := htail ▸ List.mem_map_of_mem hmember
          rw [(Prod.mk.inj heq).1] at hkey
          exact absurd hkey hnew
        | inr hmem => exact ⟨a, hmem, hr⟩

theorem insert_perm {key : String} {value : α} {entries : List (String × α)} (h : key ∉ (entries.map (·.1))) :
    (insert key value entries).Perm ((key, value) :: entries) := by
  induction entries with
  | nil => exact .refl _
  | cons entry rest ih =>
    rw [List.map_cons, List.mem_cons, not_or] at h
    simp only [insert]
    split
    . exact .refl _
    . rw [if_neg h.1]
      exact ((ih h.2).cons entry).trans (.swap _ _ _)

theorem foldl_insert_perm (pairs : List (String × α)) (entries : List (String × α))
    (h : (entries.map (·.1) ++ pairs.map (·.1)).Nodup) :
    (pairs.foldl (fun entries (key, value) => insert key value entries) entries).Perm (entries ++ pairs) := by
  induction pairs generalizing entries with
  | nil => simp
  | cons pair pairs ih =>
    rw [List.map_cons] at h
    have hnew : pair.1 ∉ entries.map (·.1) := by
      intro hmem
      exact (List.nodup_append.mp h).2.2 _ hmem _ List.mem_cons_self rfl
    have hinsert : (insert pair.1 pair.2 entries).Perm (entries ++ [pair]) :=
      (insert_perm hnew).trans (List.perm_append_singleton pair entries).symm
    have hkeys : ((insert pair.1 pair.2 entries).map (·.1) ++ pairs.map (·.1)).Nodup := by
      have hperm := (hinsert.map (·.1)).append_right (pairs.map (·.1))
      rw [List.map_append, List.append_assoc] at hperm
      exact hperm.nodup_iff.mpr h
    have hall := (ih _ hkeys).trans (hinsert.append_right pairs)
    rw [List.append_assoc] at hall
    exact hall

theorem eq_of_perm {entries entries' : List (String × α)} (h : Ascending entries) (h' : Ascending entries')
    (hperm : entries.Perm entries') : entries = entries' := by
  apply hperm.eq_of_pairwise _ h h'
  intro a b _ _ hab hba
  exact absurd hba (String.lt_asymm hab)

theorem length_le_insert (key : String) (value : α) (entries : List (String × α)) :
    entries.length ≤ (insert key value entries).length := by
  induction entries with
  | nil => exact Nat.zero_le _
  | cons entry rest ih =>
    unfold insert
    split
    . exact Nat.le_succ _
    . split
      . exact Nat.le_refl _
      . exact Nat.succ_le_succ ih

end Entries

namespace Keyed

variable {α β : Type} {collection collection' : Keyed α}

@[simp]
theorem notMem_empty (entry : String × α) : entry ∉ (empty : Keyed α) :=
  List.not_mem_nil

theorem find?_insert (key k : String) (value : α) (collection : Keyed α) :
    (collection.insert key value).find? k = if k = key then some value else collection.find? k :=
  Entries.find?_insert key k value collection.entries

theorem find?_modify (key k : String) (f : α → α) (collection : Keyed α) :
    (collection.modify key f).find? k
      =
    if k = key then (collection.find? k).map f else collection.find? k :=
  Entries.find?_modify key k f collection.entries

theorem find?_eq_list_find? (key : String) (collection : Keyed α) :
    collection.find? key = (List.find? (fun entry => entry.1 == key) collection.entries).map (·.2) :=
  Entries.find?_eq_list_find? key collection.entries

theorem modify_eq_self {key : String} {f : α → α}
    (h : ∀ value, collection.find? key = some value → f value = value) : collection.modify key f = collection :=
  Keyed.ext (Entries.modify_eq_self h)

theorem mem_of_mem_insert {key : String} {value : α} {entry : String × α}
    (h : entry ∈ collection.insert key value) : entry = (key, value) ∨ entry ∈ collection :=
  Entries.mem_of_mem_insert h

theorem mem_of_find? {key : String} {value : α} (h : collection.find? key = some value) :
    (key, value) ∈ collection :=
  Entries.mem_of_find? h

theorem contains_iff {key : String} : collection.contains key = true ↔ key ∈ collection.keys :=
  Entries.mem_keys_iff.symm

theorem find?_eq_none_iff {key : String} : collection.find? key = none ↔ key ∉ collection.keys := by
  rw [← contains_iff]
  unfold contains
  rw [Option.not_isSome_iff_eq_none]

theorem mem_keys_insert {key k : String} {value : α} :
    k ∈ (collection.insert key value).keys ↔ k = key ∨ k ∈ collection.keys := by
  rw [← contains_iff, ← contains_iff]
  unfold contains
  rw [find?_insert]
  by_cases h : k = key
  . simp [h]
  . simp [h]

theorem keys_pairwise (collection : Keyed α) : collection.keys.Pairwise (· < ·) :=
  Entries.ascending_iff_keys.mp collection.ascending

theorem keys_nodup (collection : Keyed α) : collection.keys.Nodup :=
  Entries.ascending_nodup collection.ascending

theorem find?_eq_some_iff {key : String} {value : α} :
    collection.find? key = some value ↔ (key, value) ∈ collection :=
  Entries.find?_eq_some_iff collection.keys_nodup

theorem forall₂_iff {members : List (String × β)} {r : α → β → Prop} :
    List.Forall₂ (fun entry member => entry.1 = member.1 ∧ r entry.2 member.2) collection.entries members
      ↔
    members.map (·.1) = collection.keys ∧ ∀ member ∈ members, ∃ a, (member.1, a) ∈ collection ∧ r a member.2 :=
  Entries.forall₂_iff collection.keys_nodup

theorem entries_foldl_insert (pairs : List (String × α)) (collection : Keyed α) :
    (pairs.foldl (fun collection (key, value) => collection.insert key value) collection).entries
      =
    pairs.foldl (fun entries (key, value) => Entries.insert key value entries) collection.entries := by
  induction pairs generalizing collection with
  | nil => rfl
  | cons pair pairs ih => exact ih _

theorem ofList_perm {pairs : List (String × α)} (h : (pairs.map (·.1)).Nodup) :
    (ofList pairs).entries.Perm pairs := by
  unfold ofList
  rw [entries_foldl_insert]
  exact Entries.foldl_insert_perm pairs [] h

theorem eq_of_perm (h : collection.entries.Perm collection'.entries) : collection = collection' :=
  Keyed.ext (Entries.eq_of_perm collection.ascending collection'.ascending h)

theorem ofList_entries (collection : Keyed α) : ofList collection.entries = collection :=
  eq_of_perm (ofList_perm collection.keys_nodup)

theorem eq_of_find? (h : ∀ key, collection.find? key = collection'.find? key) : collection = collection' := by
  have hnodup (some : Keyed α) : some.entries.Nodup :=
    List.Pairwise.of_map _ (fun _ _ hne heq => hne (congrArg Prod.fst heq)) some.keys_nodup
  apply eq_of_perm
  rw [List.perm_ext_iff_of_nodup (hnodup collection) (hnodup collection')]
  rintro ⟨key, value⟩
  show (key, value) ∈ collection ↔ (key, value) ∈ collection'
  rw [← find?_eq_some_iff, ← find?_eq_some_iff, h]

theorem insert_eq_self {key : String} {value : α} (h : collection.find? key = some value) :
    collection.insert key value = collection := by
  apply eq_of_find?
  intro k
  rw [find?_insert]
  split
  . next hkey => rw [hkey, h]
  . rfl

theorem length_le_insert (key : String) (value : α) (collection : Keyed α) :
    collection.length ≤ (collection.insert key value).length :=
  Entries.length_le_insert key value collection.entries

end Keyed
end ServiceHost
