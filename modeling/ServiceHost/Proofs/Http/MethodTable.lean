import ServiceHost.Http.RouteTable
import ServiceHost.Proofs.Keyed

/-!
This module contains the methods that the bindings of one path answer. They are exactly the ones that
are offered when another method is asked for.
-/

namespace ServiceHost.Http

theorem Method.name_injOn {a b : Method} (ha : a.isRoutable = true) (hb : b.isRoutable = true)
    (h : a.name = b.name) : a = b := by
  cases a <;> cases b <;> simp_all [name, isRoutable]

namespace MethodTable

variable {ε : Type}

theorem mem_offer_iff (offered : List Method) (method m : Method) :
    m ∈ offer offered method ↔ m ∈ offered ∨ m = method := by
  unfold offer
  split
  . next h =>
    constructor
    . exact .inl
    . intro hm
      cases hm with
      | inl hm => exact hm
      | inr hm => exact hm ▸ h
  . simp

theorem offer_nodup {offered : List Method} (method : Method) (h : offered.Nodup) :
    (offer offered method).Nodup := by
  unfold offer
  split
  . exact h
  . next hm =>
    rw [List.nodup_append]
    refine ⟨h, by simp, ?_⟩
    intro a ha b hb
    rw [List.mem_singleton] at hb
    intro hab
    rw [hab, hb] at ha
    exact hm ha

def offerAlong (offered : List Method) (method : Method) : List Method :=
  if method = .get then offer (offer offered .get) .head else offer offered method

theorem allowed_eq_foldl (table : MethodTable ε) : table.allowed = table.methods.foldl offerAlong [] := by
  rfl

theorem mem_offerAlong_iff (offered : List Method) (method m : Method) :
    m ∈ offerAlong offered method ↔ m ∈ offered ∨ m = method ∨ (m = .head ∧ method = .get) := by
  unfold offerAlong
  split
  . next h =>
    subst h
    simp only [mem_offer_iff, and_true, or_assoc]
  . next h =>
    simp only [mem_offer_iff, h, and_false, or_false]

theorem offerAlong_nodup {offered : List Method} (method : Method) (h : offered.Nodup) :
    (offerAlong offered method).Nodup := by
  unfold offerAlong
  split
  . exact offer_nodup _ (offer_nodup _ h)
  . exact offer_nodup _ h

theorem mem_foldl_offerAlong_iff (methods offered : List Method) (m : Method) :
    m ∈ methods.foldl offerAlong offered
      ↔
    m ∈ offered ∨ m ∈ methods ∨ (m = .head ∧ .get ∈ methods) := by
  induction methods generalizing offered with
  | nil => simp
  | cons method methods ih =>
    rw [List.foldl_cons, ih, mem_offerAlong_iff]
    simp only [List.mem_cons]
    have : method = Method.get ↔ Method.get = method := eq_comm
    grind

theorem foldl_offerAlong_nodup (methods : List Method) {offered : List Method} (h : offered.Nodup) :
    (methods.foldl offerAlong offered).Nodup := by
  induction methods generalizing offered with
  | nil => exact h
  | cons method methods ih => exact ih (offerAlong_nodup method h)

theorem allowed_nodup (table : MethodTable ε) : table.allowed.Nodup := by
  rw [allowed_eq_foldl]
  exact foldl_offerAlong_nodup _ List.nodup_nil

theorem mem_allowed_iff (table : MethodTable ε) (m : Method) :
    m ∈ table.allowed ↔ m ∈ table.methods ∨ (m = .head ∧ .get ∈ table.methods) := by
  rw [allowed_eq_foldl, mem_foldl_offerAlong_iff]
  simp

theorem find?_eq_none_iff (table : MethodTable ε) (m : Method) :
    table.find? m = none ↔ m ∉ table.methods := by
  unfold find? methods
  rw [List.lookup_eq_none_iff]
  simp only [List.mem_map, not_exists, not_and, bne_iff_ne, ne_eq, Prod.forall]
  grind

theorem answering?_eq_none_iff (table : MethodTable ε) (m : Method) :
    table.answering? m = none ↔ m ∉ table.allowed := by
  rw [mem_allowed_iff]
  unfold answering?
  split
  . next endpoint h =>
    have : ¬ m ∉ table.methods := by
      rw [← find?_eq_none_iff, h]
      simp
    simp [Decidable.of_not_not this]
  . next h =>
    rw [find?_eq_none_iff] at h
    split
    . next hhead =>
      subst hhead
      simp [find?_eq_none_iff, h]
    . next hhead => simp [h, hhead]

theorem find?_of_mem {table : MethodTable ε} {method : Method} {endpoint : ε}
    (hnodup : table.methods.Nodup) (h : (method, endpoint) ∈ table.entries) :
    table.find? method = some endpoint := by
  rcases table with ⟨entries⟩
  unfold find?
  unfold methods at hnodup
  dsimp only at h hnodup ⊢
  induction entries with
  | nil => cases h
  | cons entry entries ih =>
    rw [List.map_cons, List.nodup_cons] at hnodup
    rw [List.lookup_cons]
    cases h with
    | head => simp
    | tail _ h =>
      have hne : (method == entry.1) = false := by
        rw [beq_eq_false_iff_ne]
        intro heq
        exact hnodup.1 (heq ▸ List.mem_map_of_mem h)
      rw [hne]
      exact ih hnodup.2 h

theorem exists_of_answering? {table : MethodTable ε} {method : Method} {endpoint : ε}
    (h : table.answering? method = some endpoint) : ∃ m, (m, endpoint) ∈ table.entries := by
  have hmem {m : Method} {e : ε} (hfind : table.find? m = some e) : (m, e) ∈ table.entries :=
    Entries.mem_of_lookup hfind
  unfold answering? at h
  split at h
  . next e hfind =>
    cases h
    exact ⟨method, hmem hfind⟩
  . split at h
    . exact ⟨.get, hmem h⟩
    . cases h

end MethodTable
end ServiceHost.Http
