import Mathlib.Data.List.Forall2

/-!
This module contains what a traversal that can fail comes to, entry by entry.
-/

namespace ServiceHost

variable {ε α β γ : Type}

theorem bind_pure_eq_error_iff {value : Except ε α} {f : α → β} {e : ε} :
    (value >>= fun a => pure (f a)) = .error e ↔ value = .error e := by
  cases value with
  | error e' =>
    constructor <;>
    . intro h
      cases h
      rfl
  | ok a => exact ⟨nofun, nofun⟩

theorem bind_pure_eq_ok_iff {value : Except ε α} {f : α → β} {b : β} :
    (value >>= fun a => pure (f a)) = .ok b ↔ ∃ a, value = .ok a ∧ f a = b := by
  cases value with
  | error e =>
    constructor
    . nofun
    . rintro ⟨a, h, -⟩
      cases h
  | ok a =>
    constructor
    . intro h
      cases h
      exact ⟨a, rfl, rfl⟩
    . rintro ⟨a', h, rfl⟩
      cases h
      rfl

theorem mapM_eq_error_iff {f : α → Except ε β} {l : List α} {e : ε} :
    l.mapM f = .error e ↔ ∃ a, l.find? (fun a => !(f a).isOk) = some a ∧ f a = .error e := by
  induction l with
  | nil =>
    constructor
    . intro h
      cases h
    . rintro ⟨a, h, -⟩
      cases h
  | cons first l ih =>
    rw [List.mapM_cons, List.find?_cons]
    cases hfirst : f first with
    | error e' =>
      constructor
      . intro h
        cases h
        exact ⟨first, rfl, hfirst⟩
      . rintro ⟨a, hfound, ha⟩
        cases hfound
        rw [hfirst] at ha
        cases ha
        rfl
    | ok value => exact bind_pure_eq_error_iff.trans ih

theorem mapM_eq_ok_iff {f : α → Except ε β} {l : List α} {bs : List β} :
    l.mapM f = .ok bs ↔ List.Forall₂ (fun a b => f a = .ok b) l bs := by
  induction l generalizing bs with
  | nil =>
    rw [List.forall₂_nil_left_iff]
    constructor
    . intro h
      cases h
      rfl
    . rintro rfl
      rfl
  | cons first l ih =>
    rw [List.mapM_cons, List.forall₂_cons_left_iff]
    cases hfirst : f first with
    | error e =>
      constructor
      . nofun
      . rintro ⟨b, _, h, -⟩
        cases h
    | ok value =>
      have hbind : (l.mapM f >>= fun rest => pure (value :: rest)) = .ok bs
          ↔ ∃ rest, l.mapM f = .ok rest ∧ value :: rest = bs := bind_pure_eq_ok_iff
      refine hbind.trans ?_
      constructor
      . rintro ⟨rest, hrest, rfl⟩
        exact ⟨value, rest, rfl, ih.mp hrest, rfl⟩
      . rintro ⟨b, rest, h, hrest, rfl⟩
        cases h
        exact ⟨rest, ih.mpr hrest, rfl⟩

theorem mapM_eq_some_iff {f : α → Option β} {l : List α} {bs : List β} :
    l.mapM f = some bs ↔ List.Forall₂ (fun a b => f a = some b) l bs := by
  induction l generalizing bs with
  | nil =>
    rw [List.mapM_nil, Option.pure_def, Option.some.injEq, List.forall₂_nil_left_iff]
    exact eq_comm
  | cons first l ih =>
    rw [List.mapM_cons, List.forall₂_cons_left_iff]
    simp only [Option.bind_eq_bind, Option.bind_eq_some_iff, Option.pure_def, Option.some.injEq, ih]
    constructor
    . rintro ⟨value, hvalue, rest, hrest, rfl⟩
      exact ⟨value, rest, hvalue, hrest, rfl⟩
    . rintro ⟨value, rest, hvalue, hrest, rfl⟩
      exact ⟨value, hvalue, rest, hrest, rfl⟩

theorem forall₂_map {r : α → β → Prop} {g : α → β} {l : List α} (h : ∀ a ∈ l, r a (g a)) :
    List.Forall₂ r l (l.map g) := by
  rw [List.forall₂_map_right_iff, List.forall₂_same]
  exact h

theorem exists_left_of_forall₂ {r : α → β → Prop} {l : List α} {bs : List β} (h : List.Forall₂ r l bs) :
    ∀ a ∈ l, ∃ b, r a b := by
  induction h with
  | nil => exact List.forall_mem_nil _
  | cons hfirst _ ih => exact List.forall_mem_cons.mpr ⟨⟨_, hfirst⟩, ih⟩

theorem exists_right_of_forall₂ {r : α → β → Prop} {l : List α} {bs : List β} (h : List.Forall₂ r l bs) :
    ∀ b ∈ bs, ∃ a ∈ l, r a b := by
  induction h with
  | nil => exact List.forall_mem_nil _
  | cons hfirst _ ih =>
    rw [List.forall_mem_cons]
    refine ⟨⟨_, List.mem_cons_self, hfirst⟩, ?_⟩
    intro b hb
    obtain ⟨a, ha, hab⟩ := ih b hb
    exact ⟨a, List.mem_cons_of_mem _ ha, hab⟩

theorem forall₂_map_iff {r : α → β → Prop} {f : β → γ} {l : List α} {cs : List γ} :
    List.Forall₂ (fun a c => ∃ b, r a b ∧ f b = c) l cs ↔ ∃ bs, List.Forall₂ r l bs ∧ bs.map f = cs := by
  constructor
  . intro h
    induction h with
    | nil => exact ⟨[], .nil, rfl⟩
    | cons hfirst _ ih =>
      obtain ⟨b, hb, rfl⟩ := hfirst
      obtain ⟨bs, hbs, rfl⟩ := ih
      exact ⟨b :: bs, .cons hb hbs, rfl⟩
  . rintro ⟨bs, h, rfl⟩
    rw [List.forall₂_map_right_iff]
    exact h.imp fun _ b hb => ⟨b, hb, rfl⟩

end ServiceHost
