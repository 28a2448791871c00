import Mathlib.Data.List.DropRight
import ServiceHost.Text.Split

/-!
This module contains the cuts of texts. The pieces of a text are those of the parts that it was put together
of, and joined they are the text again. What was trimmed neither starts nor ends in what was trimmed away, and
more of that at its ends would not have changed it.
-/

namespace ServiceHost.Text

theorem cut?_of_notMem {c : Char} {text : List Char} (h : c ∉ text) : cut? c text = none := by
  induction text with
  | nil => rfl
  | cons x text ih =>
    rw [List.mem_cons, not_or] at h
    rw [cut?, if_neg (Ne.symm h.1), ih h.2]
    rfl

theorem cut_of_notMem {c : Char} {text : List Char} (h : c ∉ text) : cut c text = (text, []) := by
  rw [cut, cut?_of_notMem h, Option.getD_none]

theorem cut?_append {c : Char} {before : List Char} (h : c ∉ before) (after : List Char) :
    cut? c (before ++ c :: after) = some (before, after) := by
  induction before with
  | nil => simp [cut?]
  | cons x before ih =>
    rw [List.mem_cons, not_or] at h
    rw [List.cons_append, cut?, if_neg (Ne.symm h.1), ih h.2]
    rfl

theorem pieces_of_notMem {c : Char} {text : List Char} (h : c ∉ text) : pieces c text = [text] := by
  induction text with
  | nil => rfl
  | cons x text ih =>
    rw [List.mem_cons, not_or] at h
    rw [pieces, if_neg (Ne.symm h.1), ih h.2]

theorem pieces_ne_nil (c : Char) (text : List Char) : pieces c text ≠ [] := by
  cases text with
  | nil => simp [pieces]
  | cons x text =>
    unfold pieces
    split
    . simp
    . split <;> simp

theorem pieces_cons_self (c : Char) (rest : List Char) : pieces c (c :: rest) = [] :: pieces c rest := by
  rw [pieces, if_pos rfl]

theorem pieces_append (c : Char) (before after : List Char) :
    pieces c (before ++ c :: after) = pieces c before ++ pieces c after := by
  induction before with
  | nil => simp [pieces]
  | cons x before ih =>
    simp only [List.cons_append, pieces]
    split
    . rw [ih, List.cons_append]
    . rw [ih]
      cases h : pieces c before with
      | nil => exact absurd h (pieces_ne_nil c before)
      | cons first others => simp

theorem pieces_intercalate {c : Char} {parts : List (List Char)} (hparts : parts ≠ [])
    (h : ∀ part ∈ parts, c ∉ part) : pieces c ([c].intercalate parts) = parts := by
  induction parts with
  | nil => contradiction
  | cons first others ih =>
    rw [List.forall_mem_cons] at h
    cases others with
    | nil => rw [List.intercalate_singleton, pieces_of_notMem h.1]
    | cons second others =>
      rw [List.intercalate_cons_cons, List.append_assoc, List.singleton_append, pieces_append]
      rw [pieces_of_notMem h.1, ih (List.cons_ne_nil _ _) h.2]
      rfl

theorem join_pieces (c : Char) (text : List Char) : join [c] (pieces c text) = text := by
  induction text with
  | nil => rfl
  | cons x text ih =>
    cases h : pieces c text with
    | nil => exact absurd h (pieces_ne_nil c text)
    | cons first others =>
      rw [h] at ih
      unfold pieces
      split
      . next heq =>
        subst heq
        simp [h, join, ih]
      . rw [h]
        cases others with
        | nil => simpa [join] using ih
        | cons second others => simpa [join] using ih

theorem join_eq_intercalate (separator : List Char) (parts : List (List Char)) :
    join separator parts = separator.intercalate parts := by
  induction parts with
  | nil => rfl
  | cons part parts ih =>
    cases parts with
    | nil => simp [join]
    | cons next parts =>
      rw [join, ih, List.intercalate_cons_cons, List.append_assoc]
      simp

theorem intercalate_pieces (c : Char) (text : List Char) : [c].intercalate (pieces c text) = text := by
  rw [← join_eq_intercalate, join_pieces]

theorem exists_mem_pieces {c x : Char} {text : List Char} (hx : x ≠ c) (h : x ∈ text) :
    ∃ piece ∈ pieces c text, x ∈ piece := by
  induction text with
  | nil => cases h
  | cons y text ih =>
    unfold pieces
    split
    . next heq =>
      rw [List.mem_cons] at h
      obtain ⟨piece, hpiece, hmem⟩ := ih (h.resolve_left fun hxy => hx (hxy.trans heq))
      exact ⟨piece, List.mem_cons_of_mem _ hpiece, hmem⟩
    . cases hpieces : pieces c text with
      | nil => exact absurd hpieces (pieces_ne_nil c text)
      | cons first others =>
        rw [hpieces] at ih
        rw [List.mem_cons] at h
        cases h with
        | inl h => exact ⟨y :: first, List.mem_cons_self, h ▸ List.mem_cons_self⟩
        | inr h =>
          obtain ⟨piece, hpiece, hmem⟩ := ih h
          rw [List.mem_cons] at hpiece
          cases hpiece with
          | inl hpiece => exact ⟨y :: first, List.mem_cons_self, List.mem_cons_of_mem y (hpiece ▸ hmem)⟩
          | inr hpiece => exact ⟨piece, List.mem_cons_of_mem _ hpiece, hmem⟩

theorem mem_of_mem_pieces {c x : Char} {text piece : List Char} (h : piece ∈ pieces c text) (hx : x ∈ piece) :
    x ∈ text := by
  induction text generalizing piece with
  | nil =>
    rw [pieces, List.mem_singleton] at h
    rw [h] at hx
    cases hx
  | cons y text ih =>
    unfold pieces at h
    split at h
    . rw [List.mem_cons] at h
      cases h with
      | inl h =>
        rw [h] at hx
        cases hx
      | inr h => exact List.mem_cons_of_mem y (ih h hx)
    . cases hpieces : pieces c text with
      | nil => exact absurd hpieces (pieces_ne_nil c text)
      | cons first others =>
        rw [hpieces] at h ih
        rw [List.mem_cons] at h
        cases h with
        | inl h =>
          rw [h, List.mem_cons] at hx
          cases hx with
          | inl hx => exact hx ▸ List.mem_cons_self
          | inr hx => exact List.mem_cons_of_mem y (ih List.mem_cons_self hx)
        | inr h => exact List.mem_cons_of_mem y (ih (List.mem_cons_of_mem first h) hx)

theorem notMem_of_mem_pieces {c : Char} {text piece : List Char} (h : piece ∈ pieces c text) : c ∉ piece := by
  induction text generalizing piece with
  | nil => simp_all [pieces]
  | cons x text ih =>
    unfold pieces at h
    split at h
    . rw [List.mem_cons] at h
      cases h with
      | inl h => simp [h]
      | inr h => exact ih h
    . next hne =>
      obtain ⟨first, others, hpieces⟩ := List.exists_cons_of_ne_nil (pieces_ne_nil c text)
      rw [hpieces] at h ih
      rw [List.mem_cons] at h
      cases h with
      | inl h =>
        rw [h, List.mem_cons, not_or]
        exact ⟨Ne.symm hne, ih List.mem_cons_self⟩
      | inr h => exact ih (List.mem_cons_of_mem first h)

theorem getLast?_pieces_ne_nil {c : Char} {text : List Char} (hne : text ≠ []) (hlast : text.getLast? ≠ some c) :
    (pieces c text).getLast? ≠ some [] := by
  induction text with
  | nil => contradiction
  | cons x text ih =>
    cases text with
    | nil =>
      rw [pieces, if_neg (by simpa using hlast)]
      simp [pieces]
    | cons y text =>
      rw [List.getLast?_cons_cons] at hlast
      have hrest := ih (List.cons_ne_nil y text) hlast
      obtain ⟨first, others, hpieces⟩ := List.exists_cons_of_ne_nil (pieces_ne_nil c (y :: text))
      rw [hpieces] at hrest
      unfold pieces
      rw [hpieces]
      split
      . rwa [List.getLast?_cons_cons]
      . cases others with
        | nil => simp
        | cons second others =>
          rw [List.getLast?_cons_cons] at hrest
          dsimp only
          rwa [List.getLast?_cons_cons]

theorem trim_eq_rdropWhile (c : Char) (text : List Char) :
    trim c text = (text.dropWhile (· == c)).rdropWhile (· == c) := by
  rfl

theorem mem_of_mem_trim {c d : Char} {text : List Char} (h : d ∈ trim c text) : d ∈ text := by
  unfold trim at h
  rw [List.mem_reverse] at h
  have hback := (List.dropWhile_sublist _).subset h
  rw [List.mem_reverse] at hback
  exact (List.dropWhile_sublist _).subset hback

theorem getLast?_trim_ne (c : Char) (text : List Char) : (trim c text).getLast? ≠ some c := by
  intro hlast
  have hne : trim c text ≠ [] := by
    intro hnil
    simp [hnil] at hlast
  rw [List.getLast?_eq_some_getLast hne, Option.some.injEq] at hlast
  exact List.rdropWhile_last_not (· == c) (text.dropWhile (· == c)) hne (beq_iff_eq.mpr hlast)

theorem head?_trim_ne (c : Char) (text : List Char) : (trim c text).head? ≠ some c := by
  intro hhead
  obtain ⟨rest, hrest⟩ := List.head?_eq_some_iff.mp hhead
  rw [trim_eq_rdropWhile] at hrest
  obtain ⟨behind, hbehind⟩ := List.rdropWhile_prefix (· == c) (text.dropWhile (· == c))
  have hkept := List.head?_dropWhile_not (· == c) text
  rw [← hbehind, hrest] at hkept
  simp at hkept

theorem trim_append {c : Char} {front behind : List Char} (hfront : ∀ x ∈ front, x = c)
    (hbehind : ∀ x ∈ behind, x = c) (text : List Char) : trim c (front ++ text ++ behind) = trim c text := by
  have hfront' : ∀ x ∈ front, (x == c) = true := fun x hx => beq_iff_eq.mpr (hfront x hx)
  have hbehind' : ∀ x ∈ behind, (x == c) = true := fun x hx => beq_iff_eq.mpr (hbehind x hx)
  rw [trim_eq_rdropWhile, trim_eq_rdropWhile, List.append_assoc, List.dropWhile_append_of_pos hfront']
  rw [List.dropWhile_append]
  split
  . next hempty =>
    rw [List.isEmpty_iff.mp hempty, List.dropWhile_eq_nil_iff.mpr hbehind']
  . unfold List.rdropWhile
    rw [List.reverse_append, List.dropWhile_append_of_pos]
    intro x hx
    exact hbehind' x (List.mem_reverse.mp hx)

theorem exists_append_trim (c : Char) (text : List Char) :
    ∃ front behind,
      (∀ x ∈ front, x = c) ∧ (∀ x ∈ behind, x = c) ∧ text = front ++ trim c text ++ behind := by
  refine ⟨text.takeWhile (· == c), (text.dropWhile (· == c)).rtakeWhile (· == c), ?_, ?_, ?_⟩
  . intro x hx
    exact beq_iff_eq.mp (List.mem_takeWhile_imp (p := (· == c)) hx)
  . intro x hx
    exact beq_iff_eq.mp (List.mem_rtakeWhile_imp (p := (· == c)) hx)
  . rw [trim_eq_rdropWhile, List.append_assoc, List.rdropWhile_append_rtakeWhile, List.takeWhile_append_dropWhile]

theorem trim_trim (c : Char) (text : List Char) : trim c (trim c text) = trim c text := by
  obtain ⟨front, behind, hfront, hbehind, htext⟩ := exists_append_trim c text
  rw [← trim_append hfront hbehind (trim c text), ← htext]

end ServiceHost.Text
