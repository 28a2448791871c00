import Mathlib.Data.List.Infix
import ServiceHost.Text.Split

/-!
This module contains what it means that the first occurrence of a pattern in a text is replaced: no other one
starts further in front, and everything around it stays as it is.
-/

namespace ServiceHost.Text

theorem after?_eq_some_iff {start text rest : List Char} : after? start text = some rest ↔ text = start ++ rest := by
  induction start generalizing text with
  | nil => simp [after?, eq_comm]
  | cons s start ih =>
    cases text with
    | nil => simp [after?]
    | cons x text =>
      unfold after?
      by_cases hs : s = x
      . rw [if_pos hs, ih, hs, List.cons_append, List.cons_inj_right]
      . simp [hs, Ne.symm hs]

inductive ReplacesFirst (pattern replacement : List Char) : List Char → List Char → Prop where
  | found {before behind : List Char} :
    (∀ before' behind', before ++ pattern ++ behind = before' ++ pattern ++ behind' →
      before.length ≤ before'.length) →
    ReplacesFirst pattern replacement (before ++ pattern ++ behind) (before ++ replacement ++ behind)
  | missing {text : List Char} : ¬ pattern <:+: text → ReplacesFirst pattern replacement text text

namespace ReplacesFirst

variable {pattern replacement rest : List Char}

theorem front (behind : List Char) : ReplacesFirst pattern replacement (pattern ++ behind) (replacement ++ behind) := by
  have hfound : ReplacesFirst pattern replacement ([] ++ pattern ++ behind) ([] ++ replacement ++ behind) :=
    .found fun _ _ _ => Nat.zero_le _
  exact hfound

theorem cons {result : List Char} (h : ReplacesFirst pattern replacement rest result) {x : Char}
    (hfront : ∀ behind, x :: rest ≠ pattern ++ behind) :
    ReplacesFirst pattern replacement (x :: rest) (x :: result) := by
  cases h with
  | @found before behind hfirst =>
    have hfound : ReplacesFirst pattern replacement ((x :: before) ++ pattern ++ behind)
        ((x :: before) ++ replacement ++ behind) := by
      apply ReplacesFirst.found
      intro before' behind' heq
      cases before' with
      | nil => exact absurd heq (hfront behind')
      | cons y before' =>
        injection heq with _ heq
        exact Nat.succ_le_succ (hfirst before' behind' heq)
    exact hfound
  | missing hnone =>
    apply ReplacesFirst.missing
    rw [List.infix_cons_iff, not_or]
    refine ⟨?_, hnone⟩
    rintro ⟨behind, heq⟩
    exact hfront behind heq.symm

end ReplacesFirst

theorem replacesFirst_replaceFirst (pattern replacement text : List Char) :
    ReplacesFirst pattern replacement text (replaceFirst pattern replacement text) := by
  induction text with
  | nil =>
    unfold replaceFirst
    cases pattern with
    | nil => exact .front []
    | cons p pattern => exact .missing (by rw [List.infix_nil]; nofun)
  | cons x text ih =>
    unfold replaceFirst
    cases hafter : after? pattern (x :: text) with
    | some behind =>
      rw [after?_eq_some_iff.mp hafter]
      exact .front behind
    | none =>
      apply ih.cons
      intro behind htext
      rw [after?_eq_some_iff.mpr htext] at hafter
      cases hafter

end ServiceHost.Text
