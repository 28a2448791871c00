import Mathlib.Data.List.Forall2
import ServiceHost.Proofs.Log.Filter

/-!
This module contains what can be told from the directives of levels: cut at their commas, and then each piece at its
first equality sign, they are the words and names that they were written from. Levels with the same directives
differ in nothing but `all` and `trace`.
-/

namespace ServiceHost

variable {σ : Type}

namespace Log

def Level.Agrees (level level' : Level) : Prop :=
  level = level' ∨ (level = .all ∧ level' = .trace) ∨ (level = .trace ∧ level' = .all)

theorem Level.agrees_iff (level level' : Level) : level.Agrees level' ↔ level.directive = level'.directive := by
  unfold Agrees
  cases level <;> cases level' <;> decide

namespace Levels

structure Agrees (levels levels' : Levels) : Prop where
  root : levels.root.Agrees levels'.root
  overrides : List.Forall₂ (fun entry entry' => entry.1 = entry'.1 ∧ entry.2.Agrees entry'.2)
    levels.overrides.entries levels'.overrides.entries

def words (levels : Levels) : List Char × List (List Char × List Char) :=
  (levels.root.directive.toList, levels.overrides.map fun entry => (entry.1.toList, entry.2.directive.toList))

theorem agrees_iff (levels levels' : Levels) : levels.Agrees levels' ↔ levels.words = levels'.words := by
  have hentries : levels.overrides.map (fun entry => (entry.1.toList, entry.2.directive.toList))
        = levels'.overrides.map (fun entry => (entry.1.toList, entry.2.directive.toList))
      ↔
      List.Forall₂ (fun entry entry' => entry.1 = entry'.1 ∧ entry.2.Agrees entry'.2)
        levels.overrides.entries levels'.overrides.entries := by
    unfold Keyed.map
    rw [← List.forall₂_eq_eq_eq]
    rw [List.forall₂_map_left_iff]
    rw [List.forall₂_map_right_iff]
    simp only [Prod.mk.injEq, String.toList_inj, Level.agrees_iff]
  unfold words
  rw [Prod.mk.injEq, hentries, String.toList_inj, ← Level.agrees_iff]
  constructor
  . intro h
    exact ⟨h.root, h.overrides⟩
  . rintro ⟨hroot, hoverrides⟩
    exact ⟨hroot, hoverrides⟩

/-- A text can be cut into words: at its commas, and every piece but the first at its first equality sign. -/
def CutsInto (text : String) (words : List Char × List (List Char × List Char)) : Prop :=
  ∃ pieces, Text.pieces ',' text.toList = words.1 :: pieces ∧ pieces.map (Text.cut? '=') = words.2.map some

theorem CutsInto.unique {text : String} {words words' : List Char × List (List Char × List Char)}
    (h : CutsInto text words) (h' : CutsInto text words') : words = words' := by
  obtain ⟨pieces, hpieces, hcut⟩ := h
  obtain ⟨pieces', hpieces', hcut'⟩ := h'
  rw [hpieces, List.cons.injEq] at hpieces'
  obtain ⟨hroot, rfl⟩ := hpieces'
  apply Prod.ext hroot
  apply List.map_injective_iff.mpr (Option.some_injective _)
  exact hcut.symm.trans hcut'

theorem cutsInto_words {levels : Levels} (h : ∀ name ∈ levels.overrides.keys, Dynamic name) :
    CutsInto levels.directives levels.words := by
  refine ⟨_, pieces_directives h, ?_⟩
  unfold words Keyed.map
  rw [List.map_map]
  rw [List.map_map]
  apply List.map_congr_left
  intro entry hentry
  dsimp only [Function.comp_apply]
  rw [toList_overrideDirective]
  apply Text.cut?_append
  apply Dynamic.notMem (h entry.1 (List.mem_map_of_mem hentry))
  decide

theorem directives_of_words {levels levels' : Levels} (h : levels.words = levels'.words) :
    levels.directives = levels'.directives := by
  have hwritten (levels : Levels) :
      levels.directives.toList
        =
      [','].intercalate (levels.words.1 :: levels.words.2.map fun entry => entry.1 ++ '=' :: entry.2) := by
    rw [toList_directives]
    unfold words Keyed.map
    rw [List.map_map]
    simp only [toList_overrideDirective, Function.comp_def]
  apply String.toList_inj.mp
  rw [hwritten, hwritten, h]

theorem directives_eq_iff {levels levels' : Levels} (h : ∀ name ∈ levels.overrides.keys, Dynamic name)
    (h' : ∀ name ∈ levels'.overrides.keys, Dynamic name) :
    levels.directives = levels'.directives ↔ levels.Agrees levels' := by
  rw [agrees_iff]
  constructor
  . intro hsame
    have hother := cutsInto_words h'
    rw [← hsame] at hother
    exact (cutsInto_words h).unique hother
  . exact directives_of_words

theorem follows_setEach (root : Level) (changes : List Change) (world : World σ) :
    ∃ answers after,
      (Action.setEach changes).exec { world with levels := .new root } = (.ok answers, after)
        ∧
      answers.length = changes.length
        ∧
      after.levels.Follows root (Change.accepted changes answers) := by
  have hnew : ({ world with levels := .new root } : World σ).levels.Follows root [] := follows_new root
  exact hnew.setEach changes

end Levels
end Log

open Log (Change Levels) in
/--
Whatever is requested for whatever names, the directives of the levels are the word of the root and, in the strict
order of their names, one piece for each override, which cut at its first equality sign is the name and the word of
that override. Other levels have the same directives exactly if they agree, `all` and `trace` being one level.
-/
theorem directives_decode (root : Log.Level) (changes : List Change) (world : World σ) :
    ∃ answers after pieces,
      (Action.setEach changes).exec { world with levels := .new root } = (.ok answers, after)
        ∧
      answers.length = changes.length
        ∧
      Text.pieces ',' after.levels.directives.toList = after.levels.root.directive.toList :: pieces
        ∧
      pieces.map (Text.cut? '=')
        =
      (after.levels.overrides.map fun entry => some (entry.1.toList, entry.2.directive.toList))
        ∧
      after.levels.overrides.keys.Pairwise (· < ·)
        ∧
      ∀ root' changes' (world' : World σ) answers' after',
        (Action.setEach changes').exec { world' with levels := .new root' } = (.ok answers', after') →
          (after.levels.directives = after'.levels.directives ↔ after.levels.Agrees after'.levels) := by
  obtain ⟨answers, after, hexec, hlength, hafter⟩ := Levels.follows_setEach root changes world
  obtain ⟨pieces, hpieces, hcut⟩ := Levels.cutsInto_words hafter.dynamic_of_mem_keys
  refine ⟨answers, after, pieces, hexec, hlength, hpieces, ?_, ?_, ?_⟩
  . rw [hcut]
    unfold Levels.words Keyed.map
    rw [List.map_map]
    rfl
  . exact after.levels.overrides.keys_pairwise
  . intro root' changes' world' answers' after' hexec'
    obtain ⟨_, _, hrun, -, hafter'⟩ := Levels.follows_setEach root' changes' world'
    rw [hexec'] at hrun
    cases hrun
    exact Levels.directives_eq_iff hafter.dynamic_of_mem_keys hafter'.dynamic_of_mem_keys

end ServiceHost
