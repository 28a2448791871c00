import Mathlib.Data.Finset.Card
import ServiceHost.Proofs.Action
import ServiceHost.Proofs.Keyed

/-!
This module contains runs of changes to the levels of loggers. What is reported after a run is decided by the
changes that were accepted: for each name the last one counts, and a logger without one follows the root.
-/

namespace ServiceHost

variable {σ : Type}

namespace Log

/-- A name that can stand in a filter directive: it is not empty, and has neither blanks nor marks. -/
structure Dynamic (name : String) : Prop where
  nonempty : name ≠ ""
  unmarked : ∀ c ∈ name.toList, Text.isBlank c = false ∧ c ∉ ['=', ',', '[', ']', '\x7b', '\x7d']

theorem isDynamic_iff {name : String} : isDynamic name = true ↔ Dynamic name := by
  have hmarks (c : Char) : c ∉ directiveMarks ↔ c ∉ ['=', ',', '[', ']', '\x7b', '\x7d'] := Iff.rfl
  unfold isDynamic
  simp only [Bool.and_eq_true, decide_eq_true_eq, List.all_eq_true, Bool.not_eq_true', List.contains_eq_mem,
    decide_eq_false_iff_not, hmarks, ne_eq, String.toList_eq_nil_iff]
  exact ⟨fun h => ⟨h.1, h.2⟩, fun h => ⟨h.nonempty, h.unmarked⟩⟩

structure Change where
  logger : String
  level : Level

namespace Change

def accepted : List Change → List Bool → List Change
  | change :: changes, true :: answers => change :: accepted changes answers
  | _ :: changes, false :: answers => accepted changes answers
  | _, _ => []

def last? (name : String) (history : List Change) : Option Level :=
  (history.filter (·.logger = name)).getLast?.map (·.level)

/-- The names apart from the one of the root that were given a level. -/
def overridden (history : List Change) : Finset String :=
  (history.map (·.logger)).toFinset.erase rootLogger

theorem mem_overridden_iff {name : String} {history : List Change} :
    name ∈ overridden history ↔ name ≠ rootLogger ∧ ∃ change ∈ history, change.logger = name := by
  simp [overridden]

theorem last?_append_singleton (name : String) (history : List Change) (change : Change) :
    last? name (history ++ [change])
      =
    if name = change.logger then some change.level else last? name history := by
  unfold last?
  rw [List.filter_append]
  by_cases h : name = change.logger
  . simp [h]
  . simp [h, Ne.symm h]

theorem overridden_append_singleton (history : List Change) (change : Change) :
    overridden (history ++ [change])
      =
    if change.logger = rootLogger then overridden history else insert change.logger (overridden history) := by
  ext name
  rw [mem_overridden_iff]
  split
  . grind [mem_overridden_iff]
  . grind [mem_overridden_iff]

end Change

namespace Levels

open Change (last? overridden)

/-- A request for a name is accepted: it is the one of the root, or a level of its own has a place. -/
def Accepts (levels : Levels) (name : String) : Prop :=
  name = "ROOT"
    ∨
  Dynamic name ∧ (name ∈ levels.overrides.keys ∨ levels.overrides.length < 256)

/-- Levels are those of a root level after some changes were accepted. -/
structure Follows (levels : Levels) (root : Level) (history : List Change) : Prop where
  root : levels.root = (last? rootLogger history).getD root
  find? : ∀ name, name ≠ rootLogger → levels.overrides.find? name = last? name history
  keys : levels.overrides.keys.toFinset = overridden history
  dynamic : ∀ name ∈ overridden history, Dynamic name
  bounded : (overridden history).card ≤ maxOverrides

theorem follows_new (root : Level) : (new root).Follows root [] where
  root := rfl
  find? := fun _ _ => rfl
  keys := rfl
  dynamic := by simp [overridden]
  bounded := by simp [overridden]

theorem set_of_accepts {levels : Levels} {name : String} (h : levels.Accepts name) (level : Level) :
    levels.set name level
      =
    .accepted
      (if name = rootLogger then { levels with root := level }
      else { levels with overrides := levels.overrides.insert name level }) := by
  unfold set
  split
  . rfl
  . next hroot =>
    obtain ⟨hdynamic, hplace⟩ := h.resolve_left hroot
    rw [if_pos (isDynamic_iff.mpr hdynamic), if_neg]
    rw [Keyed.contains_iff]
    rintro ⟨hfull, hnew⟩
    exact hplace.elim hnew (Nat.not_lt.mpr hfull)

theorem set_of_not_accepts {levels : Levels} {name : String} (h : ¬ levels.Accepts name) (level : Level) :
    levels.set name level = .unsupported ∨ levels.set name level = .full := by
  unfold Accepts at h
  rw [not_or, not_and, not_or, Nat.not_lt] at h
  unfold set
  rw [if_neg (show name ≠ rootLogger from h.1)]
  split
  . next hdynamic =>
    obtain ⟨hnew, hfull⟩ := h.2 (isDynamic_iff.mp hdynamic)
    rw [if_pos ⟨hfull, fun hold => hnew (Keyed.contains_iff.mp hold)⟩]
    exact .inr rfl
  . exact .inl rfl

namespace Follows

variable {levels : Levels} {root : Level} {history : List Change}

theorem length_overrides (h : levels.Follows root history) :
    levels.overrides.length = (overridden history).card := by
  rw [← h.keys, List.toFinset_card_of_nodup levels.overrides.keys_nodup]
  exact (List.length_map _).symm

theorem mem_keys_iff (h : levels.Follows root history) {name : String} :
    name ∈ levels.overrides.keys ↔ name ∈ overridden history := by
  rw [← h.keys, List.mem_toFinset]

theorem dynamic_of_mem_keys (h : levels.Follows root history) :
    ∀ name ∈ levels.overrides.keys, Dynamic name := by
  intro name hname
  exact h.dynamic name (h.mem_keys_iff.mp hname)

theorem rootLogger_notMem_keys (h : levels.Follows root history) :
    rootLogger ∉ levels.overrides.keys := by
  rw [h.mem_keys_iff, Change.mem_overridden_iff]
  exact fun hmem => hmem.1 rfl

theorem setRoot (h : levels.Follows root history) (level : Level) :
    Follows { levels with root := level } root (history ++ [⟨rootLogger, level⟩]) := by
  have hsame : overridden (history ++ [⟨rootLogger, level⟩]) = overridden history := by
    rw [Change.overridden_append_singleton, if_pos rfl]
  constructor
  case root => rw [Change.last?_append_singleton, if_pos rfl, Option.getD_some]
  case find? =>
    intro name hname
    rw [Change.last?_append_singleton, if_neg hname]
    exact h.find? name hname
  case keys => rw [hsame, ← h.keys]
  case dynamic => rw [hsame]; exact h.dynamic
  case bounded => rw [hsame]; exact h.bounded

theorem setOverride (h : levels.Follows root history) {name : String} (hroot : name ≠ rootLogger)
    (hdynamic : Dynamic name) (hplace : name ∈ levels.overrides.keys ∨ levels.overrides.length < maxOverrides)
    (level : Level) :
    Follows { levels with overrides := levels.overrides.insert name level } root
      (history ++ [⟨name, level⟩]) := by
  have hmore : overridden (history ++ [⟨name, level⟩]) = insert name (overridden history) := by
    rw [Change.overridden_append_singleton, if_neg hroot]
  constructor
  case root =>
    rw [Change.last?_append_singleton, if_neg (Ne.symm hroot)]
    exact h.root
  case find? =>
    intro other hother
    rw [Keyed.find?_insert, Change.last?_append_singleton, h.find? other hother]
  case keys =>
    rw [hmore, ← h.keys]
    ext other
    simp [Keyed.mem_keys_insert]
  case dynamic =>
    rw [hmore, Finset.forall_mem_insert]
    exact ⟨hdynamic, h.dynamic⟩
  case bounded =>
    rw [hmore]
    -- at the limit only a name that counts already can be set
    cases hplace with
    | inl hold =>
      rw [Finset.insert_eq_of_mem (h.mem_keys_iff.mp hold)]
      exact h.bounded
    | inr hfree =>
      rw [h.length_overrides] at hfree
      exact (Finset.card_insert_le _ _).trans hfree

theorem set (h : levels.Follows root history) {change : Change} (haccepts : levels.Accepts change.logger) :
    ∃ next,
      levels.set change.logger change.level = .accepted next
        ∧
      next.Follows root (history ++ [change]) := by
  refine ⟨_, set_of_accepts haccepts change.level, ?_⟩
  obtain ⟨name, level⟩ := change
  split
  . next hroot =>
    dsimp only at hroot
    subst hroot
    exact h.setRoot level
  . next hroot =>
    obtain ⟨hdynamic, hplace⟩ := haccepts.resolve_left hroot
    exact h.setOverride hroot hdynamic hplace level

end Follows
end Levels
end Log

def World.refilter (world : World σ) : World σ :=
  if world.wiring = .detached then
    world
  else
    match Log.Filter.ofDirectives? world.levels.directives with
    | none =>
      world.record
        ⟨.levels, .warn, "Invalid log filter",
          [("directives", world.levels.directives), ("error", "invalid filter directive")]⟩
    | some filter =>
      if world.wiring = .attached then
        { world with filter := some filter }
      else
        world.record ⟨.levels, .warn, "Failed to reload log filter", [("error", "subscriber no longer exists")]⟩

def Log.tooMany (logger : String) : Log.Event :=
  ⟨.levels, .warn, "Too many logger overrides", [("logger", logger), ("limit", toString Log.maxOverrides)]⟩

@[simp]
theorem World.levels_record (event : Log.Event) (world : World σ) :
    (world.record event).levels = world.levels := by
  rfl

@[simp]
theorem World.levels_refilter (world : World σ) : world.refilter.levels = world.levels := by
  unfold refilter
  split
  . rfl
  . split
    . rfl
    . split <;> rfl

@[simp]
theorem World.wiring_refilter (world : World σ) : world.refilter.wiring = world.wiring := by
  unfold refilter
  split
  . rfl
  . split
    . rfl
    . split <;> rfl

theorem World.filter_refilter {world : World σ} (h : world.wiring ≠ .attached) :
    world.refilter.filter = world.filter := by
  unfold refilter
  split
  . rfl
  . split
    . rfl
    . rfl

namespace Action

open Log (Change Levels)

theorem applyLevels_exec (world : World σ) : applyLevels.exec world = (.ok (), world.refilter) := by
  unfold applyLevels World.refilter
  rw [exec_bind_ok (exec_get world), ite_not]
  split
  . rfl
  . cases Log.Filter.ofDirectives? world.levels.directives with
    | none => rfl
    | some filter =>
      dsimp only
      split <;> rfl

theorem setLevel_exec (logger : String) (level : Log.Level) (world : World σ) :
    (setLevel logger level).exec world
      =
    match world.levels.set logger level with
    | .accepted levels => (.ok true, World.refilter { world with levels })
    | .unsupported => (.ok false, world)
    | .full => (.ok false, world.record (Log.tooMany logger)) := by
  unfold setLevel
  rw [exec_bind_ok (exec_get world)]
  cases world.levels.set logger level with
  | accepted levels =>
    dsimp only
    rw [exec_bind_ok (exec_change _ world), exec_bind_ok (applyLevels_exec _), exec_pure]
  | unsupported => rfl
  | full => rfl

def setEach : List Change → Action σ (List Bool)
  | [] => return []
  | change :: changes => do
    let answer ← setLevel change.logger change.level
    return answer :: (← setEach changes)

theorem setEach_cons_of_exec {change : Change} {changes : List Change} {answer : Bool} {answers : List Bool}
    {world world' world'' : World σ}
    (h : (setLevel change.logger change.level).exec world = (.ok answer, world'))
    (hrest : (setEach changes).exec world' = (.ok answers, world'')) :
    (setEach (change :: changes)).exec world = (.ok (answer :: answers), world'') := by
  unfold setEach
  rw [exec_bind_ok h, exec_bind_ok hrest, exec_pure]

theorem setEach_keeps {p : List Change → World σ → Prop}
    (hstep : ∀ history world change, p history world → ∃ answer world',
      (setLevel change.logger change.level).exec world = (.ok answer, world')
        ∧
      p (history ++ Change.accepted [change] [answer]) world')
    (changes : List Change) {history : List Change} {world : World σ} (h : p history world) :
    ∃ answers world',
      (setEach changes).exec world = (.ok answers, world')
        ∧
      answers.length = changes.length
        ∧
      p (history ++ Change.accepted changes answers) world' := by
  induction changes generalizing history world with
  | nil => exact ⟨[], world, rfl, rfl, by simpa [Change.accepted] using h⟩
  | cons change changes ih =>
    obtain ⟨answer, world', hfirst, hkept⟩ := hstep history world change h
    obtain ⟨answers, world'', hrest, hlength, hlast⟩ := ih hkept
    refine ⟨answer :: answers, world'', setEach_cons_of_exec hfirst hrest, by simp [hlength], ?_⟩
    cases answer <;> simpa [Change.accepted] using hlast

end Action

namespace Log.Levels.Follows

open Change (last? overridden accepted)

variable {root : Level} {history : List Change} {world : World σ}

theorem setLevel (h : world.levels.Follows root history) (change : Change) :
    ∃ answer world',
      (Action.setLevel change.logger change.level).exec world = (.ok answer, world')
        ∧
      (answer = true ↔ world.levels.Accepts change.logger)
        ∧
      (answer = true → world' = World.refilter { world with levels := world'.levels })
        ∧
      (answer = false →
        world'.levels = world.levels ∧ world'.filter = world.filter ∧ world'.wiring = world.wiring)
        ∧
      world'.levels.Follows root (history ++ accepted [change] [answer]) := by
  rw [Action.setLevel_exec]
  by_cases haccepts : world.levels.Accepts change.logger
  . obtain ⟨next, hset, hnext⟩ := h.set haccepts
    rw [hset]
    refine ⟨true, _, rfl, by simp [haccepts], ?_, nofun, ?_⟩
    . rw [World.levels_refilter]
      exact fun _ => rfl
    . rw [World.levels_refilter]
      exact hnext
  . cases set_of_not_accepts haccepts change.level with
    | inl hset | inr hset =>
      rw [hset]
      exact ⟨false, _, rfl, by simp [haccepts], nofun, fun _ => ⟨rfl, rfl, rfl⟩, by simpa [accepted] using h⟩

theorem setEach (h : world.levels.Follows root history) (changes : List Change) :
    ∃ answers world',
      (Action.setEach changes).exec world = (.ok answers, world')
        ∧
      answers.length = changes.length
        ∧
      world'.levels.Follows root (history ++ accepted changes answers) := by
  apply Action.setEach_keeps (p := fun history world => world.levels.Follows root history) _ changes h
  intro history world change h
  obtain ⟨answer, world', hset, -, -, -, hfollows⟩ := h.setLevel change
  exact ⟨answer, world', hset, hfollows⟩

theorem level?_rootLogger {levels : Levels} (h : levels.Follows root history) :
    levels.level? rootLogger = some ((last? rootLogger history).getD root) := by
  unfold level?
  rw [if_pos rfl, h.root]

theorem level?_of_dynamic {levels : Levels} (h : levels.Follows root history) {name : String}
    (hroot : name ≠ rootLogger) (hdynamic : Dynamic name) :
    levels.level? name = some ((last? name history).getD levels.root) := by
  unfold level?
  rw [if_neg hroot, if_pos (isDynamic_iff.mpr hdynamic), h.find? name hroot]

end Log.Levels.Follows

theorem Log.Levels.level?_of_not_dynamic {levels : Levels} {name : String} (hroot : name ≠ rootLogger)
    (hdynamic : ¬ Dynamic name) : levels.level? name = none := by
  unfold level?
  rw [if_neg hroot, if_neg (mt isDynamic_iff.mp hdynamic)]

open Log (Change Dynamic) in
/--
Whatever is requested for whatever names: there are never more than 256 overrides, a request is refused only
for want of a place or of a fitting name, and then changes nothing that is reported. What is reported are the
levels that were accepted last.
-/
theorem levels_after_changes (root : Log.Level) (changes : List Change) (world : World σ) :
    ∃ answers after history,
      (Action.setEach changes).exec { world with levels := .new root } = (.ok answers, after)
        ∧
      answers.length = changes.length ∧ history = Change.accepted changes answers
        ∧
      (Change.overridden history).card ≤ 256
        ∧
      (∀ name ∈ Change.overridden history, Dynamic name ∧ name ≠ "ROOT")
        ∧
      after.levels.overrides.keys.Nodup
        ∧
      (∀ name, name ∈ after.levels.overrides.keys ↔ name ∈ Change.overridden history)
        ∧
      (∀ change : Change, ∃ answer next,
        (Action.setLevel change.logger change.level).exec after = (.ok answer, next)
          ∧
        (answer = true ↔ after.levels.Accepts change.logger)
          ∧
        (answer = false → ∀ name, next.levels.level? name = after.levels.level? name))
        ∧
      after.levels.level? "ROOT" = some ((Change.last? "ROOT" history).getD root)
        ∧
      (∀ name, name ≠ "ROOT" → Dynamic name →
        after.levels.level? name
          =
        some ((Change.last? name history).getD ((Change.last? "ROOT" history).getD root)))
        ∧
      ∀ name, name ≠ "ROOT" → ¬ Dynamic name → after.levels.level? name = none := by
  have hnew : ({ world with levels := .new root } : World σ).levels.Follows root [] := Log.Levels.follows_new root
  obtain ⟨answers, after, hexec, hlength, hfollows⟩ := hnew.setEach changes
  rw [List.nil_append] at hfollows
  refine ⟨answers, after, _, hexec, hlength, rfl, hfollows.bounded, ?_, ?_, ?_, ?_, ?_, ?_, ?_⟩
  . intro name hname
    exact ⟨hfollows.dynamic name hname, Finset.ne_of_mem_erase hname⟩
  . exact after.levels.overrides.keys_nodup
  . intro name
    exact hfollows.mem_keys_iff
  . intro change
    obtain ⟨answer, next, hset, haccepts, -, hsame, -⟩ := hfollows.setLevel change
    refine ⟨answer, next, hset, haccepts, ?_⟩
    intro hfalse name
    rw [(hsame hfalse).1]
  . exact hfollows.level?_rootLogger
  . intro name hroot hdynamic
    rw [hfollows.level?_of_dynamic hroot hdynamic, hfollows.root]
    rfl
  . intro name hroot hdynamic
    exact Log.Levels.level?_of_not_dynamic hroot hdynamic

end ServiceHost
