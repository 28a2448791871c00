import ServiceHost.Config.Validation
import ServiceHost.Proofs.Log.Filter

/-!
This module contains what becomes of the levels that a configuration asks for. They are set in the order of the
names of their loggers, each as long as its logger can have a level and there is room for it.
-/

namespace ServiceHost

variable {σ : Type}

namespace Log

def canOverride (logger : String) : Bool :=
  decide (logger ≠ rootLogger) && isDynamic logger

theorem canOverride_iff {logger : String} : canOverride logger = true ↔ logger ≠ rootLogger ∧ Dynamic logger := by
  unfold canOverride
  rw [Bool.and_eq_true, decide_eq_true_eq, isDynamic_iff]

namespace Change

/-- The changes that are accepted one after the other where there is room for so many new overrides. -/
def fitting : (room : Nat) → List Change → List Change
  | _, [] => []
  | 0, change :: changes =>
    if change.logger = rootLogger then change :: fitting 0 changes else fitting 0 changes
  | room + 1, change :: changes =>
    if change.logger = rootLogger then change :: fitting (room + 1) changes
    else if canOverride change.logger then change :: fitting room changes
    else fitting (room + 1) changes

def overriding (changes : List Change) : List Change :=
  changes.filter fun change => canOverride change.logger

theorem fitting_cons_of_root {change : Change} (h : change.logger = rootLogger) (room : Nat)
    (changes : List Change) : fitting room (change :: changes) = change :: fitting room changes := by
  cases room <;> exact if_pos h

theorem fitting_cons_of_other {change : Change} (hroot : change.logger ≠ rootLogger)
    (h : canOverride change.logger = false) (room : Nat) (changes : List Change) :
    fitting room (change :: changes) = fitting room changes := by
  cases room with
  | zero => exact if_neg hroot
  | succ room => simp [fitting, hroot, h]

theorem fitting_zero_cons {change : Change} (h : change.logger ≠ rootLogger) (changes : List Change) :
    fitting 0 (change :: changes) = fitting 0 changes := by
  exact if_neg h

theorem fitting_succ_cons {change : Change} (h : canOverride change.logger = true) (room : Nat)
    (changes : List Change) : fitting (room + 1) (change :: changes) = change :: fitting room changes := by
  simp [fitting, (canOverride_iff.mp h).1, h]

theorem overriding_cons_of_root {change : Change} (h : change.logger = rootLogger) (changes : List Change) :
    overriding (change :: changes) = overriding changes := by
  apply List.filter_cons_of_neg
  simp [canOverride, h]

theorem overriding_cons_of_other {change : Change} (h : canOverride change.logger = false)
    (changes : List Change) : overriding (change :: changes) = overriding changes := by
  apply List.filter_cons_of_neg
  simp [h]

theorem overriding_cons {change : Change} (h : canOverride change.logger = true) (changes : List Change) :
    overriding (change :: changes) = change :: overriding changes := by
  exact List.filter_cons_of_pos h

theorem fitting_sublist (room : Nat) (changes : List Change) : (fitting room changes).Sublist changes := by
  fun_induction fitting room changes with
  | case1 => exact .slnil
  | case2 | case4 | case5 => exact .cons_cons _ (by assumption)
  | case3 | case6 => exact .cons _ (by assumption)

theorem mem_fitting_iff {change : Change} {room : Nat} {changes : List Change} :
    change ∈ fitting room changes
      ↔
    (change.logger = rootLogger ∧ change ∈ changes) ∨ change ∈ (overriding changes).take room := by
  fun_induction fitting room changes with
  | case1 => simp [overriding]
  | case2 first changes hroot ih | case4 room first changes hroot ih =>
    rw [overriding_cons_of_root hroot, List.mem_cons, ih, List.mem_cons]
    grind
  | case3 first changes hroot ih =>
    rw [ih, List.take_zero, List.take_zero, List.mem_cons]
    grind
  | case5 room first changes hroot hoverrides ih =>
    rw [overriding_cons hoverrides, List.take_succ_cons, List.mem_cons, ih, List.mem_cons, List.mem_cons]
    grind
  | case6 room first changes hroot hoverrides ih =>
    rw [overriding_cons_of_other (by simpa using hoverrides), ih, List.mem_cons]
    grind

theorem last?_of_mem {history : List Change} (hnodup : (history.map (·.logger)).Nodup) {change : Change}
    (h : change ∈ history) : last? change.logger history = some change.level := by
  have hfilter : history.filter (·.logger = change.logger) = [change] := by
    induction history with
    | nil => cases h
    | cons first history ih =>
      rw [List.map_cons, List.nodup_cons] at hnodup
      cases h with
      | head =>
        rw [List.filter_cons_of_pos (by simp), List.filter_eq_nil_iff.mpr]
        intro other hother heq
        exact hnodup.1 (of_decide_eq_true heq ▸ List.mem_map_of_mem hother)
      | tail _ h =>
        rw [List.filter_cons_of_neg, ih hnodup.2 h]
        intro heq
        exact hnodup.1 (of_decide_eq_true heq ▸ List.mem_map_of_mem h)
  unfold last?
  rw [hfilter]
  rfl

theorem last?_of_notMem {history : List Change} {name : String} (h : name ∉ history.map (·.logger)) :
    last? name history = none := by
  unfold last?
  rw [List.filter_eq_nil_iff.mpr]
  . rfl
  . intro change hchange heq
    exact h (of_decide_eq_true heq ▸ List.mem_map_of_mem hchange)

end Change

end Log

namespace Action

open Log (Change)

theorem events_subset_refilter (world : World σ) : world.events ⊆ world.refilter.events := by
  have hrecord (event : Log.Event) : world.events ⊆ (world.record event).events := by
    rw [World.events_record]
    exact List.subset_append_left _ _
  unfold World.refilter
  split
  . exact List.Subset.refl _
  . split
    . exact hrecord _
    . split
      . exact List.Subset.refl _
      . exact hrecord _

theorem events_subset_setLevel {logger : String} {level : Log.Level} {answer : Bool} {world world' : World σ}
    (h : (setLevel logger level).exec world = (.ok answer, world')) : world.events ⊆ world'.events := by
  rw [setLevel_exec] at h
  cases hset : world.levels.set logger level with
  | accepted levels =>
    rw [hset] at h
    cases h
    exact events_subset_refilter { world with levels }
  | unsupported =>
    rw [hset] at h
    cases h
    exact List.Subset.refl _
  | full =>
    rw [hset] at h
    cases h
    rw [World.events_record]
    exact List.subset_append_left _ _

end Action

namespace Log

namespace Levels

open Change (overridden fitting overriding)

variable {root : Level} {history : List Change} {world : World σ}

theorem accepts_of_canOverride {levels : Levels} {name : String} (h : canOverride name = true)
    (hfree : levels.overrides.length < maxOverrides) : levels.Accepts name := by
  exact .inr ⟨(canOverride_iff.mp h).2, .inr hfree⟩

theorem not_accepts_of_not_canOverride {levels : Levels} {name : String} (hroot : name ≠ rootLogger)
    (h : ¬ canOverride name = true) : ¬ levels.Accepts name := by
  rintro (heq | ⟨hdynamic, -⟩)
  . exact hroot heq
  . exact h (canOverride_iff.mpr ⟨hroot, hdynamic⟩)

theorem set_of_full {levels : Levels} {name : String} (h : canOverride name = true)
    (hnew : name ∉ levels.overrides.keys) (hfull : maxOverrides ≤ levels.overrides.length) (level : Level) :
    levels.set name level = .full := by
  obtain ⟨hroot, hdynamic⟩ := canOverride_iff.mp h
  unfold set
  rw [if_neg hroot, if_pos (isDynamic_iff.mpr hdynamic), if_pos]
  exact ⟨hfull, fun hold => hnew (Keyed.contains_iff.mp hold)⟩

namespace Follows

theorem setLevel_of_accepts (h : world.levels.Follows root history) {change : Change}
    (haccepts : world.levels.Accepts change.logger) :
    ∃ world',
      (Action.setLevel change.logger change.level).exec world = (.ok true, world')
        ∧
      world'.levels.Follows root (history ++ [change]) := by
  obtain ⟨answer, world', hset, hanswer, -, -, hfollows⟩ := h.setLevel change
  rw [hanswer.mpr haccepts] at hset hfollows
  exact ⟨world', hset, hfollows⟩

theorem setLevel_of_not_accepts (h : world.levels.Follows root history) {change : Change}
    (haccepts : ¬ world.levels.Accepts change.logger) :
    ∃ world',
      (Action.setLevel change.logger change.level).exec world = (.ok false, world')
        ∧
      world'.levels.Follows root history := by
  obtain ⟨answer, world', hset, hanswer, -, -, hfollows⟩ := h.setLevel change
  rw [Bool.eq_false_iff.mpr (mt hanswer.mp haccepts)] at hset hfollows
  exact ⟨world', hset, by simpa [Change.accepted] using hfollows⟩

structure Fitted (root : Level) (history : List Change) (room : Nat) (changes : List Change)
    (world world' : World σ) : Prop where
  follows : world'.levels.Follows root (history ++ fitting room changes)
  events : world.events ⊆ world'.events
  reports : ∀ change ∈ (overriding changes).drop room, tooMany change.logger ∈ world'.events

theorem Fitted.cons {first : Change} {changes history' : List Change} {room room' : Nat} {answer : Bool}
    {world' world'' : World σ}
    (hset : (Action.setLevel first.logger first.level).exec world = (.ok answer, world'))
    (h : Fitted root history' room' changes world' world'')
    (hfitting : history' ++ fitting room' changes = history ++ fitting room (first :: changes))
    (hreports : ∀ change ∈ (overriding (first :: changes)).drop room,
      change ∈ (overriding changes).drop room' ∨ tooMany change.logger ∈ world'.events) :
    Fitted root history room (first :: changes) world world'' where
  follows := hfitting ▸ h.follows
  events := List.Subset.trans (Action.events_subset_setLevel hset) h.events
  reports := by
    intro change hchange
    cases hreports change hchange with
    | inl hlater => exact h.reports change hlater
    | inr hnow => exact h.events hnow

theorem setEach_fitted {room : Nat} {changes : List Change} (h : world.levels.Follows root history)
    (hroom : (overridden history).card + room = maxOverrides)
    (hnodup : (changes.map (·.logger)).Nodup)
    (hnew : ∀ change ∈ changes, change.logger ∉ overridden history) :
    ∃ answers world',
      (Action.setEach changes).exec world = (.ok answers, world')
        ∧
      Fitted root history room changes world world' := by
  -- every accepted override takes one place of the room that the overrides so far leave
  induction changes generalizing room history world with
  | nil => exact ⟨[], world, rfl, by simpa [fitting] using h, List.Subset.refl _, by simp [overriding]⟩
  | cons first changes ih =>
    rw [List.map_cons, List.nodup_cons] at hnodup
    rw [List.forall_mem_cons] at hnew
    by_cases hroot : first.logger = rootLogger
    . obtain ⟨world₁, hset, hfollows⟩ := h.setLevel_of_accepts (.inl hroot)
      have hsame : overridden (history ++ [first]) = overridden history := by
        rw [Change.overridden_append_singleton, if_pos hroot]
      obtain ⟨answers, world₂, hrest, hfitted⟩ :=
        ih hfollows (by rw [hsame]; exact hroom) hnodup.2 (by rw [hsame]; exact hnew.2)
      refine ⟨_, world₂, Action.setEach_cons_of_exec hset hrest, hfitted.cons hset ?_ ?_⟩
      . rw [Change.fitting_cons_of_root hroot, List.append_assoc, List.singleton_append]
      . rw [Change.overriding_cons_of_root hroot]
        exact fun _ => .inl
    by_cases hoverrides : canOverride first.logger = true
    . have hlength := h.length_overrides
      cases room with
      | zero =>
        have hfull := set_of_full hoverrides (mt h.mem_keys_iff.mp hnew.1) (by omega) first.level
        have hset : (Action.setLevel first.logger first.level).exec world
            =
          (.ok false, world.record (tooMany first.logger)) := by
          rw [Action.setLevel_exec, hfull]
        have hreported : tooMany first.logger ∈ (world.record (tooMany first.logger)).events := by
          rw [World.events_record]
          exact List.mem_concat_self
        obtain ⟨answers, world₂, hrest, hfitted⟩ :=
          @ih _ (world.record (tooMany first.logger)) _ h hroom hnodup.2 hnew.2
        refine ⟨_, world₂, Action.setEach_cons_of_exec hset hrest, hfitted.cons hset ?_ ?_⟩
        . rw [Change.fitting_zero_cons hroot]
        . rw [Change.overriding_cons hoverrides, List.drop_zero, List.drop_zero, List.forall_mem_cons]
          exact ⟨.inr hreported, fun _ => .inl⟩
      | succ room =>
        obtain ⟨world₁, hset, hfollows⟩ := h.setLevel_of_accepts (accepts_of_canOverride hoverrides (by omega))
        have hmore : overridden (history ++ [first]) = insert first.logger (overridden history) := by
          rw [Change.overridden_append_singleton, if_neg hroot]
        have hroom₁ : (overridden (history ++ [first])).card + room = maxOverrides := by
          rw [hmore, Finset.card_insert_of_notMem hnew.1, ← hroom]
          exact Nat.add_right_comm ..
        have hnew₁ : ∀ change ∈ changes, change.logger ∉ overridden (history ++ [first]) := by
          intro change hchange
          rw [hmore, Finset.mem_insert, not_or]
          exact ⟨fun heq => hnodup.1 (heq ▸ List.mem_map_of_mem hchange), hnew.2 change hchange⟩
        obtain ⟨answers, world₂, hrest, hfitted⟩ := ih hfollows hroom₁ hnodup.2 hnew₁
        refine ⟨_, world₂, Action.setEach_cons_of_exec hset hrest, hfitted.cons hset ?_ ?_⟩
        . rw [Change.fitting_succ_cons hoverrides, List.append_assoc, List.singleton_append]
        . rw [Change.overriding_cons hoverrides, List.drop_succ_cons]
          exact fun _ => .inl
    . obtain ⟨world₁, hset, hfollows⟩ :=
        h.setLevel_of_not_accepts (not_accepts_of_not_canOverride hroot hoverrides)
      obtain ⟨answers, world₂, hrest, hfitted⟩ := ih hfollows hroom hnodup.2 hnew.2
      refine ⟨_, world₂, Action.setEach_cons_of_exec hset hrest, hfitted.cons hset ?_ ?_⟩
      . rw [Change.fitting_cons_of_other hroot (by simpa using hoverrides)]
      . rw [Change.overriding_cons_of_other (by simpa using hoverrides)]
        exact fun _ => .inl

variable {levels : Levels}

theorem level?_of_mem (h : levels.Follows root history) (hnodup : (history.map (·.logger)).Nodup)
    {change : Change} (hchange : change ∈ history) : levels.level? change.logger = some change.level := by
  have hlast := Change.last?_of_mem hnodup hchange
  by_cases hroot : change.logger = rootLogger
  . rw [hroot] at hlast ⊢
    rw [h.level?_rootLogger, hlast, Option.getD_some]
  . have hdynamic := h.dynamic _ (Change.mem_overridden_iff.mpr ⟨hroot, change, hchange, rfl⟩)
    rw [h.level?_of_dynamic hroot hdynamic, hlast, Option.getD_some]

theorem level?_of_notMem (h : levels.Follows root history) {name : String} (hroot : name ≠ rootLogger)
    (hdynamic : Dynamic name) (hnew : name ∉ history.map (·.logger)) :
    levels.level? name = levels.level? rootLogger := by
  rw [h.level?_of_dynamic hroot hdynamic, Change.last?_of_notMem hnew, Option.getD_none, level?, if_pos rfl]

end Follows
end Levels
end Log

def Config.Logging.overriding (c : Config.Logging) : List String :=
  c.loggers.keys.filter Log.canOverride

namespace Command

open Log (Change Levels)

theorem mem_changesOf_iff {change : Change} {loggers : List (String × String)} :
    change ∈ changesOf loggers
      ↔
    ∃ text, (change.logger, text) ∈ loggers ∧ Log.Level.ofName? text = some change.level := by
  unfold changesOf
  rw [List.mem_filterMap]
  constructor
  . rintro ⟨⟨logger, text⟩, hmem, heq⟩
    obtain ⟨level, hlevel, rfl⟩ := Option.map_eq_some_iff.mp heq
    exact ⟨text, hmem, hlevel⟩
  . rintro ⟨text, hmem, hlevel⟩
    exact ⟨_, hmem, by simp [hlevel]⟩

theorem map_logger_changesOf {loggers : List (String × String)}
    (h : ∀ entry ∈ loggers, (Log.Level.ofName? entry.2).isSome) :
    (changesOf loggers).map (·.logger) = loggers.map (·.1) := by
  induction loggers with
  | nil => rfl
  | cons entry rest ih =>
    rw [List.forall_mem_cons] at h
    obtain ⟨level, hlevel⟩ := Option.isSome_iff_exists.mp h.1
    have hcons : changesOf (entry :: rest) = ⟨entry.1, level⟩ :: changesOf rest :=
      List.filterMap_cons_some (by simp [hlevel])
    rw [hcons, List.map_cons, List.map_cons, ih h.2]

theorem map_logger_overriding {c : Config.Logging}
    (h : ∀ entry ∈ c.loggers, (Log.Level.ofName? entry.2).isSome) :
    (Change.overriding (changesOf c.loggers.entries)).map (·.logger) = c.overriding := by
  unfold Config.Logging.overriding Keyed.keys
  rw [← map_logger_changesOf h, List.filter_map]
  rfl

theorem mem_map_fitting_iff {c : Config.Logging} (h : ∀ entry ∈ c.loggers, (Log.Level.ofName? entry.2).isSome)
    {room : Nat} {name : String} :
    name ∈ (Change.fitting room (changesOf c.loggers.entries)).map (·.logger)
      ↔
    (name = Log.rootLogger ∧ name ∈ c.loggers.keys) ∨ name ∈ c.overriding.take room := by
  rw [← map_logger_overriding h, ← List.map_take]
  unfold Keyed.keys
  rw [← map_logger_changesOf h]
  simp only [List.mem_map, Change.mem_fitting_iff]
  grind

theorem configureLog_fitted {c : Config.Logging} {root : Log.Level} (hroot : Log.Level.ofName? c.level = some root)
    (hlevels : ∀ entry ∈ c.loggers, (Log.Level.ofName? entry.2).isSome) (world : World σ) :
    ∃ after,
      (configureLog c).exec world = (.ok (), after)
        ∧
      after.levels.Follows root (Change.fitting Log.maxOverrides (changesOf c.loggers.entries))
        ∧
      ∀ logger ∈ c.overriding.drop Log.maxOverrides,
        after.levels.level? logger = after.levels.level? Log.rootLogger ∧ Log.tooMany logger ∈ after.events := by
  have hblank : (world.install root).levels.Follows root [] := by
    rw [World.levels_install]
    exact Levels.follows_new root
  have hnodup : ((changesOf c.loggers.entries).map (·.logger)).Nodup := by
    rw [map_logger_changesOf hlevels]
    exact c.loggers.keys_nodup
  obtain ⟨answers, set, hset, hfitted⟩ :=
    hblank.setEach_fitted (Nat.zero_add _) hnodup (by simp [Change.overridden])
  have hfollows : set.refilter.levels.Follows root (Change.fitting Log.maxOverrides (changesOf c.loggers.entries)) := by
    rw [World.levels_refilter]
    exact hfitted.follows
  refine ⟨set.refilter, configureLog_exec_of_setEach (by rw [hroot, Option.getD_some]) hset, hfollows, ?_⟩
  intro logger hlate
  constructor
  . obtain ⟨hother, hdynamic⟩ := Log.canOverride_iff.mp (List.of_mem_filter (List.mem_of_mem_drop hlate))
    apply hfollows.level?_of_notMem hother hdynamic
    rw [mem_map_fitting_iff hlevels, not_or]
    exact ⟨fun h => hother h.1, fun hearly =>
      List.disjoint_take_drop (c.loggers.keys_nodup.filter _) (Nat.le_refl _) hearly hlate⟩
  . rw [← map_logger_overriding hlevels, ← List.map_drop, List.mem_map] at hlate
    obtain ⟨change, hchange, rfl⟩ := hlate
    exact Action.events_subset_refilter set (hfitted.reports change hchange)

end Command

namespace Configuration

theorem ofName?_isSome_of_violations {c : Configuration} (h : c.violations = []) :
    (Log.Level.ofName? c.logging.level).isSome
      ∧
    ∀ entry ∈ c.logging.loggers, (Log.Level.ofName? entry.2).isSome := by
  have hlevel {logger text : String} (h : Config.levelViolations logger text = []) :
      (Log.Level.ofName? text).isSome := by
    unfold Config.levelViolations at h
    split at h
    . assumption
    . cases h
  unfold violations at h
  rw [List.append_eq_nil_iff, List.append_eq_nil_iff, List.flatMap_eq_nil_iff] at h
  exact ⟨hlevel h.1.2, fun entry hentry => hlevel (h.2 entry hentry)⟩

end Configuration

open Log (Level Dynamic) in
/--
The levels of a configuration without violations are put in force: those of the root, and those of the first
256 loggers that can have one. The loggers beyond them follow the root, which is reported as a warning, and
names that cannot have a level have none. An entry for the root counts in place of the level of the section.
-/
theorem levels_of_configuration (c : Configuration) (world : World σ) (hchecked : c.violations = []) :
    ∃ root after,
      Level.ofName? c.logging.level = some root
        ∧
      (Command.configureLog c.logging).exec world = (.ok (), after)
        ∧
      ("ROOT" ∉ c.logging.loggers.keys → after.levels.level? "ROOT" = some root)
        ∧
      (∀ logger text, (logger, text) ∈ c.logging.loggers →
        ∃ level,
          Level.ofName? text = some level
            ∧
          (logger = "ROOT" ∨ logger ∈ c.logging.overriding.take 256 → after.levels.level? logger = some level)
            ∧
          (logger ∈ c.logging.overriding.drop 256 →
            after.levels.level? logger = after.levels.level? "ROOT" ∧ Log.tooMany logger ∈ after.events)
            ∧
          (logger ≠ "ROOT" ∧ ¬ Dynamic logger → after.levels.level? logger = none))
        ∧
      ∀ logger, logger ∉ c.logging.loggers.keys → logger ≠ "ROOT" → Dynamic logger →
        after.levels.level? logger = after.levels.level? "ROOT" := by
  obtain ⟨hroot, hlevels⟩ := Configuration.ofName?_isSome_of_violations hchecked
  obtain ⟨root, hroot⟩ := Option.isSome_iff_exists.mp hroot
  obtain ⟨after, hconfigure, hfollows, hlates⟩ := Command.configureLog_fitted hroot hlevels world
  have hchanges : ((Command.changesOf c.logging.loggers.entries).map (·.logger)).Nodup := by
    rw [Command.map_logger_changesOf hlevels]
    exact c.logging.loggers.keys_nodup
  have hfitting := hchanges.sublist ((Log.Change.fitting_sublist Log.maxOverrides _).map (·.logger))
  have hnamed {name : String} := @Command.mem_map_fitting_iff c.logging hlevels Log.maxOverrides name
  have hcan : ∀ name ∈ c.logging.overriding, name ≠ Log.rootLogger ∧ Dynamic name :=
    fun name hname => Log.canOverride_iff.mp (List.of_mem_filter hname)
  refine ⟨root, after, hroot, hconfigure, ?_, ?_, ?_⟩
  . intro hnone
    refine hfollows.level?_rootLogger.trans ?_
    rw [Log.Change.last?_of_notMem, Option.getD_none]
    rw [hnamed]
    rintro (⟨-, hmem⟩ | hmem)
    . exact hnone hmem
    . exact (hcan _ (List.mem_of_mem_take hmem)).1 rfl
  . intro logger text hentry
    obtain ⟨level, hlevel⟩ := Option.isSome_iff_exists.mp (hlevels _ hentry)
    refine ⟨level, hlevel, ?_, hlates logger, fun h => Log.Levels.level?_of_not_dynamic h.1 h.2⟩
    intro hfits
    have hmem : logger ∈ (Log.Change.fitting Log.maxOverrides _).map (·.logger) :=
      hnamed.mpr (hfits.imp_left fun heq => ⟨heq, List.mem_map_of_mem hentry⟩)
    obtain ⟨change, hchange, rfl⟩ := List.mem_map.mp hmem
    have heq : change = ⟨change.logger, level⟩ :=
      List.inj_on_of_nodup_map hchanges ((Log.Change.fitting_sublist _ _).subset hchange)
        (Command.mem_changesOf_iff.mpr ⟨text, hentry, hlevel⟩) rfl
    rw [hfollows.level?_of_mem hfitting hchange, heq]
  . intro logger hnone hother hdynamic
    apply hfollows.level?_of_notMem hother hdynamic
    rw [hnamed, not_or]
    exact ⟨fun h => hother h.1, fun h => hnone (List.mem_of_mem_filter (List.mem_of_mem_take h))⟩

def mixedLogging : Configuration :=
  { Configuration.default with
    logging := ⟨"INFO", .text, .ofList [("ROOT", "WARN"), ("a=b", "DEBUG"), ("shop::db", "debug")]⟩ }

theorem levels_of_mixedLogging :
    mixedLogging.violations = []
      ∧
    ∃ after,
      (Command.configureLog mixedLogging.logging).exec (.idle ()) = (.ok (), after)
        ∧
      after.levels.level? "ROOT" = some .warn
        ∧
      after.levels.level? "a=b" = none
        ∧
      after.levels.level? "shop::db" = some .debug
        ∧
      after.levels.level? "shop::web" = some .warn := by
  have hchecked : mixedLogging.violations = [] := by decide +kernel
  obtain ⟨root, after, -, hconfigure, -, hentries, hothers⟩ :=
    levels_of_configuration mixedLogging (.idle ()) hchecked
  obtain ⟨_, hwarn, hroot, -⟩ := hentries "ROOT" "WARN" (by decide)
  obtain ⟨_, -, -, -, hmarked⟩ := hentries "a=b" "DEBUG" (by decide)
  obtain ⟨_, hdebug, hmodule, -⟩ := hentries "shop::db" "debug" (by decide)
  cases (show Log.Level.ofName? "WARN" = some .warn by decide +kernel).symm.trans hwarn
  cases (show Log.Level.ofName? "debug" = some .debug by decide +kernel).symm.trans hdebug
  have hroot := hroot (.inl rfl)
  refine ⟨hchecked, after, hconfigure, hroot, hmarked ?_, hmodule (.inr (by decide +kernel)), ?_⟩
  . rw [← Log.isDynamic_iff]
    decide +kernel
  . rw [hothers "shop::web" (by decide) (by decide) (Log.isDynamic_iff.mp (by decide +kernel)), hroot]

def lettered (n : Nat) : String :=
  String.ofList (List.replicate (n + 1) 'a')

theorem replicate_lt_replicate (c : Char) {m n : Nat} (h : m < n) : List.replicate m c < List.replicate n c := by
  induction m generalizing n with
  | zero =>
    obtain ⟨n, rfl⟩ := Nat.exists_eq_succ_of_ne_zero (Nat.ne_zero_of_lt h)
    exact List.nil_lt_cons _ _
  | succ m ih =>
    obtain ⟨n, rfl⟩ := Nat.exists_eq_succ_of_ne_zero (Nat.ne_zero_of_lt h)
    exact List.cons_lt_cons_self.mpr (ih (Nat.lt_of_succ_lt_succ h))

theorem lettered_lt {m n : Nat} (h : m < n) : lettered m < lettered n := by
  rw [String.lt_iff_toList_lt]
  unfold lettered
  rw [String.toList_ofList, String.toList_ofList]
  exact replicate_lt_replicate 'a' (Nat.succ_lt_succ h)

theorem canOverride_lettered (n : Nat) : Log.canOverride (lettered n) = true := by
  rw [Log.canOverride_iff]
  have hfirst : 'a' ∈ (lettered n).toList := by simp [lettered]
  have hletters : ∀ c ∈ (lettered n).toList, c = 'a' := by
    unfold lettered
    rw [String.toList_ofList]
    exact fun c hc => List.eq_of_mem_replicate hc
  refine ⟨?_, ?_, ?_⟩
  . intro heq
    exact absurd (heq ▸ hfirst) (by decide)
  . intro heq
    exact absurd (heq ▸ hfirst) (by decide)
  . intro c hc
    rw [hletters c hc]
    decide

def crowd : Keyed String :=
  ⟨(List.range 257).map fun n => (lettered n, "DEBUG"), List.pairwise_lt_range.map _ fun _ _ => lettered_lt⟩

def crowdedLogging : Configuration :=
  { Configuration.default with logging := ⟨"INFO", .text, crowd⟩ }

theorem keys_crowdedLogging : crowdedLogging.logging.loggers.keys = (List.range 257).map lettered := by
  unfold Keyed.keys crowdedLogging crowd
  rw [List.map_map]
  rfl

theorem overriding_crowdedLogging : crowdedLogging.logging.overriding = (List.range 257).map lettered := by
  unfold Config.Logging.overriding
  rw [keys_crowdedLogging, List.filter_eq_self, List.forall_mem_map]
  exact fun n _ => canOverride_lettered n

theorem configureLog_crowdedLogging (world : World σ) :
    ∃ after,
      (Command.configureLog crowdedLogging.logging).exec world = (.ok (), after)
        ∧
      after.levels.level? (lettered 256) = some .info := by
  have hroot : Log.Level.ofName? crowdedLogging.logging.level = some .info := by decide +kernel
  have hlevels : ∀ entry ∈ crowdedLogging.logging.loggers, (Log.Level.ofName? entry.2).isSome := by
    intro entry hentry
    obtain ⟨n, -, rfl⟩ := List.mem_map.mp hentry
    exact (by decide +kernel : (Log.Level.ofName? "DEBUG").isSome)
  obtain ⟨after, hconfigure, hfollows, hlates⟩ :=
    Command.configureLog_fitted hroot hlevels world
  have hlate : lettered 256 ∈ crowdedLogging.logging.overriding.drop Log.maxOverrides := by
    rw [overriding_crowdedLogging, ← List.map_drop]
    exact List.mem_map_of_mem (by decide)
  have hnone : Log.rootLogger ∉ (Log.Change.fitting Log.maxOverrides
      (Command.changesOf crowdedLogging.logging.loggers.entries)).map (·.logger) := by
    rw [Command.mem_map_fitting_iff hlevels, keys_crowdedLogging, overriding_crowdedLogging, ← List.map_take]
    have hother : ∀ numbers : List Nat, Log.rootLogger ∉ numbers.map lettered := by
      intro numbers hmem
      obtain ⟨n, -, heq⟩ := List.mem_map.mp hmem
      exact (Log.canOverride_iff.mp (canOverride_lettered n)).1 heq
    rw [not_or]
    exact ⟨fun h => hother _ h.2, hother _⟩
  refine ⟨after, hconfigure, ?_⟩
  rw [(hlates _ hlate).1, hfollows.level?_rootLogger, Log.Change.last?_of_notMem hnone, Option.getD_none]

/--
Not every level of a configuration without violations is put in force: a name with a mark in it has none, the
root can have another level than the one of the section, and the last of 257 loggers follows the root.
-/
theorem levels_not_in_force :
    (mixedLogging.violations = []
      ∧
    ∃ after,
      (Command.configureLog mixedLogging.logging).exec (.idle ()) = (.ok (), after)
        ∧
      Log.Level.ofName? mixedLogging.logging.level = some .info ∧ after.levels.level? "ROOT" = some .warn
        ∧
      ("a=b", "DEBUG") ∈ mixedLogging.logging.loggers ∧ after.levels.level? "a=b" = none)
      ∧
    crowdedLogging.violations = []
      ∧
    ∃ after,
      (Command.configureLog crowdedLogging.logging).exec (.idle ()) = (.ok (), after)
        ∧
      (lettered 256, "DEBUG") ∈ crowdedLogging.logging.loggers
        ∧
      after.levels.level? (lettered 256) = some .info := by
  constructor
  . obtain ⟨after, history, hconfigure, -⟩ := 
      Command.configureLog_inForce mixedLogging.logging (World.filter_idle ())
    have hlevels : ((Command.configureLog mixedLogging.logging).exec (.idle ())).2.levels.level? "ROOT"
          =
        some .warn
        ∧
        ((Command.configureLog mixedLogging.logging).exec (.idle ())).2.levels.level? "a=b" = none := by
      decide +kernel
    rw [hconfigure] at hlevels
    exact ⟨by decide +kernel, after, hconfigure, by decide +kernel, hlevels.1, by decide +kernel, hlevels.2⟩
  . obtain ⟨after, hconfigure, hlevel⟩ := configureLog_crowdedLogging (World.idle ())
    refine ⟨by decide +kernel, after, hconfigure, ?_, hlevel⟩
    exact List.mem_map.mpr ⟨256, by decide, rfl⟩

end ServiceHost
