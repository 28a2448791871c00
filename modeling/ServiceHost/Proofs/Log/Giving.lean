import ServiceHost.Proofs.Log.Levels

/-!
This module contains how one level is given to several loggers, one after the other: who takes it, what the
levels are in the end, and that doing it once more changes nothing.
-/

namespace ServiceHost

namespace Log

namespace Levels

def put (logger : String) (level : Level) (levels : Levels) : Levels :=
  if logger = rootLogger then { levels with root := level }
  else { levels with overrides := levels.overrides.insert logger level }

theorem find?_put (logger name : String) (level : Level) (levels : Levels) :
    (levels.put logger level).overrides.find? name
      =
    if name = logger ∧ name ≠ rootLogger then some level else levels.overrides.find? name := by
  unfold put
  split
  . next hroot =>
    rw [if_neg]
    rintro ⟨rfl, hname⟩
    exact hname hroot
  . next hroot =>
    rw [Keyed.find?_insert]
    by_cases h : name = logger
    . rw [if_pos h, if_pos ⟨h, h ▸ hroot⟩]
    . rw [if_neg h, if_neg fun hboth => h hboth.1]

theorem root_put (logger : String) (level : Level) (levels : Levels) :
    (levels.put logger level).root = if logger = rootLogger then level else levels.root := by
  unfold put
  split <;> rfl

theorem length_le_put (logger : String) (level : Level) (levels : Levels) :
    levels.overrides.length ≤ (levels.put logger level).overrides.length := by
  unfold put
  split
  . exact Nat.le_refl _
  . exact Keyed.length_le_insert logger level levels.overrides

theorem accepts_put_of_ne {levels : Levels} {logger name : String} {level : Level} (hne : name ≠ logger)
    (h : (levels.put logger level).Accepts name) : levels.Accepts name := by
  refine h.imp_right fun ⟨hdynamic, hplace⟩ => ⟨hdynamic, ?_⟩
  have hkeys : name ∈ (levels.put logger level).overrides.keys ↔ name ∈ levels.overrides.keys := by
    rw [← not_iff_not, ← Keyed.find?_eq_none_iff, ← Keyed.find?_eq_none_iff, find?_put,
      if_neg fun hboth => hne hboth.1]
  exact hplace.imp hkeys.mp (Nat.lt_of_le_of_lt (length_le_put ..))

theorem put_eq_self {levels : Levels} {logger : String} {level : Level}
    (hroot : logger = rootLogger → levels.root = level)
    (hfind : logger ≠ rootLogger → levels.overrides.find? logger = some level) :
    levels.put logger level = levels := by
  unfold put
  split
  . next heq => rw [← hroot heq]
  . next hne => rw [Keyed.insert_eq_self (hfind hne)]

/--
Loggers are given a level one after the other: whether one takes it is decided by the levels that those before
it have left.
-/
inductive Sets (level : Level) : Levels → List String → List String → Levels → Prop where
  | nil (levels : Levels) : Sets level levels [] [] levels
  | taken {levels last : Levels} {logger : String} {loggers takers : List String} (h : levels.Accepts logger)
      (hrest : Sets level (levels.put logger level) loggers takers last) :
      Sets level levels (logger :: loggers) (logger :: takers) last
  | skipped {levels last : Levels} {logger : String} {loggers takers : List String} (h : ¬ levels.Accepts logger)
      (hrest : Sets level levels loggers takers last) : Sets level levels (logger :: loggers) takers last

theorem exists_sets (level : Level) (levels : Levels) (loggers : List String) :
    ∃ takers last, Sets level levels loggers takers last := by
  induction loggers generalizing levels with
  | nil => exact ⟨[], levels, .nil levels⟩
  | cons logger loggers ih =>
    by_cases h : levels.Accepts logger
    . obtain ⟨takers, last, hrest⟩ := ih (levels.put logger level)
      exact ⟨logger :: takers, last, .taken h hrest⟩
    . obtain ⟨takers, last, hrest⟩ := ih levels
      exact ⟨takers, last, .skipped h hrest⟩

namespace Sets

variable {level : Level} {levels last : Levels} {loggers takers : List String} {logger : String}

theorem sublist (h : Sets level levels loggers takers last) : takers.Sublist loggers := by
  induction h with
  | nil => exact .slnil
  | taken _ _ ih => exact ih.cons_cons _
  | skipped _ _ ih => exact ih.cons _

theorem rootLogger_mem_iff (h : Sets level levels loggers takers last) :
    rootLogger ∈ takers ↔ rootLogger ∈ loggers := by
  induction h with
  | nil => exact Iff.rfl
  | taken _ _ ih => rw [List.mem_cons, List.mem_cons, ih]
  | skipped hrefused _ ih =>
    rw [ih, List.mem_cons, or_iff_right]
    rintro rfl
    exact hrefused (.inl rfl)

theorem root_eq (h : Sets level levels loggers takers last) :
    last.root = if rootLogger ∈ takers then level else levels.root := by
  induction h with
  | nil => rfl
  | @taken levels last logger loggers takers _ _ ih =>
    rw [ih, root_put]
    by_cases hlogger : logger = rootLogger
    . simp [hlogger]
    . simp [hlogger, Ne.symm hlogger]
  | skipped _ _ ih => exact ih

theorem find?_eq (h : Sets level levels loggers takers last) (name : String) :
    last.overrides.find? name
      =
    if name ∈ takers ∧ name ≠ rootLogger then some level else levels.overrides.find? name := by
  induction h with
  | nil => simp
  | @taken levels last logger loggers takers _ _ ih =>
    rw [ih, find?_put]
    by_cases hname : name = logger
    . subst hname
      by_cases hroot : name = rootLogger
      . simp [hroot]
      . simp [hroot]
    . simp [hname]
  | skipped _ _ ih => exact ih

theorem length_le (h : Sets level levels loggers takers last) :
    levels.overrides.length ≤ last.overrides.length := by
  induction h with
  | nil => exact Nat.le_refl _
  | taken _ _ ih => exact (length_le_put ..).trans ih
  | skipped _ _ ih => exact ih

theorem accepts_of_put (h : Sets level (levels.put logger level) loggers takers last)
    (haccepts : levels.Accepts logger) : last.Accepts logger := by
  by_cases hroot : logger = rootLogger
  . exact .inl hroot
  . obtain ⟨hdynamic, _⟩ := haccepts.resolve_left hroot
    refine .inr ⟨hdynamic, .inl ?_⟩
    rw [← Keyed.contains_iff, Keyed.contains, h.find?_eq, find?_put]
    simp [hroot]

theorem not_accepts (h : Sets level levels loggers takers last) (hrefused : ¬ levels.Accepts logger) :
    ¬ last.Accepts logger ∧ logger ∉ takers := by
  induction h with
  | nil => exact ⟨hrefused, List.not_mem_nil⟩
  | @taken levels last other loggers takers haccepts _ ih =>
    have hne : logger ≠ other := fun heq => hrefused (heq ▸ haccepts)
    obtain ⟨hlast, htakers⟩ := ih (mt (accepts_put_of_ne hne) hrefused)
    exact ⟨hlast, fun hmem => htakers (List.mem_of_ne_of_mem hne hmem)⟩
  | skipped _ _ ih => exact ih hrefused

theorem accepts_iff (h : Sets level levels loggers takers last) (hmem : logger ∈ loggers) :
    last.Accepts logger ↔ logger ∈ takers := by
  induction h with
  | nil => cases hmem
  | @taken levels last other loggers takers haccepts hrest ih =>
    by_cases heq : logger = other
    . subst heq
      exact iff_of_true (hrest.accepts_of_put haccepts) List.mem_cons_self
    . rw [List.mem_cons, or_iff_right heq]
      exact ih (List.mem_of_ne_of_mem heq hmem)
  | @skipped levels last other loggers takers hrefused hrest ih =>
    by_cases heq : logger = other
    . subst heq
      obtain ⟨hlast, htakers⟩ := hrest.not_accepts hrefused
      exact iff_of_false hlast htakers
    . exact ih (List.mem_of_ne_of_mem heq hmem)

theorem level_of_mem (h : Sets level levels loggers takers last) (hmem : logger ∈ takers) :
    (logger = rootLogger → last.root = level)
      ∧
    (logger ≠ rootLogger → last.overrides.find? logger = some level) := by
  constructor
  . rintro rfl
    rw [h.root_eq, if_pos hmem]
  . intro hroot
    rw [h.find?_eq, if_pos ⟨hmem, hroot⟩]

theorem again (h : Sets level levels loggers takers last) {names : List String}
    (hnames : ∀ name ∈ names, name ∈ loggers) : Sets level last names (names.filter (· ∈ takers)) last := by
  induction names with
  | nil => exact .nil last
  | cons name names ih =>
    obtain ⟨hname, hrest⟩ := List.forall_mem_cons.mp hnames
    by_cases htaker : name ∈ takers
    . obtain ⟨hroot, hfind⟩ := h.level_of_mem htaker
      rw [List.filter_cons_of_pos (by simpa using htaker)]
      refine .taken ((h.accepts_iff hname).mpr htaker) ?_
      rw [put_eq_self hroot hfind]
      exact ih hrest
    . rw [List.filter_cons_of_neg (by simpa using htaker)]
      exact .skipped (mt (h.accepts_iff hname).mp htaker) (ih hrest)

end Sets
end Levels
end Log

end ServiceHost
