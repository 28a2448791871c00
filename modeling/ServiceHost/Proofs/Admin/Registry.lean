import Mathlib.Data.List.Nodup
import ServiceHost.Admin.Registry
import ServiceHost.Proofs.Http.Binding

/-!
This module contains when the admin side takes a page, a task or a health check, and what its checks keep: no
path and no name is taken twice, and each can be routed.
-/

namespace ServiceHost.Admin.Registry

variable {σ : Type}

theorem addView_eq_ok_iff {registry next : Registry σ} {view : View σ} :
    registry.addView view = .ok next
      ↔
    (registry.started = false ∧ view.path ≠ Http.Path.root ∧ Http.Path.isRoutable view.path = true
      ∧ view.path ∉ registry.views.map (·.path))
      ∧
    next = { registry with views := registry.views ++ [view] } := by
  constructor
  . intro h
    unfold addView at h
    split at h
    . cases h
    . next hstarted =>
      split at h
      . cases h
      . next hroot =>
        split at h
        . cases h
        . next hpath =>
          split at h
          . cases h
          . next hnew =>
            injection h with h
            simp only [Bool.not_eq_true, Bool.not_eq_true', Bool.not_eq_false] at hstarted hpath
            exact ⟨⟨hstarted, hroot, hpath, hnew⟩, h.symm⟩
  . rintro ⟨⟨hstarted, hroot, hpath, hnew⟩, rfl⟩
    unfold addView
    rw [if_neg (by simp [hstarted]), if_neg hroot, if_neg (by simp [hpath]), if_neg hnew]

theorem addTask_eq_ok_iff {registry next : Registry σ} {task : Task σ} :
    registry.addTask task = .ok next
      ↔
    (registry.started = false ∧ isTaskName task.name = true ∧ task.name ∉ registry.tasks.map (·.name))
      ∧
    next = { registry with tasks := registry.tasks ++ [task] } := by
  constructor
  . intro h
    unfold addTask at h
    split at h
    . cases h
    . next hstarted =>
      split at h
      . cases h
      . next hname =>
        split at h
        . cases h
        . next hnew =>
          injection h with h
          simp only [Bool.not_eq_true, Bool.not_eq_true', Bool.not_eq_false] at hstarted hname
          exact ⟨⟨hstarted, hname, hnew⟩, h.symm⟩
  . rintro ⟨⟨hstarted, hname, hnew⟩, rfl⟩
    unfold addTask
    rw [if_neg (by simp [hstarted]), if_neg (by simp [hname]), if_neg hnew]

theorem addCheck_eq_ok_iff {registry next : Registry σ} {check : Health.Check σ} :
    registry.addCheck check = .ok next
      ↔
    (registry.checks.frozen = false ∧ check.name ∉ registry.checks.names)
      ∧
    next
      =
    { registry with checks := { registry.checks with checks := registry.checks.checks ++ [check] } } := by
  constructor
  . intro h
    unfold addCheck Health.Registry.register at h
    split at h
    . cases h
    . next hfrozen =>
      split at h
      . cases h
      . next hnew =>
        injection h with h
        rw [Bool.not_eq_true] at hfrozen
        exact ⟨⟨hfrozen, hnew⟩, h.symm⟩
  . rintro ⟨⟨hfrozen, hnew⟩, rfl⟩
    unfold addCheck Health.Registry.register
    rw [if_neg (by simp [hfrozen]), if_neg hnew]
    rfl

structure Closed (registry : Registry σ) : Prop where
  started : registry.started = true
  frozen : registry.checks.frozen = true

namespace Closed

variable {registry : Registry σ}

theorem addView (h : registry.Closed) (view : View σ) : registry.addView view = .error .alreadyStarted := by
  unfold Registry.addView
  rw [if_pos h.started]

theorem addTask (h : registry.Closed) (task : Task σ) : registry.addTask task = .error .alreadyStarted := by
  unfold Registry.addTask
  rw [if_pos h.started]

theorem addCheck (h : registry.Closed) (check : Health.Check σ) :
    registry.addCheck check = .error (.alreadyStarted check.name) := by
  unfold Registry.addCheck Health.Registry.register
  rw [if_pos h.frozen]
  rfl

theorem close_eq (h : registry.Closed) : registry.close = registry := by
  obtain ⟨views, tasks, ⟨checks, frozen⟩, started⟩ := registry
  obtain ⟨rfl, rfl⟩ := h
  rfl

end Closed

theorem closed_close (registry : Registry σ) : registry.close.Closed where
  started := rfl
  frozen := rfl

structure Sound (registry : Registry σ) : Prop where
  paths : (registry.views.map (·.path)).Nodup
  noRoot : ∀ view ∈ registry.views, view.path ≠ Http.Path.root
  routable : ∀ view ∈ registry.views, Http.Path.isRoutable view.path = true
  names : (registry.tasks.map (·.name)).Nodup
  tasks : ∀ task ∈ registry.tasks, isTaskName task.name = true
  checks : registry.checks.names.Nodup
  frozen : registry.checks.frozen = registry.started

structure Distinct (registry : Registry σ) : Prop where
  paths : (registry.views.map (·.path)).Nodup
  noRoot : ∀ view ∈ registry.views, view.path ≠ "/"
  names : (registry.tasks.map (·.name)).Nodup
  segments : ∀ task ∈ registry.tasks, task.name ≠ "" ∧ '/' ∉ task.name.toList
  checks : (registry.checks.checks.map (·.name)).Nodup

theorem Sound.distinct {registry : Registry σ} (h : registry.Sound) : registry.Distinct where
  paths := h.paths
  noRoot := h.noRoot
  names := h.names
  segments := by
    intro task htask
    have hname := h.tasks task htask
    unfold isTaskName at hname
    simp only [Bool.and_eq_true, bne_iff_ne, Bool.not_eq_true'] at hname
    refine ⟨hname.1.1, ?_⟩
    simpa using hname.1.2
  checks := h.checks

theorem nodup_map_append_singleton {α β : Type} {f : α → β} {l : List α} {a : α} (h : (l.map f).Nodup)
    (hnew : f a ∉ l.map f) : ((l ++ [a]).map f).Nodup := by
  rw [List.map_append, List.map_cons, List.map_nil, ← List.concat_eq_append]
  exact h.concat hnew

theorem paths_new :
    (new : Registry σ).views.map (·.path) = ["/metrics", "/ping", "/runtime", "/healthcheck"] := by
  rfl

theorem names_new : (new : Registry σ).tasks.map (·.name) = ["gc", "log"] := by
  rfl

theorem sound_new : Sound (new : Registry σ) where
  paths := by
    rw [paths_new]
    decide
  noRoot := by
    rw [← List.forall_mem_map (f := View.path) (P := (· ≠ Http.Path.root)), paths_new]
    decide
  routable := by
    rw [← List.forall_mem_map (f := View.path) (P := (Http.Path.isRoutable · = true)), paths_new]
    decide
  names := by
    rw [names_new]
    decide
  tasks := by
    rw [← List.forall_mem_map (f := Task.name) (P := (isTaskName · = true)), names_new]
    decide
  checks := List.nodup_nil
  frozen := rfl

namespace Sound

variable {registry next : Registry σ}

theorem addView {view : View σ} (h : registry.Sound) (hadd : registry.addView view = .ok next) :
    next.Sound := by
  obtain ⟨⟨-, hroot, hpath, hnew⟩, rfl⟩ := addView_eq_ok_iff.mp hadd
  exact
    { h with
      paths := nodup_map_append_singleton h.paths hnew
      noRoot := List.forall_mem_append.mpr ⟨h.noRoot, List.forall_mem_singleton.mpr hroot⟩
      routable := List.forall_mem_append.mpr ⟨h.routable, List.forall_mem_singleton.mpr hpath⟩ }

theorem addTask {task : Task σ} (h : registry.Sound) (hadd : registry.addTask task = .ok next) :
    next.Sound := by
  obtain ⟨⟨-, hname, hnew⟩, rfl⟩ := addTask_eq_ok_iff.mp hadd
  exact
    { h with
      names := nodup_map_append_singleton h.names hnew
      tasks := List.forall_mem_append.mpr ⟨h.tasks, List.forall_mem_singleton.mpr hname⟩ }

theorem addCheck {check : Health.Check σ} (h : registry.Sound) (hadd : registry.addCheck check = .ok next) :
    next.Sound := by
  obtain ⟨⟨-, hnew⟩, rfl⟩ := addCheck_eq_ok_iff.mp hadd
  exact { h with checks := nodup_map_append_singleton h.checks hnew }

theorem close (h : registry.Sound) : registry.close.Sound :=
  { h with frozen := rfl }

end Sound

end ServiceHost.Admin.Registry
