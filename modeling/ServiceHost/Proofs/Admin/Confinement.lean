import ServiceHost.Proofs.Admin.Frame
import ServiceHost.Proofs.Admin.LogTask
import ServiceHost.Proofs.Confinement

/-!
This module contains what the requests to the admin side have to do with: the log levels, and whatever the code
that was registered has to do with. Two pages are different: they show the figures of the whole service, but they
only look at the world.
-/

namespace ServiceHost

variable {σ γ : Type} {part : World σ → γ}

open Http (Endpoint)

structure Action.Unwatched (part : World σ → γ) : Prop extends Action.Unlogged part fun _ => True where
  tickers : ∀ tickers world, part { world with tickers } = part world

def settings (mine : World σ → γ) (world : World σ) : Log.Levels × Allocator × γ :=
  (world.levels, world.host.allocator, mine world)

theorem background_allocator {mine : World σ → γ} (h : Action.Background mine) :
    Action.Background fun world => (world.host.allocator, mine world) where
  record event world _ := congrArg (Prod.mk world.host.allocator) (h.record event world trivial)
  levels levels filter wiring world := congrArg (Prod.mk world.host.allocator) (h.levels levels filter wiring world)
  tickers tickers world := congrArg (Prod.mk world.host.allocator) (h.tickers tickers world)
  purge world := congrArg (Prod.mk world.host.allocator) (h.purge world)

theorem unwatched_settings {mine : World σ → γ} (h : Action.Background mine) :
    Action.Unwatched (settings mine) where
  record event world _ := congrArg (Prod.mk world.levels) ((background_allocator h).record event world trivial)
  tickers tickers world := congrArg (Prod.mk world.levels) ((background_allocator h).tickers tickers world)

namespace Health

def Secluded (part : World σ → γ) (checks : List (Check σ)) : Prop :=
  ∀ check ∈ checks, Action.Confined part (liftM check.probe : Action σ Completion)

theorem liftM_complete_cons (check : Check σ) (checks : List (Check σ)) (frozen : Bool) :
    (liftM (Registry.complete ⟨check :: checks, frozen⟩) : Action σ (List (String × Completion)))
      =
    (do
      let c ← (liftM check.probe : Action σ Completion)
      let rest ← (liftM (Registry.complete ⟨checks, frozen⟩) : Action σ (List (String × Completion)))
      return (check.name, c) :: rest) := by
  unfold Registry.complete
  rw [List.mapM_cons]
  rfl

theorem confined_complete {checks : List (Check σ)} (h : Secluded part checks) (frozen : Bool) :
    Action.Confined part (liftM (Registry.complete ⟨checks, frozen⟩) : Action σ (List (String × Completion))) := by
  induction checks with
  | nil => exact Action.confined_pure []
  | cons check checks ih =>
    obtain ⟨hcheck, hchecks⟩ := List.forall_mem_cons.mp h
    rw [liftM_complete_cons]
    apply hcheck.bind
    intro c
    exact (ih hchecks).bind fun _ => Action.confined_pure _

theorem confined_run (h : Action.Unwatched part) {registry : Registry σ}
    (hsecluded : Secluded part registry.checks) : Action.Confined part registry.run := by
  unfold Registry.run
  apply (confined_complete hsecluded registry.frozen).bind
  intro completions
  have hreport (some : List (String × Completion)) : Action.Confined part (Registry.reportPanics some) :=
    (spares_reportPanics h.toUnlogged trivial some).confined
  have hgive : Action.Confined part Action.giveWay :=
    (Action.spares_giveWay h.toUnlogged trivial h.tickers).confined
  have hend (stalled : Bool) (results : Keyed Result) : Action.Confined part (do
      if stalled then
        Action.fail .stalled
      return results : Action σ (Keyed Result)) := by
    dsimp only
    split
    . exact (Action.confined_fail .stalled).bind fun _ => Action.confined_pure _
    . exact Action.confined_pure _
  dsimp only
  apply (hreport _).bind
  intro _
  split
  . apply hgive.bind
    intro _
    exact (hreport _).bind fun _ => hend _ _
  . exact (hreport _).bind fun _ => hend _ _

end Health

namespace Admin

theorem Task.confined_gc {mine : World σ → γ} (h : Action.Background mine) (params : Params) :
    Action.Confined (settings mine) (gc.execute params) := by
  intro world world' hsettings
  have hafter : settings mine { world with host := world.host.purged }
      = settings mine { world' with host := world'.host.purged } := by
    unfold settings at hsettings ⊢
    rw [h.purge, h.purge]
    exact hsettings
  have hallocator : world.host.allocator = world'.host.allocator := congrArg (·.2.1) hsettings
  rw [gc_exec, gc_exec, hallocator]
  split
  . exact ⟨rfl, hafter⟩
  . exact ⟨rfl, hsettings⟩

theorem Task.confined_log (params : Params) : Action.Confined World.levels ((log : Task σ).execute params) := by
  intro world world' hlevels
  by_cases hloggers : params.all "logger" = []
  . rw [log_exec_of_nil hloggers, log_exec_of_nil hloggers]
    exact ⟨rfl, hlevels⟩
  . rcases level_cases params with hsilent | ⟨text, hlevel, hempty, hunknown | ⟨level, hnames⟩⟩
    . rw [log_exec_of_silent hloggers hsilent, log_exec_of_silent hloggers hsilent]
      refine ⟨?_, hlevels⟩
      rw [hlevels]
    . rw [log_exec_of_unknown hloggers hlevel hempty hunknown, log_exec_of_unknown hloggers hlevel hempty hunknown]
      exact ⟨rfl, hlevels⟩
    . -- who takes the level and what is left in the end is the same, as both start with the same levels
      obtain ⟨takers, last, hsets⟩ := Log.Levels.exists_sets level world.levels (params.all "logger")
      obtain ⟨after, hexec, hlast⟩ := log_exec_of_level hloggers hlevel hnames hsets
      rw [hlevels] at hsets
      obtain ⟨after', hexec', hlast'⟩ := log_exec_of_level hloggers hlevel hnames hsets
      rw [hexec, hexec', hlast, hlast']
      exact ⟨rfl, rfl⟩

theorem Task.confined_respond (h : Action.Unwatched part) {task : Task σ}
    (htask : ∀ params, Action.Confined part (task.execute params)) (request : Http.Request) :
    Action.Confined part (task.respond request) := by
  unfold respond
  apply (htask _).bind
  intro result
  split
  . exact Action.confined_pure _
  . exact (h.log trivial).confined.bind fun _ => Action.confined_pure _

namespace View

theorem confined_builtIn (h : Action.Unwatched part) {checks : Health.Registry σ}
    (hsecluded : Health.Secluded part checks.checks) {view : View σ} (hview : view ∈ builtIn)
    (hfigures : view ∉ figures) (request : Http.Request) : Action.Confined part (view.serve checks request) := by
  simp only [builtIn, List.mem_cons, List.not_mem_nil, or_false] at hview
  obtain rfl | rfl | rfl | rfl := hview
  . exact absurd List.mem_cons_self hfigures
  . exact Action.confined_pure _
  . exact absurd (List.mem_cons_of_mem _ List.mem_cons_self) hfigures
  . exact (Health.confined_run h hsecluded).bind fun _ => Action.confined_pure _

end View

/-- The code that was registered with an admin side has to do with nothing but a part of the world. -/
structure Registry.Secluded (part : World σ → γ) (registry : Registry σ) : Prop where
  views : ∀ view ∈ registry.views, view ∈ View.builtIn
    ∨ ∀ request, Action.Confined part (view.serve registry.checks request)
  tasks : ∀ task ∈ registry.tasks, task ∈ [Task.gc, Task.log] ∨ ∀ params, Action.Confined part (task.execute params)
  checks : Health.Secluded part registry.checks.checks

namespace Registry.Secluded

variable {registry : Registry σ} {mine : World σ → γ}

theorem confined_execute (h : registry.Secluded (settings mine)) (hmine : Action.Background mine) {task : Task σ}
    (htask : task ∈ registry.tasks) (params : Params) : Action.Confined (settings mine) (task.execute params) := by
  cases h.tasks task htask with
  | inl hbuiltIn =>
    simp only [List.mem_cons, List.not_mem_nil, or_false] at hbuiltIn
    obtain rfl | rfl := hbuiltIn
    . exact Task.confined_gc hmine params
    . exact (Task.confined_log params).prod (Task.spares_log (background_allocator hmine) params).keeps
  | inr hown => exact hown params

theorem endpoint_cases (h : registry.Secluded (settings mine)) (hmine : Action.Background mine) {context : String}
    {endpoint : Endpoint σ} (hserves : registry.Serves context endpoint) :
    (∃ view ∈ View.figures,
      endpoint = registry.viewEndpoint view ∧ ∀ request, Action.Keeps (settings mine) (endpoint request))
      ∨
    ∀ request, Action.Confined (settings mine) (endpoint request) := by
  have hunwatched := unwatched_settings hmine
  cases hserves with
  | index => exact .inr fun _ => Action.confined_pure _
  | @page view hview =>
    by_cases hfigures : view ∈ View.figures
    . refine .inl ⟨view, hfigures, rfl, ?_⟩
      intro request
      exact (View.keeps_figures hfigures _ _).bind fun _ => Action.keeps_pure _
    . refine .inr fun request => ?_
      have hserve : Action.Confined (settings mine) (view.serve registry.checks request) := by
        cases h.views view hview with
        | inl hbuiltIn => exact View.confined_builtIn hunwatched h.checks hbuiltIn hfigures request
        | inr hown => exact hown request
      exact hserve.bind fun _ => Action.confined_pure _
  | @task task htask =>
    refine .inr fun request => ?_
    have hpanicked : Action.Confined (settings mine) task.panicked :=
      (hunwatched.log trivial).confined.bind fun _ => Action.confined_pure _
    have hrespond := task.confined_respond hunwatched (h.confined_execute hmine htask) request
    exact (hrespond.recover hpanicked).bind fun _ => Action.confined_pure _

end Registry.Secluded
end Admin
end ServiceHost
