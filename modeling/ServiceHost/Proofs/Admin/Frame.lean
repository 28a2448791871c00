import ServiceHost.Proofs.Admin.Answers

/-!
This module contains which parts of the world the requests to the admin side leave as they are: those that are
neither logs nor levels nor tickers, as long as the code that was registered leaves them alone, too. What every
service has keeps them anyway.
-/

namespace ServiceHost

variable {σ γ : Type} {part : World σ → γ}

open Http (Endpoint Router)

/-- The pages of the admin side have nothing to do with a part of the world but what their own code does. -/
structure Action.Background (part : World σ → γ) : Prop extends Action.Aside part fun _ => True where
  tickers : ∀ tickers world, part { world with tickers } = part world
  purge : ∀ world, part { world with host := world.host.purged } = part world

namespace Health

def Quiet (part : World σ → γ) (checks : List (Check σ)) : Prop :=
  ∀ check ∈ checks, ∀ world, part (check.probe.run world).2 = part world

theorem part_complete {checks : List (Check σ)} (h : Quiet part checks) (frozen : Bool) (world : World σ) :
    part ((Registry.complete ⟨checks, frozen⟩).run world).2 = part world := by
  induction checks generalizing world with
  | nil => rfl
  | cons check checks ih =>
    obtain ⟨hcheck, hchecks⟩ := List.forall_mem_cons.mp h
    rw [complete_cons]
    exact (ih hchecks _).trans (hcheck world)

theorem keeps_run (h : Action.Background part) {registry : Registry σ} (hquiet : Quiet part registry.checks) :
    Action.Keeps part registry.run := by
  have hcomplete : Action.Keeps part (liftM registry.complete : Action σ _) :=
    part_complete hquiet registry.frozen
  unfold Registry.run
  apply hcomplete.bind
  intro completions
  have hreport (some : List (String × Completion)) : Action.Keeps part (Registry.reportPanics some) :=
    (spares_reportPanics h.toUnlogged trivial some).keeps
  have hgive : Action.Keeps part Action.giveWay := (Action.spares_giveWay h.toUnlogged trivial h.tickers).keeps
  have hend (stalled : Bool) (results : Keyed Result) : Action.Keeps part (do
      if stalled then
        Action.fail .stalled
      return results : Action σ (Keyed Result)) := by
    dsimp only
    split
    . exact (Action.keeps_fail .stalled).bind fun _ => Action.keeps_pure _
    . exact Action.keeps_pure _
  dsimp only
  apply (hreport _).bind
  intro _
  split
  . apply hgive.bind
    intro _
    exact (hreport _).bind fun _ => hend _ _
  . exact (hreport _).bind fun _ => hend _ _

end Health

namespace Admin

namespace Task

theorem gc_exec (params : Params) (world : World σ) :
    (gc.execute params).exec world
      =
    if world.host.allocator.purgeCode = 0 then
      (.ok (.ok "Running GC...\nDone!\n"), { world with host := world.host.purged })
    else
      (.ok (.error (.internal ("Running GC...\n" ++
        Allocator.refusal ("purge failed with code " ++ toString world.host.allocator.purgeCode) ++ "\n"))),
        world) := by
  unfold gc
  rw [Action.exec_bind_ok (Action.exec_get world)]
  dsimp only
  split
  . rw [Action.exec_bind_ok (Action.exec_change _ world), Action.exec_pure]
  . rw [Action.exec_pure]

theorem spares_gc (h : Action.Background part) (params : Params) : Action.Spares part (gc.execute params) := by
  intro world
  rw [gc_exec]
  split
  . exact ⟨_, _, rfl, h.purge world⟩
  . exact ⟨_, _, rfl, rfl⟩

theorem spares_setLevels (h : Action.Background part) (level : Log.Level) (loggers : List String) :
    Action.Spares part (setLevels level loggers) := by
  induction loggers with
  | nil => exact Action.spares_pure ()
  | cons logger loggers ih =>
    unfold setLevels
    apply Action.Spares.bind (h.setLevel trivial logger level)
    intro accepted
    split
    . apply Action.Spares.bind (h.log trivial)
      intro _
      exact ih
    . exact ih

theorem spares_changeLevels (h : Action.Background part) (loggers : List String) (text : Option String) :
    Action.Spares part (changeLevels loggers text) := by
  unfold changeLevels
  split
  . exact Action.spares_pure _
  . split
    . exact Action.spares_pure _
    . split
      . exact Action.spares_pure _
      . apply Action.Spares.bind (spares_setLevels h _ loggers)
        intro _
        exact Action.spares_pure _

theorem spares_log (h : Action.Background part) (params : Params) :
    Action.Spares part ((log : Task σ).execute params) := by
  unfold log
  dsimp only
  split
  . exact Action.spares_pure _
  . apply Action.Spares.bind (spares_changeLevels h _ _)
    intro changed
    split
    . exact Action.spares_pure _
    . apply Action.Spares.bind Action.spares_get
      intro world
      exact Action.spares_pure _

end Task

def View.figures : List (View σ) :=
  [metrics, runtime]

theorem View.keeps_figures {view : View σ} (hview : view ∈ figures) (checks : Health.Registry σ)
    (request : Http.Request) : Action.Keeps part (view.serve checks request) := by
  simp only [figures, List.mem_cons, List.not_mem_nil, or_false] at hview
  obtain rfl | rfl := hview
  . have hjson : Action.Keeps part Action.metricsJson := by
      intro world
      rw [Action.metricsJson_exec]
    exact hjson.bind fun _ => Action.keeps_pure _
  . exact Action.spares_get.keeps.bind fun _ => Action.keeps_pure _

theorem View.keeps_builtIn (h : Action.Background part) {checks : Health.Registry σ}
    (hquiet : Health.Quiet part checks.checks) {view : View σ} (hview : view ∈ View.builtIn)
    (request : Http.Request) : Action.Keeps part (view.serve checks request) := by
  simp only [View.builtIn, List.mem_cons, List.not_mem_nil, or_false] at hview
  obtain rfl | rfl | rfl | rfl := hview
  . exact keeps_figures List.mem_cons_self checks request
  . exact Action.keeps_pure _
  . exact keeps_figures (List.mem_cons_of_mem _ List.mem_cons_self) checks request
  . exact (Health.keeps_run h hquiet).bind fun _ => Action.keeps_pure _

theorem Task.keeps_respond (h : Action.Background part) {task : Task σ}
    (htask : ∀ params, Action.Keeps part (task.execute params)) (request : Http.Request) :
    Action.Keeps part (task.respond request) := by
  unfold respond
  apply (htask _).bind
  intro result
  split
  . exact Action.keeps_pure _
  . exact (h.log trivial).keeps.bind fun _ => Action.keeps_pure _

theorem Task.keeps_endpoint (h : Action.Background part) {task : Task σ}
    (htask : ∀ params, Action.Keeps part (task.execute params)) (request : Http.Request) :
    Action.Keeps part (Registry.taskEndpoint task request) := by
  have hpanicked : Action.Keeps part task.panicked :=
    (h.log trivial).keeps.bind fun _ => Action.keeps_pure _
  exact ((task.keeps_respond h htask request).recover hpanicked).bind fun _ => Action.keeps_pure _

structure Registry.Leaves (part : World σ → γ) (registry : Registry σ) : Prop where
  views : ∀ view ∈ registry.views, view ∈ View.builtIn
    ∨ ∀ request, Action.Keeps part (view.serve registry.checks request)
  tasks : ∀ task ∈ registry.tasks, task ∈ [Task.gc, Task.log] ∨ ∀ params, Action.Keeps part (task.execute params)
  checks : Health.Quiet part registry.checks.checks

namespace Registry

variable {registry : Registry σ}

theorem Leaves.keeps_execute (h : registry.Leaves part) (hpart : Action.Background part) {task : Task σ}
    (htask : task ∈ registry.tasks) (params : Params) : Action.Keeps part (task.execute params) := by
  cases h.tasks task htask with
  | inl hbuiltIn =>
    simp only [List.mem_cons, List.not_mem_nil, or_false] at hbuiltIn
    obtain rfl | rfl := hbuiltIn
    . exact (Task.spares_gc hpart params).keeps
    . exact (Task.spares_log hpart params).keeps
  | inr hown => exact hown params

theorem Leaves.keeps_serve (h : registry.Leaves part) (hpart : Action.Background part) {view : View σ}
    (hview : view ∈ registry.views) (request : Http.Request) :
    Action.Keeps part (view.serve registry.checks request) := by
  cases h.views view hview with
  | inl hbuiltIn => exact View.keeps_builtIn hpart h.checks hbuiltIn request
  | inr hown => exact hown request

theorem Leaves.keeps_endpoint (h : registry.Leaves part) (hpart : Action.Background part) {context : String}
    {endpoint : Endpoint σ} (hserves : registry.Serves context endpoint) (request : Http.Request) :
    Action.Keeps part (endpoint request) := by
  cases hserves with
  | index => exact Action.keeps_pure _
  | page hview => exact (h.keeps_serve hpart hview request).bind fun _ => Action.keeps_pure _
  | task htask => exact Task.keeps_endpoint hpart (h.keeps_execute hpart htask) request

end Registry
end Admin

theorem Http.Router.keeps_serve {router : Router (Endpoint σ)} {request : Request}
    (h : ∀ endpoint, router.Takes request endpoint → ∀ request, Action.Keeps part (endpoint request)) :
    Action.Keeps part (router.serve request) := by
  by_cases htakes : ∃ endpoint, router.Takes request endpoint
  . obtain ⟨endpoint, htakes⟩ := htakes
    rw [Router.serve_of_takes htakes]
    exact (h endpoint htakes _).bind fun _ => Action.keeps_pure _
  . obtain ⟨response, hserve⟩ := Router.serve_of_not_takes (not_exists.mp htakes)
    rw [hserve]
    exact Action.keeps_pure response

end ServiceHost
