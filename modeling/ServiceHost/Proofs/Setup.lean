import ServiceHost.Bootstrap
import ServiceHost.Proofs.Action

/-!
This module contains what runs of setup hooks come to: each hook finds what the ones before it have left,
and the first that does not succeed ends the run.
-/

namespace ServiceHost

variable {σ γ : Type}

namespace Setup

variable {part : World σ → γ}

theorem spares_manage (h : Action.Apart part fun _ => True) (object : Lifecycle.Managed σ)
    (environment : Environment σ) : Action.Spares part ((manage object).run environment) := by
  unfold manage
  dsimp only [StateT.run]
  split
  . exact Action.spares_pure _
  . apply Action.Spares.bind (h.log trivial)
    intro _
    exact Action.spares_pure _

theorem run_bind_ok {α β : Type} {step : Setup σ α} {next : α → Setup σ β} {a : α}
    {environment environment' : Environment σ} {world world' : World σ}
    (h : (step.run environment).exec world = (.ok (a, environment'), world')) :
    ((step >>= next).run environment).exec world = ((next a).run environment').exec world' := by
  rw [StateT.run_bind, Action.exec_bind_ok h]

theorem manage_exec {environment : Environment σ} (hopen : environment.objects.started = false)
    (object : Lifecycle.Managed σ) (world : World σ) :
    ((manage object).run environment).exec world
      =
    (.ok (.ok (),
        { environment with
          objects := { environment.objects with objects := environment.objects.objects ++ [object] } }),
      world.record ⟨.lifecycle, .debug, "Managed object registered", [("name", object.name)]⟩) := by
  have hadd : environment.objects.add? object
      = some { environment.objects with objects := environment.objects.objects ++ [object] } := by
    unfold Lifecycle.Objects.add?
    rw [if_neg (by simp [hopen])]
  simp only [manage, StateT.run, hadd]
  rfl

theorem reportMetrics_exec_of_zero {m : Config.Metrics} (hzero : m.frequency = 0) (environment : Environment σ)
    (world : World σ) : ((reportMetrics m).run environment).exec world = (.ok ((), environment), world) := by
  unfold reportMetrics
  rw [if_neg (fun hne => hne hzero)]
  rfl

theorem reportMetrics_exec_of_ne {m : Config.Metrics} (hne : m.frequency ≠ 0) {environment : Environment σ}
    (hopen : environment.objects.started = false) (world : World σ) :
    ((reportMetrics m).run environment).exec world
      =
    (.ok ((),
        { environment with
          objects := { environment.objects with
            objects := environment.objects.objects
              ++ [Metrics.Reporter.managed environment.objects.objects.length (m.frequency * 1000)] } }),
      world.record ⟨.lifecycle, .debug, "Managed object registered", [("name", "metrics-reporter")]⟩) := by
  unfold reportMetrics
  rw [if_pos hne]
  have hget : ((get : Setup σ (Environment σ)).run environment).exec world = (.ok (environment, environment), world) :=
    rfl
  exact (run_bind_ok hget).trans (run_bind_ok (manage_exec hopen _ world))

theorem spares_reportMetrics (h : Action.Apart part fun _ => True) (m : Config.Metrics)
    (environment : Environment σ) : Action.Spares part ((reportMetrics m).run environment) := by
  unfold reportMetrics
  dsimp only
  split
  . rw [StateT.run_bind, StateT.run_get, pure_bind, StateT.run_bind]
    apply Action.Spares.bind (spares_manage h _ _)
    intro managed
    split
    . rw [StateT.run_monadLift]
      apply Action.Spares.bind (h.log trivial)
      intro _
      exact Action.spares_pure _
    . exact Action.spares_pure _
  . exact Action.spares_pure _

end Setup

abbrev Site (σ : Type) := Environment σ × World σ

def Ends (c : Configuration) (hook : SetupHook σ) (site : Site σ) (result : Except String Unit)
    (site' : Site σ) : Prop :=
  ((hook c).run site.1).exec site.2 = (.ok (result, site'.1), site'.2)

inductive Succeed (c : Configuration) : List (SetupHook σ) → Site σ → Site σ → Prop where
  | nil (site : Site σ) : Succeed c [] site site
  | cons {hook : SetupHook σ} {hooks : List (SetupHook σ)} {first second third : Site σ} :
    Ends c hook first (.ok ()) second → Succeed c hooks second third → Succeed c (hook :: hooks) first third

/-- A hook does not succeed: its message is the error of the run, and its world is the last one. -/
inductive Breaks (c : Configuration) (hook : SetupHook σ) (site : Site σ) :
    Except Fault (Except RunError Unit) × World σ → Prop where
  | failed {message : String} {site' : Site σ} :
    Ends c hook site (.error message) site' → Breaks c hook site (.ok (.error (.setup message)), site'.2)
  | fault {fault : Fault} {world : World σ} :
    ((hook c).run site.1).exec site.2 = (.error fault, world) → Breaks c hook site (.error fault, world)

theorem ends_or_breaks (c : Configuration) (hook : SetupHook σ) (site : Site σ) :
    (∃ site', Ends c hook site (.ok ()) site')
      ∨
    ∃ outcome : Except Fault (Except RunError Unit) × World σ, Breaks c hook site outcome := by
  cases h : ((hook c).run site.1).exec site.2 with
  | mk result world =>
    cases result with
    | error fault => exact .inr ⟨_, .fault h⟩
    | ok left =>
      obtain ⟨result, environment⟩ := left
      cases result with
      | ok => exact .inl ⟨(environment, world), h⟩
      | error message =>
        have hends : Ends c hook site (.error message) (environment, world) := h
        exact .inr ⟨_, .failed hends⟩

theorem succeed_or_breaks (c : Configuration) (hooks : List (SetupHook σ)) (site : Site σ) :
    (∃ site', Succeed c hooks site site')
      ∨
    ∃ (before : List (SetupHook σ)) (hook : SetupHook σ) (after : List (SetupHook σ)) (site' : Site σ)
        (outcome : Except Fault (Except RunError Unit) × World σ),
      hooks = before ++ hook :: after ∧ Succeed c before site site' ∧ Breaks c hook site' outcome := by
  -- the first hook decides where the others start, or that there are no others
  induction hooks generalizing site with
  | nil => exact .inl ⟨site, .nil site⟩
  | cons hook hooks ih =>
    cases ends_or_breaks c hook site with
    | inr h =>
      obtain ⟨outcome, h⟩ := h
      exact .inr ⟨[], hook, hooks, site, outcome, rfl, .nil site, h⟩
    | inl h =>
      obtain ⟨site', h⟩ := h
      cases ih site' with
      | inl hrest =>
        obtain ⟨site'', hrest⟩ := hrest
        exact .inl ⟨site'', .cons h hrest⟩
      | inr hrest =>
        obtain ⟨before, other, after, site'', outcome, hhooks, hbefore, hother⟩ := hrest
        exact .inr ⟨hook :: before, other, after, site'', outcome, by rw [hhooks]; rfl, .cons h hbefore,
          hother⟩

namespace Launch

theorem runHooks_cons_of_ends {c : Configuration} {hook : SetupHook σ} {hooks : List (SetupHook σ)}
    {site site' : Site σ} (h : Ends c hook site (.ok ()) site') :
    ((runHooks c (hook :: hooks)).run site.1).exec site.2 = ((runHooks c hooks).run site'.1).exec site'.2 := by
  unfold runHooks
  rw [StateT.run_bind, Action.exec_bind_ok h]
  cases hooks <;> rfl

theorem runHooks_append {c : Configuration} {before : List (SetupHook σ)} {site site' : Site σ}
    (h : Succeed c before site site') (after : List (SetupHook σ)) :
    ((runHooks c (before ++ after)).run site.1).exec site.2
      =
    ((runHooks c after).run site'.1).exec site'.2 := by
  induction h with
  | nil => rfl
  | cons hfirst _ ih =>
    rw [List.cons_append, runHooks_cons_of_ends hfirst]
    exact ih

theorem runHooks_exec {c : Configuration} {hooks : List (SetupHook σ)} {site site' : Site σ}
    (h : Succeed c hooks site site') :
    ((runHooks c hooks).run site.1).exec site.2 = (.ok (.ok (), site'.1), site'.2) := by
  have hexec := runHooks_append h []
  rw [List.append_nil] at hexec
  exact hexec

theorem runHooks_of_breaks {c : Configuration} {before : List (SetupHook σ)} {hook : SetupHook σ}
    {site site' : Site σ} {outcome : Except Fault (Except RunError Unit) × World σ}
    (hbefore : Succeed c before site site') (hbreaks : Breaks c hook site' outcome)
    (after : List (SetupHook σ))
    (next : Except RunError Unit × Environment σ → Action σ (Except RunError Unit))
    (hnext : ∀ e environment, next (.error e, environment) = pure (.error e)) :
    ((runHooks c (before ++ hook :: after)).run site.1 >>= next).exec site.2 = outcome := by
  -- the hooks before it only lead to the site where it breaks
  rw [Action.exec_bind, runHooks_append hbefore]
  unfold runHooks
  rw [StateT.run_bind]
  cases hbreaks with
  | failed h =>
    rw [Action.exec_bind_ok h]
    show (next (.error (.setup _), _)).exec _ = _
    rw [hnext, Action.exec_pure]
  | fault h => rw [Action.exec_bind_error h]

theorem runHooks_exec_iff {c : Configuration} {hooks : List (SetupHook σ)} {site site' : Site σ} :
    ((runHooks c hooks).run site.1).exec site.2 = (.ok (.ok (), site'.1), site'.2)
      ↔
    Succeed c hooks site site' := by
  constructor
  . intro hexec
    cases succeed_or_breaks c hooks site with
    | inl h =>
      obtain ⟨last, h⟩ := h
      have hlast : last = site' := by
        rw [runHooks_exec h] at hexec
        simp only [Prod.mk.injEq, Except.ok.injEq, true_and] at hexec
        exact Prod.ext hexec.1 hexec.2
      exact hlast ▸ h
    | inr h =>
      -- the end of a run that breaks off is no success
      obtain ⟨before, hook, after, last, outcome, rfl, hbefore, hbreaks⟩ := h
      have houtcome := runHooks_of_breaks hbefore hbreaks after (fun left => pure left.1) fun _ _ => rfl
      rw [Action.exec_bind_ok hexec, Action.exec_pure] at houtcome
      subst houtcome
      cases hbreaks
  . exact runHooks_exec

end Launch

def writes (name : String) : Action (List String) Unit :=
  Action.change fun world => { world with state := world.state ++ [name] }

def tells (name : String) (result : Except String Unit) : SetupHook (List String) := fun _ environment => do
  writes name
  return (result, environment)

end ServiceHost
