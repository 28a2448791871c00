import Mathlib.Data.List.Induction
import ServiceHost.Proofs.Metrics.Running
import ServiceHost.Proofs.Setup

/-!
This module contains which snapshots a reporter logs over a whole history, in which it is started and stopped again,
time passes, and the metrics change.
-/

namespace ServiceHost

variable {σ : Type}

namespace Metrics.Reporter

def Step.runs (before : Bool) : Step σ → Bool
  | .start => true
  | .stop => false
  | .pass _ | .giveWay | .become .. => before

def running (steps : List (Step σ)) : Bool :=
  steps.foldl Step.runs false

/-- No reporter is started that runs already. -/
def Orderly (steps : List (Step σ)) : Prop :=
  ∀ before rest, steps = before ++ .start :: rest → running before = false

def after (reporters : List (Lifecycle.Managed σ)) (first : World σ) (steps : List (Step σ)) : World σ :=
  steps.foldl (fun world step => ((step.act reporters).exec world).2) first

def AlwaysReadable (first : World σ) (steps : List (Step σ)) : Prop :=
  Readable first.metrics first.state ∧ ∀ metrics state, .become metrics state ∈ steps → Readable metrics state

section Histories

variable {id period : Nat} {reporters : List (Lifecycle.Managed σ)} {first : World σ} {steps : List (Step σ)}

theorem after_concat (steps : List (Step σ)) (step : Step σ) :
    after reporters first (steps ++ [step]) = ((step.act reporters).exec (after reporters first steps)).2 := by
  unfold after
  rw [List.foldl_append]
  rfl

theorem running_concat (steps : List (Step σ)) (step : Step σ) :
    running (steps ++ [step]) = step.runs (running steps) := by
  unfold running
  rw [List.foldl_append]
  rfl

theorem Orderly.front {rest : List (Step σ)} (h : Orderly (steps ++ rest)) : Orderly steps := by
  rintro before between rfl
  exact h before (between ++ rest) (by simp)

theorem AlwaysReadable.front {rest : List (Step σ)} (h : AlwaysReadable first (steps ++ rest)) :
    AlwaysReadable first steps :=
  ⟨h.1, fun metrics state hmem => h.2 metrics state (List.mem_append_left rest hmem)⟩

theorem clock_after (hreporters : AllReporters reporters) (first : World σ) (steps : List (Step σ)) :
    (after reporters first steps).clock = first.clock + (steps.map Step.duration).sum := by
  induction steps using List.reverseRecOn with
  | nil => rfl
  | append_singleton steps step ih =>
    rw [after_concat, clock_act hreporters, ih, List.map_append, List.sum_append, List.map_singleton,
      List.sum_singleton, Nat.add_assoc]

theorem forM_exec (hreporters : AllReporters reporters) (steps : List (Step σ)) (first : World σ) :
    (steps.forM (Step.act reporters)).exec first = (.ok (), after reporters first steps) := by
  induction steps generalizing first with
  | nil => rfl
  | cons step steps ih =>
    have hunlogged : Action.Unlogged (fun _ : World σ => ()) fun _ => True := ⟨fun _ _ _ => rfl⟩
    have hspares : Action.Spares (fun _ : World σ => ()) (step.act reporters) :=
      spares_act (fun _ _ => rfl) hreporters hunlogged (fun _ _ => rfl) fun _ _ _ _ => rfl
    obtain ⟨_, next, hexec, -⟩ := hspares first
    rw [List.forM_eq_forM, List.forM_cons, Action.exec_bind_ok hexec]
    refine (ih next).trans ?_
    unfold after
    rw [List.foldl_cons, hexec]

def sources (world : World σ) : Registry σ × σ :=
  (world.metrics, world.state)

theorem readable_after (hreporters : AllReporters reporters) (h : AlwaysReadable first steps) :
    Readable (after reporters first steps).metrics (after reporters first steps).state := by
  induction steps using List.reverseRecOn with
  | nil => exact h.1
  | append_singleton steps step ih =>
    rw [after_concat]
    by_cases hbecome : ∃ metrics state, step = .become metrics state
    . obtain ⟨metrics, state, rfl⟩ := hbecome
      exact h.2 metrics state (List.mem_append_right _ List.mem_cons_self)
    . have hunlogged : Action.Unlogged (sources (σ := σ)) fun _ => True := ⟨fun _ _ _ => rfl⟩
      have hspares : Action.Spares sources (step.act reporters) :=
        spares_act (fun _ _ => rfl) hreporters hunlogged (fun _ _ => rfl)
          fun metrics state heq => absurd ⟨metrics, state, heq⟩ hbecome
      obtain ⟨hmetrics, hstate⟩ := Prod.mk.inj (hspares.keeps (after reporters first steps))
      rw [hmetrics, hstate]
      exact ih h.front

theorem Step.runs_of_isQuiet {step : Step σ} (h : step.IsQuiet) (before : Bool) : step.runs before = before := by
  cases step with
  | pass | giveWay | become => rfl
  | start | stop => exact False.elim h

theorem ticks_or_idle (hperiod : 0 < period) (hfirst : first.tickers = []) (horderly : Orderly steps)
    (hreadable : AlwaysReadable first steps) :
    (running steps = true ∧ ∃ start bound, Ticks id start period bound (after [managed id period] first steps))
      ∨
    (running steps = false ∧ (after [managed id period] first steps).tickers = []) := by
  induction steps using List.reverseRecOn with
  | nil => exact .inr ⟨rfl, hfirst⟩
  | append_singleton steps step ih =>
    have hread := readable_after (allReporters_singleton id period) hreadable.front
    rw [running_concat, after_concat]
    by_cases hquiet : step.IsQuiet
    . rw [Step.runs_of_isQuiet hquiet]
      obtain ⟨hruns, start, bound, hticks⟩ | ⟨hruns, hidle⟩ := ih horderly.front hreadable.front
      . obtain ⟨next, late, hexec, hnext, -⟩ := hticks.act hperiod hread hquiet [managed id period]
        rw [hexec]
        exact .inl ⟨hruns, start, late, hnext⟩
      . have hstep : step ≠ .start := by
          rintro rfl
          exact hquiet
        obtain ⟨next, hexec, hnext, -⟩ := act_of_nil (allReporters_singleton id period) hidle (.inl hstep)
        rw [hexec]
        exact .inr ⟨hruns, hnext⟩
    . cases step with
      | pass | giveWay | become => exact absurd trivial hquiet
      | start =>
        -- a reporter is started only where none runs
        obtain ⟨hruns, -⟩ | ⟨-, hidle⟩ := ih horderly.front hreadable.front
        . exact absurd (horderly steps [] rfl) (by simp [hruns])
        . obtain ⟨next, hexec, hnext, -⟩ := act_start id period hidle
          rw [hexec]
          exact .inl ⟨rfl, _, _, hnext⟩
      | stop =>
        obtain ⟨-, start, bound, hticks⟩ | ⟨-, hidle⟩ := ih horderly.front hreadable.front
        . obtain ⟨next, hexec, hnext, -⟩ := hticks.act_stop
          rw [hexec]
          exact .inr ⟨rfl, hnext⟩
        . rw [act_stop_of_nil (allReporters_singleton id period) hidle]
          exact .inr ⟨rfl, hidle⟩

/-- In a history, a snapshot shows the metrics as they are at a time. -/
def Shows (reporters : List (Lifecycle.Managed σ)) (first : World σ) (steps : List (Step σ)) (time : Nat)
    (text : String) : Prop :=
  ∃ before step rest,
    steps = before ++ step :: rest
      ∧
    GoesOnAt time (after reporters first before) (after reporters first (before ++ [step]))
      ∧
    (after reporters first before).metrics.render (after reporters first before).state = .ok text

theorem Shows.append {reporters : List (Lifecycle.Managed σ)} {time : Nat} {text : String}
    (h : Shows reporters first steps time text) (rest : List (Step σ)) :
    Shows reporters first (steps ++ rest) time text := by
  obtain ⟨before, step, between, rfl, hgoes, hrender⟩ := h
  exact ⟨before, step, between ++ rest, by simp, hgoes, hrender⟩

theorem logged_since_start (hperiod : 0 < period) {before during : List (Step σ)}
    (hidle : (after [managed id period] first before).tickers = []) (hquiet : ∀ step ∈ during, step.IsQuiet)
    (hreadable : AlwaysReadable first (before ++ .start :: during)) :
    ∃ bound texts,
      Ticks id (after [managed id period] first before).clock period bound
          (after [managed id period] first (before ++ .start :: during))
        ∧
      logged (after [managed id period] first (before ++ .start :: during))
        =
      logged (after [managed id period] first before) ++ texts
        ∧
      List.Forall₂ (Shows [managed id period] first (before ++ .start :: during))
        (moments (after [managed id period] first before).clock period bound) texts := by
  induction during using List.reverseRecOn with
  | nil =>
    obtain ⟨next, hexec, hticks, hlogged⟩ := act_start id period hidle
    rw [after_concat, hexec]
    refine ⟨_, [], hticks, by rw [hlogged, List.append_nil], ?_⟩
    rw [moments_of_le (Nat.le_refl _)]
    exact .nil
  | append_singleton during step ih =>
    rw [← List.cons_append, ← List.append_assoc] at hreadable ⊢
    obtain ⟨hduring, hstep⟩ := List.forall_mem_append.mp hquiet
    obtain ⟨bound, texts, hticks, hlogged, hshows⟩ := ih hduring hreadable.front
    have hread := readable_after (allReporters_singleton id period) hreadable.front
    obtain ⟨next, late, hexec, hnext, news, newTexts, hmoments, hnew, hshown⟩ :=
      hticks.act hperiod hread (List.forall_mem_singleton.mp hstep) [managed id period]
    have hafter : after [managed id period] first (before ++ .start :: during ++ [step]) = next := by
      rw [after_concat, hexec]
    rw [hafter]
    refine ⟨late, texts ++ newTexts, hnext, ?_, ?_⟩
    . rw [hnew, hlogged, List.append_assoc]
    . rw [hmoments]
      apply List.rel_append (hshows.imp fun _ _ h => h.append [step])
      apply hshown.imp
      rintro time text ⟨hgoes, hrender⟩
      exact ⟨_, step, [], rfl, hafter ▸ hgoes, hrender⟩

theorem logged_of_idle (hreporters : AllReporters reporters) {before still : List (Step σ)}
    (hidle : (after reporters first before).tickers = []) (hstill : ∀ step ∈ still, step ≠ .start ∨ reporters = []) :
    (after reporters first (before ++ still)).tickers = []
      ∧
    logged (after reporters first (before ++ still)) = logged (after reporters first before) := by
  induction still using List.reverseRecOn with
  | nil =>
    rw [List.append_nil]
    exact ⟨hidle, rfl⟩
  | append_singleton still step ih =>
    obtain ⟨hfront, hstep⟩ := List.forall_mem_append.mp hstill
    obtain ⟨hnone, hlogged⟩ := ih hfront
    obtain ⟨next, hexec, hnext, hsame⟩ := act_of_nil hreporters hnone (hstep step List.mem_cons_self)
    rw [← List.append_assoc, after_concat, hexec]
    exact ⟨hnext, hsame.trans hlogged⟩

/-- Over a history, a reporter logs its snapshots at its moments, as long as it runs, and at no other time. -/
structure Reports (period : Nat) (reporters : List (Lifecycle.Managed σ)) (first : World σ) (steps : List (Step σ)) :
    Prop where
  meanwhile : ∀ before during rest, steps = before ++ .start :: during ++ rest → (∀ step ∈ during, step.IsQuiet) →
    let started := after reporters first before
    let now := after reporters first (before ++ .start :: during)
    ∃ bound texts,
      (bound = now.clock ∨ bound = now.clock + 1)
        ∧
      logged now = logged started ++ texts
        ∧
      List.Forall₂ (Shows reporters first steps) (moments started.clock period bound) texts
  between : ∀ before during rest, steps = before ++ .start :: during ++ .stop :: rest →
    (∀ step ∈ during, step.IsQuiet) →
    let started := after reporters first before
    let stopped := after reporters first (before ++ .start :: during ++ [.stop])
    (∀ k, stopped.clock ≠ started.clock + (k + 1) * period) →
      ∃ texts,
        logged stopped = logged started ++ texts
          ∧
        List.Forall₂ (Shows reporters first steps) (moments started.clock period stopped.clock) texts
  idle : ∀ before still rest, steps = before ++ still ++ rest → running before = false → .start ∉ still →
    logged (after reporters first (before ++ still)) = logged (after reporters first before)
  stop : ∀ before rest, steps = before ++ .stop :: rest → running before = false →
    after reporters first (before ++ [.stop]) = after reporters first before

theorem moments_succ_of_ne (hperiod : 0 < period) {start stop : Nat} (h : ∀ k, stop ≠ start + (k + 1) * period) :
    moments start period (stop + 1) = moments start period stop := by
  have hnone : stop ∉ moments start period (stop + 1) := by
    rw [mem_moments_iff hperiod]
    rintro ⟨-, k, hk⟩
    exact h k hk
  rw [moments_succ] at hnone ⊢
  split at hnone
  . exact absurd (List.mem_append_right _ List.mem_cons_self) hnone
  . next hcond => rw [if_neg hcond, List.append_nil]

theorem reports (hperiod : 0 < period) (id : Nat) (hfirst : first.tickers = []) (horderly : Orderly steps)
    (hreadable : AlwaysReadable first steps) : Reports period [managed id period] first steps := by
  have hidle {before rest : List (Step σ)} (hsteps : steps = before ++ rest) (hruns : running before = false) :
      (after [managed id period] first before).tickers = [] := by
    subst hsteps
    obtain ⟨hruns', -⟩ | ⟨-, hidle⟩ := ticks_or_idle hperiod hfirst horderly.front hreadable.front
    . exact absurd (hruns'.symm.trans hruns) Bool.noConfusion
    . exact hidle
  have hrun {before during rest : List (Step σ)} (hsteps : steps = before ++ .start :: during ++ rest)
      (hquiet : ∀ step ∈ during, step.IsQuiet) := by
    have hsteps' : steps = before ++ .start :: (during ++ rest) := by
      rw [hsteps, List.append_assoc, List.cons_append]
    rw [hsteps] at hreadable
    exact logged_since_start hperiod (hidle hsteps' (horderly before _ hsteps')) hquiet hreadable.front
  constructor
  case meanwhile =>
    intro before during rest hsteps hquiet
    obtain ⟨bound, texts, hticks, hlogged, hshows⟩ := hrun hsteps hquiet
    have hle := hticks.clock_le
    have hge := hticks.le_clock
    refine ⟨bound, texts, by omega, hlogged, ?_⟩
    rw [hsteps]
    exact hshows.imp fun _ _ h => h.append rest
  case between =>
    intro before during rest hsteps hquiet started stopped hbetween
    obtain ⟨bound, texts, hticks, hlogged, hshows⟩ := hrun hsteps hquiet
    obtain ⟨next, hexec, -, hclock, hsame⟩ := hticks.act_stop
    have hstopped : stopped = next := by
      show after _ _ _ = next
      rw [after_concat, hexec]
    rw [hstopped, hclock] at hbetween
    rw [hstopped, hsame, hclock]
    -- what is due when the reporter is stopped may be logged already, but nothing is
    have hmoments : moments started.clock period bound
        = moments started.clock period (after [managed id period] first (before ++ .start :: during)).clock := by
      obtain hsame | hnext : bound = (after [managed id period] first (before ++ .start :: during)).clock
          ∨ bound = (after [managed id period] first (before ++ .start :: during)).clock + 1 := by
        have hle := hticks.clock_le
        have hge := hticks.le_clock
        omega
      . rw [hsame]
      . rw [hnext, moments_succ_of_ne hperiod hbetween]
    rw [hmoments] at hshows
    refine ⟨texts, hlogged, ?_⟩
    rw [hsteps]
    exact hshows.imp fun _ _ h => h.append _
  case idle =>
    intro before still rest hsteps hruns hstill
    rw [List.append_assoc] at hsteps
    refine (logged_of_idle (allReporters_singleton id period) (hidle hsteps hruns) ?_).2
    rintro step hmem
    exact .inl fun heq => hstill (heq ▸ hmem)
  case stop =>
    intro before rest hsteps hruns
    rw [after_concat, act_stop_of_nil (allReporters_singleton id period) (hidle hsteps hruns)]

end Histories

/--
A reporter is registered unless the time between two reports is zero, and then nothing is ever logged. With one, the
snapshots from its start to its next stop are those at its moments in between, each with the metrics of that moment,
and none is logged while it does not run; a stop has no effect then.
-/
theorem snapshots_at_moments (m : Config.Metrics) {environment : Environment σ}
    (hopen : environment.objects.started = false) (world : World σ) :
    ∃ reporters environment' world',
      ((Setup.reportMetrics m).run environment).exec world = (.ok ((), environment'), world')
        ∧
      environment'.objects.objects = environment.objects.objects ++ reporters
        ∧
      (reporters = [] ↔ m.frequency = 0)
        ∧
      ∀ first steps, first.tickers = [] →
        (steps.forM (Step.act reporters)).exec first = (.ok (), after reporters first steps)
          ∧
        (m.frequency = 0 → logged (after reporters first steps) = logged first)
          ∧
        (m.frequency ≠ 0 → Orderly steps → AlwaysReadable first steps →
          Reports (m.frequency * 1000) reporters first steps) := by
  by_cases hzero : m.frequency = 0
  . have hnone : AllReporters ([] : List (Lifecycle.Managed σ)) := nofun
    refine ⟨[], environment, world, Setup.reportMetrics_exec_of_zero hzero environment world,
      (List.append_nil _).symm, ⟨fun _ => hzero, fun _ => rfl⟩, ?_⟩
    intro first steps hfirst
    refine ⟨forM_exec hnone steps first, fun _ => ?_, fun hne => absurd hzero hne⟩
    have hidle : (after [] first []).tickers = [] := hfirst
    exact (logged_of_idle hnone hidle fun _ _ => .inr rfl).2
  . let id := environment.objects.objects.length
    refine ⟨[managed id (m.frequency * 1000)], _, _, Setup.reportMetrics_exec_of_ne hzero hopen world, rfl,
      ⟨nofun, fun hzero' => absurd hzero' hzero⟩, ?_⟩
    intro first steps hfirst
    refine ⟨forM_exec (allReporters_singleton id _) steps first, fun hzero' => absurd hzero' hzero, ?_⟩
    intro _ horderly hreadable
    exact reports (by omega) id hfirst horderly hreadable

def shortRun : List (Step Unit) :=
  [.start, .pass 2500, .stop]

theorem orderly_shortRun : Orderly shortRun := by
  intro before rest hsteps
  cases before with
  | nil => rfl
  | cons step before =>
    -- it is started only once
    obtain ⟨-, hrest⟩ := List.cons_eq_cons.mp hsteps
    have hmem : Step.start ∈ before ++ .start :: rest := List.mem_append_right _ List.mem_cons_self
    rw [show before ++ .start :: rest = [Step.pass 2500, .stop] from hrest.symm] at hmem
    simp at hmem

theorem snapshots_at_moments_of_shortRun :
    (Environment.new .default : Environment Unit).objects.started = false
      ∧
    (World.idle ()).tickers = []
      ∧
    Orderly shortRun
      ∧
    AlwaysReadable (World.idle ()) shortRun
      ∧
    ∃ reporters environment' world',
      ((Setup.reportMetrics ⟨1⟩).run (.new .default)).exec (.idle ()) = (.ok ((), environment'), world')
        ∧
      environment'.objects.objects = reporters
        ∧
      (logged (after reporters (.idle ()) shortRun)).length = 2 := by
  have hreadable : AlwaysReadable (World.idle ()) shortRun := by
    refine ⟨fun _ _ hmem => absurd hmem List.not_mem_nil, ?_⟩
    intro metrics state hmem
    simp [shortRun] at hmem
  have hopen : (Environment.new .default : Environment Unit).objects.started = false := rfl
  obtain ⟨reporters, environment', world', hexec, hobjects, -, hreports⟩ :=
    snapshots_at_moments ⟨1⟩ hopen (.idle ())
  refine ⟨hopen, rfl, orderly_shortRun, hreadable, reporters, environment', world', hexec, hobjects, ?_⟩
  obtain ⟨-, -, hreports⟩ := hreports (.idle ()) shortRun rfl
  have hbetween := (hreports one_ne_zero orderly_shortRun hreadable).between [] [.pass 2500] [] rfl
    (List.forall_mem_singleton.mpr trivial)
  -- the reporter is the only object, so the clock is known when it is stopped
  rw [Setup.reportMetrics_exec_of_ne one_ne_zero hopen] at hexec
  cases hexec
  obtain rfl : [managed 0 1000] = reporters := hobjects
  have hclock : (after [managed 0 1000] (.idle ()) shortRun).clock = 2500 :=
    clock_after (allReporters_singleton 0 1000) (.idle ()) shortRun
  obtain ⟨texts, hlogged, hshows⟩ := hbetween fun k => hclock.trans_ne (by show 2500 ≠ 0 + (k + 1) * 1000; omega)
  have hlength := hshows.length_eq
  rw [length_moments] at hlength
  have hstopped : logged (after [managed 0 1000] (.idle ()) shortRun) = texts := hlogged
  rw [hstopped, ← hlength]
  show ((after [managed 0 1000] (.idle ()) shortRun).clock - 1 - 0) / 1000 = 2
  rw [hclock]

end Metrics.Reporter

end ServiceHost
