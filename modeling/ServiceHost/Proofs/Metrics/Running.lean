import Mathlib.Data.List.Forall2
import ServiceHost.Proofs.Metrics.Rendering
import ServiceHost.Proofs.Metrics.Schedule

/-!
This module contains what a reporter does in one step, in which it is started or stopped, time passes, or the metrics
change: where it runs, it logs what is due.
-/

namespace ServiceHost

variable {σ γ : Type}

namespace Metrics.Reporter

inductive Step (σ : Type) where
  | pass (milliseconds : Nat)
  | giveWay
  | become (metrics : Registry σ) (state : σ)
  | start
  | stop

def Step.act (reporters : List (Lifecycle.Managed σ)) : Step σ → Action σ Unit
  | .pass milliseconds => Action.advance milliseconds
  | .giveWay => Action.giveWay
  | .become metrics state => Action.change fun world => { world with metrics, state }
  | .start => reporters.forM fun reporter => do
    let _ ← reporter.start
    return ()
  | .stop => reporters.forM fun reporter => do
    let _ ← reporter.stop
    return ()

def AllReporters (objects : List (Lifecycle.Managed σ)) : Prop :=
  ∀ object ∈ objects, ∃ id period, object = managed id period

theorem allReporters_singleton (id period : Nat) : AllReporters [managed (σ := σ) id period] := by
  unfold AllReporters
  rw [List.forall_mem_singleton]
  exact ⟨id, period, rfl⟩

def Step.IsQuiet : Step σ → Prop
  | .pass _ | .giveWay | .become .. => True
  | .start | .stop => False

def snapshot? : Log.Event → Option String
  | ⟨.metrics, .info, "Metrics snapshot", [("metrics", text)]⟩ => some text
  | _ => none

def logged (world : World σ) : List String :=
  world.events.filterMap snapshot?

def Readable (metrics : Registry σ) (state : σ) : Prop :=
  ∀ name read, (name, .published read) ∈ metrics.contents →
    ∃ value, read state = .ok value

theorem render_of_readable {metrics : Registry σ} {state : σ} (h : Readable metrics state) :
    ∃ text, metrics.render state = .ok text := by
  cases hrender : metrics.render state with
  | ok text => exact ⟨text, rfl⟩
  | error fault =>
    obtain ⟨name, read, hfound, hfault⟩ := Registry.render_eq_error_iff.mp hrender
    obtain ⟨value, hvalue⟩ := h name read (List.mem_of_find?_eq_some hfound)
    rw [hvalue] at hfault
    cases hfault

theorem logged_recordAll (world : World σ) (n : Nat) (text : String) :
    logged (world.recordAll (List.replicate n (snapshot text))) = logged world ++ List.replicate n text := by
  unfold logged
  rw [World.events_recordAll, List.filterMap_append, List.filterMap_replicate]
  rfl

/-- A reporter runs that was started at some time, and has logged all that was due before another one. -/
structure Ticks (id start period bound : Nat) (world : World σ) : Prop where
  tickers : world.tickers = [tickerAt id start period bound]
  clock_le : world.clock ≤ bound
  le_clock : bound ≤ world.clock + 1

/-- A step goes on at a time from a world: the clock shows that time there, or comes past it in the step. -/
def GoesOnAt (time : Nat) (world next : World σ) : Prop :=
  world.clock = time ∨ (world.clock < time ∧ time < next.clock)

/-- A step logs what is due: each snapshot shows the metrics as they are in the world where the step goes on. -/
def Logs (start period early : Nat) (world next : World σ) (late : Nat) : Prop :=
  ∃ news texts,
    moments start period late = moments start period early ++ news
      ∧
    logged next = logged world ++ texts
      ∧
    List.Forall₂ (fun time text => GoesOnAt time world next ∧ world.metrics.render world.state = .ok text) news texts

theorem forall₂_replicate {α β : Type} {r : α → β → Prop} {as : List α} {b : β} (h : ∀ a ∈ as, r a b) :
    List.Forall₂ r as (List.replicate as.length b) := by
  induction as with
  | nil => exact .nil
  | cons a as ih =>
    obtain ⟨ha, has⟩ := List.forall_mem_cons.mp h
    exact .cons ha (ih has)

section Running

variable {id start period bound : Nat} {world : World σ}

theorem unlogged_clock : Action.Unlogged (fun world : World σ => world.clock) fun _ => True where
  record _ _ _ := rfl

theorem Ticks.tickBefore (h : Ticks id start period bound world) (hperiod : 0 < period)
    (hreadable : Readable world.metrics world.state) {clock now : Nat} (hclock : world.clock ≤ clock)
    (hle : clock ≤ now) (hnow : now ≤ clock + 1)
    (hturn : ∀ time, world.clock ≤ time → time < now → world.clock = time ∨ time < clock) :
    ∃ next late,
      (Action.tickBefore now).exec { world with clock } = (.ok (), next)
        ∧
      Ticks id start period late next
        ∧
      Logs start period bound world next late := by
  obtain ⟨text, hrender⟩ := render_of_readable hreadable
  obtain ⟨news, hnews, hbetween⟩ := moments_append start period (Nat.le_max_left bound now)
  let turned : World σ := { world with clock }
  have hturned : turned.tickers = [tickerAt id start period bound] := h.tickers
  have hrendered : turned.metrics.render turned.state = .ok text := hrender
  have hexec := tickBefore_exec hperiod hturned hrendered now
  have hlength : (moments start period (max bound now)).length - (moments start period bound).length = news.length := by
    rw [hnews, List.length_append, Nat.add_sub_cancel_left]
  rw [hlength] at hexec
  have hclock' : (turned.recordAll (List.replicate news.length (snapshot text))).clock = clock :=
    unlogged_clock.part_recordAll _ turned
  have hbound := h.le_clock
  refine ⟨_, max bound now, hexec, ⟨rfl, ?_, ?_⟩, news, List.replicate news.length text, hnews, ?_, ?_⟩
  . dsimp only
    rw [hclock']
    omega
  . dsimp only
    rw [hclock']
    omega
  . exact logged_recordAll turned _ _
  . apply forall₂_replicate
    intro time htime
    refine ⟨?_, hrender⟩
    unfold GoesOnAt
    dsimp only
    rw [hclock']
    -- what is new is not due before the world, but before now
    obtain ⟨hearly, hlate⟩ := hbetween time htime
    have := h.clock_le
    cases hturn time (by omega) (by omega) with
    | inl heq => exact .inl heq
    | inr hlt => omega

theorem act_pass (reporters : List (Lifecycle.Managed σ)) (milliseconds : Nat) (world : World σ) :
    ((Step.pass milliseconds).act reporters).exec world
      =
    (Action.tickBefore (world.clock + milliseconds)).exec { world with clock := world.clock + milliseconds } := by
  unfold Step.act Action.advance
  rw [Action.exec_bind_ok (Action.exec_change _ world), Action.exec_bind_ok (Action.exec_get _)]

theorem act_giveWay (reporters : List (Lifecycle.Managed σ)) (world : World σ) :
    (Step.giveWay.act reporters).exec world = (Action.tickBefore (world.clock + 1)).exec world := by
  unfold Step.act Action.giveWay
  rw [Action.exec_bind_ok (Action.exec_get world)]

theorem act_become (reporters : List (Lifecycle.Managed σ)) (metrics : Registry σ) (state : σ) (world : World σ) :
    ((Step.become metrics state).act reporters).exec world = (.ok (), { world with metrics, state }) := by
  rfl

theorem Ticks.act (h : Ticks id start period bound world) (hperiod : 0 < period)
    (hreadable : Readable world.metrics world.state) {step : Step σ} (hquiet : step.IsQuiet)
    (reporters : List (Lifecycle.Managed σ)) :
    ∃ next late,
      (step.act reporters).exec world = (.ok (), next)
        ∧
      Ticks id start period late next
        ∧
      Logs start period bound world next late := by
  cases step with
  | pass milliseconds =>
    rw [act_pass]
    exact h.tickBefore hperiod hreadable (Nat.le_add_right ..) (Nat.le_refl _) (Nat.le_succ _) fun _ _ hlt => .inr hlt
  | giveWay =>
    rw [act_giveWay]
    refine h.tickBefore hperiod hreadable (Nat.le_refl _) (Nat.le_succ _) (Nat.le_refl _) ?_
    intro time hle hlt
    exact .inl (Nat.le_antisymm hle (Nat.le_of_lt_succ hlt))
  | become metrics state =>
    rw [act_become]
    refine ⟨_, bound, rfl, ⟨h.tickers, h.clock_le, h.le_clock⟩, [], [], ?_, ?_, .nil⟩
    . rw [List.append_nil]
    . rw [List.append_nil]
      rfl
  | start | stop => exact False.elim hquiet

theorem act_start (id period : Nat) (hidle : world.tickers = []) :
    ∃ next,
      ((Step.start : Step σ).act [managed id period]).exec world = (.ok (), next)
        ∧
      Ticks id world.clock period world.clock next
        ∧
      logged next = logged world := by
  refine ⟨{ world with tickers := [tickerAt id world.clock period world.clock] }, ?_,
    ⟨rfl, Nat.le_refl _, Nat.le_succ _⟩, rfl⟩
  rw [tickerAt_start]
  show ((.ok (), { world with tickers := _ }) : Except Fault Unit × World σ) = _
  rw [hidle]
  rfl

theorem Ticks.act_stop (h : Ticks id start period bound world) :
    ∃ next,
      ((Step.stop : Step σ).act [managed id period]).exec world = (.ok (), next)
        ∧
      next.tickers = [] ∧ next.clock = world.clock ∧ logged next = logged world := by
  refine ⟨{ world with tickers := [] }, ?_, rfl, rfl, rfl⟩
  show ((.ok (), { world with tickers := world.tickers.filter _ }) : Except Fault Unit × World σ) = _
  rw [h.tickers]
  simp [tickerAt]

theorem act_stop_of_nil {reporters : List (Lifecycle.Managed σ)} (hreporters : AllReporters reporters)
    (hidle : world.tickers = []) :
    ((Step.stop : Step σ).act reporters).exec world = (.ok (), world) := by
  induction reporters with
  | nil => rfl
  | cons reporter reporters ih =>
    obtain ⟨⟨id, period, rfl⟩, hothers⟩ := List.forall_mem_cons.mp hreporters
    have hstop : ((managed id period).stop >>= fun _ => pure () : Action σ Unit).exec world = (.ok (), world) := by
      show ((.ok (), { world with tickers := world.tickers.filter _ }) : Except Fault Unit × World σ) = _
      rw [hidle, List.filter_nil, ← hidle]
    unfold Step.act at ih ⊢
    dsimp only at ih ⊢
    rw [List.forM_eq_forM, List.forM_cons, Action.exec_bind_ok hstop]
    exact ih hothers

theorem act_of_nil {reporters : List (Lifecycle.Managed σ)} (hreporters : AllReporters reporters)
    (hidle : world.tickers = []) {step : Step σ} (hstep : step ≠ .start ∨ reporters = []) :
    ∃ next, (step.act reporters).exec world = (.ok (), next) ∧ next.tickers = [] ∧ logged next = logged world := by
  cases step with
  | pass milliseconds =>
    rw [act_pass]
    refine ⟨{ world with clock := world.clock + milliseconds }, tickBefore_exec_of_nil ?_ _, hidle, rfl⟩
    exact hidle
  | giveWay =>
    rw [act_giveWay]
    exact ⟨world, tickBefore_exec_of_nil hidle _, hidle, rfl⟩
  | become metrics state => exact ⟨_, act_become reporters metrics state world, hidle, rfl⟩
  | start =>
    obtain rfl := hstep.resolve_left (fun hne => hne rfl)
    exact ⟨world, rfl, hidle, rfl⟩
  | stop => exact ⟨world, act_stop_of_nil hreporters hidle, hidle, rfl⟩

end Running

section Parts

variable {part : World σ → γ} {reporters : List (Lifecycle.Managed σ)}
  (htickers : ∀ tickers world, part { world with tickers } = part world)
  (hreporters : AllReporters reporters)
include htickers hreporters

theorem spares_forM_start : Action.Spares part ((Step.start : Step σ).act reporters) := by
  apply Action.spares_forM
  intro reporter hmem
  obtain ⟨id, period, rfl⟩ := hreporters reporter hmem
  exact ((spares_start htickers id period).bind fun _ => Action.spares_pure _).bind fun _ => Action.spares_pure _

theorem spares_forM_stop : Action.Spares part ((Step.stop : Step σ).act reporters) := by
  apply Action.spares_forM
  intro reporter hmem
  obtain ⟨id, period, rfl⟩ := hreporters reporter hmem
  exact ((spares_stop htickers id).bind fun _ => Action.spares_pure _).bind fun _ => Action.spares_pure _

theorem spares_act (hunlogged : Action.Unlogged part fun _ => True)
    (hclock : ∀ clock world, part { world with clock } = part world) {step : Step σ}
    (hbecome : ∀ metrics state, step = .become metrics state → ∀ world, part { world with metrics, state } = part world) :
    Action.Spares part (step.act reporters) := by
  cases step with
  | pass milliseconds => exact Action.spares_advance hunlogged trivial htickers hclock milliseconds
  | giveWay => exact Action.spares_giveWay hunlogged trivial htickers
  | become metrics state => exact Action.spares_change (hbecome metrics state rfl)
  | start => exact spares_forM_start htickers hreporters
  | stop => exact spares_forM_stop htickers hreporters

end Parts

def Step.duration : Step σ → Nat
  | .pass milliseconds => milliseconds
  | .giveWay | .become .. | .start | .stop => 0

theorem clock_act {reporters : List (Lifecycle.Managed σ)} (hreporters : AllReporters reporters) (step : Step σ)
    (world : World σ) :
    ((step.act reporters).exec world).2.clock = world.clock + step.duration := by
  cases step with
  | pass milliseconds =>
    rw [act_pass]
    exact (Action.spares_tickBefore unlogged_clock trivial (fun _ _ => rfl) _).keeps _
  | giveWay => exact (Action.spares_giveWay unlogged_clock trivial fun _ _ => rfl).keeps world
  | become metrics state => rfl
  | start => exact (spares_forM_start (fun _ _ => rfl) hreporters).keeps world
  | stop => exact (spares_forM_stop (fun _ _ => rfl) hreporters).keeps world

end Metrics.Reporter

end ServiceHost
