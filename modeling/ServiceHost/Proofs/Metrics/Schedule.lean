import Mathlib.Algebra.Order.Group.Nat
import Mathlib.Data.Nat.ModEq
import ServiceHost.Metrics.Reporter
import ServiceHost.Proofs.Metrics.Ticking

/-!
This module contains the times at which a reporter logs a snapshot of the metrics: they are one period apart, and the
first one is a period after the start. A ticker knows the next of them, and needs no more for the ones that follow.
-/

namespace ServiceHost

variable {σ γ : Type}

namespace Metrics.Reporter

variable {start period : Nat}

/-- The times before an end that follow a start at some number of periods. -/
def moments (start period stop : Nat) : List Nat :=
  (List.range stop).filter fun time => start < time ∧ period ∣ time - start

theorem mem_moments_iff {stop time : Nat} (hperiod : 0 < period) :
    time ∈ moments start period stop ↔ time < stop ∧ ∃ k, time = start + (k + 1) * period := by
  unfold moments
  rw [List.mem_filter, List.mem_range, decide_eq_true_iff]
  apply and_congr_right
  intro _
  constructor
  . rintro ⟨hlater, k, hk⟩
    cases k with
    | zero => omega
    | succ k => exact ⟨k, by rw [Nat.mul_comm]; omega⟩
  . rintro ⟨k, rfl⟩
    have hpos : 0 < (k + 1) * period := Nat.mul_pos (Nat.succ_pos k) hperiod
    exact ⟨by omega, by rw [Nat.add_sub_cancel_left]; exact Nat.dvd_mul_left ..⟩

theorem moments_of_le {stop : Nat} (h : stop ≤ start) : moments start period stop = [] := by
  unfold moments
  rw [List.filter_eq_nil_iff]
  intro time htime
  have := List.mem_range.mp htime
  simp only [decide_eq_true_eq, not_and]
  omega

theorem moments_succ (start period stop : Nat) :
    moments start period (stop + 1)
      =
    moments start period stop ++ if start < stop ∧ period ∣ stop - start then [stop] else [] := by
  unfold moments
  rw [List.range_succ, List.filter_append, List.append_cancel_left_eq, List.filter_cons, List.filter_nil]
  simp only [decide_eq_true_eq]

theorem length_moments (start period stop : Nat) : (moments start period stop).length = (stop - 1 - start) / period := by
  induction stop with
  | zero => simp [moments]
  | succ stop ih =>
    rw [moments_succ, List.length_append, ih]
    by_cases hlater : start < stop
    . -- one period more is over exactly if the time is a moment
      have hnext : stop + 1 - 1 - start = stop - 1 - start + 1 := by omega
      have hgap : stop - start = stop - 1 - start + 1 := by omega
      rw [hnext, Nat.succ_div, hgap]
      split <;> simp_all
    . have hzero : stop + 1 - 1 - start = stop - 1 - start := by omega
      rw [if_neg fun h => hlater h.1, hzero]
      rfl

theorem moments_append (start period : Nat) {early late : Nat} (h : early ≤ late) :
    ∃ news,
      moments start period late = moments start period early ++ news ∧ ∀ time ∈ news, early ≤ time ∧ time < late := by
  induction late, h using Nat.le_induction with
  | base => exact ⟨[], (List.append_nil _).symm, fun _ hmem => absurd hmem List.not_mem_nil⟩
  | succ late hle ih =>
    obtain ⟨news, hnews, hbetween⟩ := ih
    refine ⟨_, by rw [moments_succ, hnews, List.append_assoc], ?_⟩
    intro time htime
    cases List.mem_append.mp htime with
    | inl hold =>
      have := hbetween time hold
      omega
    | inr hnew =>
      split at hnew
      . cases List.mem_singleton.mp hnew
        omega
      . cases hnew

def tickerAt (id start period bound : Nat) : Ticker :=
  ⟨some id, start + ((moments start period bound).length + 1) * period, period⟩

theorem tickerAt_start (id start period : Nat) : tickerAt id start period start = ⟨some id, start + period, period⟩ := by
  unfold tickerAt
  rw [moments_of_le (Nat.le_refl start), List.length_nil, Nat.zero_add, Nat.one_mul]

theorem dueBefore_tickerAt (hperiod : 0 < period) (id start bound now : Nat) :
    (tickerAt id start period bound).dueBefore now
      =
    (moments start period (max bound now)).length - (moments start period bound).length := by
  have hmax : (moments start period (max bound now)).length - (moments start period bound).length
      = (moments start period now).length - (moments start period bound).length := by
    cases le_total bound now with
    | inl h => rw [Nat.max_eq_right h]
    | inr h =>
      obtain ⟨news, hnews, -⟩ := moments_append start period h
      rw [Nat.max_eq_left h, hnews, List.length_append]
      omega
  rw [hmax, length_moments start period now]
  unfold tickerAt Ticker.dueBefore
  generalize (moments start period bound).length = logged
  dsimp only
  rw [if_neg hperiod.ne']
  split
  . next hdue =>
    -- so many periods, and what is left behind the last of those that were logged already
    have hnow : now - 1 - start = now - 1 - (start + (logged + 1) * period) + (logged + 1) * period := by omega
    rw [hnow, Nat.add_mul_div_right _ _ hperiod]
    generalize (now - 1 - (start + (logged + 1) * period)) / period = more
    omega
  . next hlater =>
    have hpos : 0 < (logged + 1) * period := Nat.mul_pos (Nat.succ_pos logged) hperiod
    have hfew : (now - 1 - start) / period < logged + 1 := by
      rw [Nat.div_lt_iff_lt_mul hperiod]
      omega
    omega

theorem afterTicks_tickerAt {bound late : Nat} (h : bound ≤ late) (id : Nat) :
    (tickerAt id start period bound).afterTicks ((moments start period late).length - (moments start period bound).length)
      =
    tickerAt id start period late := by
  obtain ⟨news, hnews, -⟩ := moments_append start period h
  unfold tickerAt Ticker.afterTicks
  rw [hnews, List.length_append, Nat.add_sub_cancel_left]
  dsimp only
  rw [Nat.add_assoc, ← Nat.add_mul, Nat.add_right_comm]

def snapshot (text : String) : Log.Event :=
  ⟨.metrics, .info, "Metrics snapshot", [("metrics", text)]⟩

theorem snapshots_exec {world : World σ} {text : String} (h : world.metrics.render world.state = .ok text) (n : Nat) :
    (Action.snapshots n).exec world = (.ok true, world.recordAll (List.replicate n (snapshot text))) := by
  induction n generalizing world with
  | zero => rfl
  | succ n ih =>
    unfold Action.snapshots
    rw [Action.exec_bind_ok (Action.exec_get world), h]
    exact ih h

theorem tickBefore_exec_of_nil {world : World σ} (h : world.tickers = []) (now : Nat) :
    (Action.tickBefore now).exec world = (.ok (), world) := by
  unfold Action.tickBefore
  rw [Action.exec_bind_ok (Action.exec_get world), h]
  show ((.ok (), { world with tickers := [] }) : Except Fault Unit × World σ) = _
  rw [← h]

theorem tickBefore_exec (hperiod : 0 < period) {id start bound : Nat} {world : World σ} {text : String}
    (htickers : world.tickers = [tickerAt id start period bound]) (hrender : world.metrics.render world.state = .ok text)
    (now : Nat) :
    (Action.tickBefore now).exec world
      =
    (.ok (),
      { world.recordAll (List.replicate
          ((moments start period (max bound now)).length - (moments start period bound).length) (snapshot text)) with
        tickers := [tickerAt id start period (max bound now)] }) := by
  have htick : (Action.tick now [tickerAt id start period bound]).exec world
      = (.ok [tickerAt id start period (max bound now)], world.recordAll (List.replicate
          ((moments start period (max bound now)).length - (moments start period bound).length) (snapshot text))) := by
    unfold Action.tick Action.tick
    rw [dueBefore_tickerAt hperiod, Action.exec_bind_ok (snapshots_exec hrender _),
      ← afterTicks_tickerAt (Nat.le_max_left bound now) id]
    rfl
  unfold Action.tickBefore
  rw [Action.exec_bind_ok (Action.exec_get world), htickers, Action.exec_bind_ok htick]
  rfl

end Metrics.Reporter

end ServiceHost
