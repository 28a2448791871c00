import ServiceHost.Metrics.Reporter
import ServiceHost.Metrics.Ticking
import ServiceHost.Proofs.Action

/-!
This module contains what stays as it is while time passes and snapshots of the metrics are logged.
-/

namespace ServiceHost

variable {σ γ : Type} {part : World σ → γ} {sources : Log.Source → Prop}

namespace Action

theorem spares_snapshots (h : Unlogged part sources) (hsource : sources .metrics) (n : Nat) :
    Spares part (snapshots n) := by
  induction n with
  | zero => exact spares_pure true
  | succ n ih =>
    unfold snapshots
    apply Spares.bind spares_get
    intro world
    split
    . apply Spares.bind (h.log hsource)
      intro _
      exact ih
    . exact spares_pure false

theorem spares_tick (h : Unlogged part sources) (hsource : sources .metrics) (now : Nat)
    (tickers : List Ticker) : Spares part (tick now tickers) := by
  induction tickers with
  | nil => exact spares_pure []
  | cons t rest ih =>
    unfold tick
    apply Spares.bind (spares_snapshots h hsource _)
    intro made
    apply Spares.bind ih
    intro others
    exact spares_pure _

theorem spares_tickBefore (h : Unlogged part sources) (hsource : sources .metrics)
    (htickers : ∀ tickers world, part { world with tickers } = part world) (now : Nat) :
    Spares part (tickBefore now) := by
  unfold tickBefore
  apply Spares.bind spares_get
  intro world
  apply Spares.bind (spares_tick h hsource _ _)
  intro tickers
  apply spares_change
  exact htickers tickers

theorem spares_giveWay (h : Unlogged part sources) (hsource : sources .metrics)
    (htickers : ∀ tickers world, part { world with tickers } = part world) : Spares part giveWay := by
  unfold giveWay
  apply Spares.bind spares_get
  intro world
  exact spares_tickBefore h hsource htickers _

theorem spares_advance (h : Unlogged part sources) (hsource : sources .metrics)
    (htickers : ∀ tickers world, part { world with tickers } = part world)
    (hclock : ∀ clock world, part { world with clock } = part world) (milliseconds : Nat) :
    Spares part (advance milliseconds) := by
  unfold advance
  apply Spares.bind (spares_change fun world => hclock _ world)
  intro _
  apply Spares.bind spares_get
  intro world
  exact spares_tickBefore h hsource htickers _

end Action

namespace Metrics.Reporter

theorem spares_start (htickers : ∀ tickers world, part { world with tickers } = part world) (id period : Nat) :
    Action.Spares part (start id period) :=
  Action.spares_change fun world => htickers _ world

theorem spares_stop (htickers : ∀ tickers world, part { world with tickers } = part world) (id : Nat) :
    Action.Spares part (stop id) :=
  Action.spares_change fun world => htickers _ world

end Metrics.Reporter

end ServiceHost
