import ServiceHost.World

/-!
This module contains the passing of time: it makes tickers log snapshots of the metrics. What is due by
the end of a time is logged when others have their turn the next time.
-/

namespace ServiceHost

namespace Ticker

def dueBefore (now : Nat) (t : Ticker) : Nat :=
  if t.due < now then
    if t.period = 0 then 1 else (now - 1 - t.due) / t.period + 1
  else
    0

def afterTicks (n : Nat) (t : Ticker) : Ticker :=
  { t with due := t.due + n * t.period }

end Ticker

namespace Action

variable {σ : Type}

def snapshots : Nat → Action σ Bool
  | 0 => return true
  | n + 1 => do
    let world ← get
    match world.metrics.render world.state with
    | .ok text =>
      log .metrics .info "Metrics snapshot" [("metrics", text)]
      snapshots n
    | .error _ => return false

/-- Lets every ticker tick that is due; one whose snapshot fails ticks no more. -/
def tick (now : Nat) : List Ticker → Action σ (List Ticker)
  | [] => return []
  | t :: rest => do
    let n := t.dueBefore now
    let made ← snapshots n
    let others ← tick now rest
    return if made then t.afterTicks n :: others else others

def tickBefore (now : Nat) : Action σ Unit := do
  let tickers ← tick now (← get).tickers
  change fun world => { world with tickers }

def advance (milliseconds : Nat) : Action σ Unit := do
  change fun world => { world with clock := world.clock + milliseconds }
  tickBefore (← get).clock

def giveWay : Action σ Unit := do
  tickBefore ((← get).clock + 1)

end Action

end ServiceHost
