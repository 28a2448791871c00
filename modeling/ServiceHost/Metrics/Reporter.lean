import ServiceHost.Lifecycle.Managed

/-!
This module contains the reporter that logs a snapshot of the metrics at a fixed interval while the
service runs.
-/

namespace ServiceHost.Metrics

namespace Reporter

variable {σ : Type}

def name : String := "metrics-reporter"

def start (id period : Nat) : Action σ Unit :=
  Action.change fun world =>
    let orphaned := world.tickers.map fun t =>
      if t.owner = some id then { t with owner := none } else t
    { world with tickers := orphaned ++ [⟨some id, world.clock + period, period⟩] }

def stop (id : Nat) : Action σ Unit :=
  Action.change fun world =>
    { world with tickers := world.tickers.filter (·.owner ≠ some id) }

def managed (id period : Nat) : Lifecycle.Managed σ where
  name := name
  start := do start id period; return .ok ()
  stop := do stop id; return .ok ()

end Reporter

end Metrics

end ServiceHost
