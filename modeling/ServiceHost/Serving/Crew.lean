import ServiceHost.Lifecycle.Shutdown
import ServiceHost.Metrics.Ticking

/-!
This module contains the tasks of the connectors while a service serves, and what can happen meanwhile. Every
task has subscribed to a coordinator, which calls all of them when serving is over.
-/

namespace ServiceHost.Serving

inductive Ending where
  | shutdown
  | connectorReturned
  | connectorFailed (reason : String)
  deriving DecidableEq, Repr

inductive Event (σ : Type) where
  | act (action : Action σ Unit)
  | pass (milliseconds : Nat)
  | shutdown
  | notice (connector : Nat)
  | finish (connector : Nat) (outcome : Except String Unit)

/-- The tasks of the connectors, which are known by their positions. -/
structure Crew where
  coordinator : Lifecycle.Shutdown
  running : List Nat
  deriving DecidableEq, Repr

namespace Crew

def spawn : Nat → Crew
  | 0 => ⟨.new, []⟩
  | n + 1 => ⟨(spawn n).coordinator.subscribe, (spawn n).running ++ [n]⟩

def trigger (crew : Crew) : Crew :=
  { crew with coordinator := crew.coordinator.trigger }

def waiting (crew : Crew) : Nat :=
  crew.coordinator.receivers?.getD 0

end Crew

namespace Event

variable {σ : Type}

def period : Event σ → Nat
  | pass milliseconds => milliseconds
  | _ => 0

def ending? (crew : Crew) : Event σ → Option Ending
  | shutdown => some .shutdown
  | finish connector outcome =>
    if connector ∈ crew.running then
      match outcome with
      | .ok () => some .connectorReturned
      | .error reason => some (.connectorFailed reason)
    else
      none
  | _ => none

def applyTo (crew : Crew) : Event σ → Crew
  | notice connector => { crew with coordinator := (crew.coordinator.poll connector).2 }
  | finish connector _ => { crew with running := crew.running.erase connector }
  | _ => crew

def perform : Event σ → Action σ Unit
  | act action => do let _ ← Action.attempt action
  | pass milliseconds => Action.advance milliseconds
  | _ => return ()

end Event

end ServiceHost.Serving
