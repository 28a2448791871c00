import ServiceHost.Text.Quoted
import ServiceHost.Metrics.Ticking

/-!
This module contains health checks: named probes that run on demand, all of them each time, side by
side. They have their turns in rounds, and others have theirs in between. A probe that panics counts as
unhealthy.
-/

namespace ServiceHost.Health

structure Result where
  healthy : Bool
  message : Option String
  cause : Option String
  deriving DecidableEq, Repr

namespace Result

def ok : Result :=
  ⟨true, none, none⟩

def okWith (message : String) : Result :=
  ⟨true, some message, none⟩

def unhealthy (message : String) : Result :=
  ⟨false, some message, none⟩

def failed (cause : String) : Result :=
  ⟨false, none, some cause⟩

def panicked : Result :=
  unhealthy "health check panicked"

def quotedOption : Option String → String
  | some text => "Some(" ++ Text.quoted text ++ ")"
  | none => "None"

def description (r : Result) : String :=
  "HealthResult \x7b healthy: " ++ (if r.healthy then "true" else "false") ++ ", message: " ++
    quotedOption r.message ++ ", cause: " ++ quotedOption r.cause ++ " \x7d"

end Result

structure Completion where
  /-- How many other turns it waited for. -/
  rounds : Nat
  outcome : Except Fault Result

abbrev Probe (σ : Type) := StateM (World σ) Completion

structure Check (σ : Type) where
  name : String
  probe : Probe σ

inductive RegistrationError where
  | duplicate (name : String)
  | alreadyStarted (name : String)
  deriving DecidableEq, Repr

def RegistrationError.message : RegistrationError → String
  | .duplicate name => "health check '" ++ name ++ "' is already registered"
  | .alreadyStarted name => "health check '" ++ name ++ "' registered after startup"

structure Registry (σ : Type) where
  checks : List (Check σ)
  frozen : Bool

namespace Registry

variable {σ : Type}

def empty : Registry σ :=
  ⟨[], false⟩

def names (registry : Registry σ) : List String :=
  registry.checks.map (·.name)

def register (check : Check σ) (registry : Registry σ) : Except RegistrationError (Registry σ) :=
  if registry.frozen then
    .error (.alreadyStarted check.name)
  else if check.name ∈ registry.names then
    .error (.duplicate check.name)
  else
    .ok { registry with checks := registry.checks ++ [check] }

def freeze (registry : Registry σ) : Registry σ :=
  { registry with frozen := true }

def complete (registry : Registry σ) : StateM (World σ) (List (String × Completion)) :=
  registry.checks.mapM fun check => do return (check.name, ← check.probe)

def maxInOrder : Nat := 30

/--
Whether of two completions with their places the first comes before the second: by rounds, and within a
round by places. Of many checks, those that wait have their turns in the opposite order every other round.
-/
def precedes (many : Bool) (a b : (String × Completion) × Nat) : Bool :=
  let ((_, c), i) := a
  let ((_, d), j) := b
  decide (c.rounds < d.rounds) ||
    (c.rounds == d.rounds && decide (if many && c.rounds % 2 == 1 then j ≤ i else i ≤ j))

def inOrder (completions : List (String × Completion)) : List (String × Completion) :=
  (completions.zipIdx.mergeSort (precedes (decide (maxInOrder < completions.length)))).map (·.1)

def reportPanics (completions : List (String × Completion)) : Action σ Unit :=
  completions.forM fun (name, c) =>
    match c.outcome with
    | .error .panicked => Action.log .health .error "Health check panicked" [("check", name)]
    | _ => return ()

def resultOf (c : Completion) : Result :=
  match c.outcome with
  | .ok result => result
  | .error _ => .panicked

/-- Runs every check: the results by name. A check that never comes back holds up all of them. -/
def run (registry : Registry σ) : Action σ (Keyed Result) := do
  let completions ← (registry.complete : StateM (World σ) _)
  let (prompt, waiting) := (inOrder completions).partition fun (_, c) => c.rounds == 0
  reportPanics prompt
  if waiting ≠ [] then
    Action.giveWay
  reportPanics waiting
  if completions.any fun (_, c) => c.outcome matches .error .stalled then
    Action.fail .stalled
  return .ofList (completions.map fun (name, c) => (name, resultOf c))

end Registry

def allHealthy (results : Keyed Result) : Bool :=
  results.entries.all fun (_, result) => result.healthy

end ServiceHost.Health
