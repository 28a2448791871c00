import ServiceHost.Host
import ServiceHost.Log.Event
import ServiceHost.Log.Filter
import ServiceHost.Log.Levels
import ServiceHost.Metrics.Registry

/-!
This module contains the state of a running service and the actions on it. Besides what the service
itself keeps, there is a state `σ` of the application; code that the application supplies is an action
that may read and change all of it, and may panic or never come back.
-/

namespace ServiceHost

structure Ticker where
  owner : Option Nat
  due : Nat
  period : Nat
  deriving DecidableEq, Repr

structure Entry where
  event : Log.Event
  /-- Whether the filter in force at the time let the event through. -/
  written : Bool
  deriving DecidableEq, Repr

/-- Where changes of the levels lead. -/
inductive Log.Wiring where
  | detached
  | attached
  /-- To a filter that was never put in force. -/
  | severed
  deriving DecidableEq, Repr

structure World (σ : Type) where
  host : Host
  clock : Nat
  output : String
  journal : List Entry
  levels : Log.Levels
  filter : Option Log.Filter
  wiring : Log.Wiring
  metrics : Metrics.Registry σ
  tickers : List Ticker
  listening : List SocketAddress
  state : σ

abbrev Action (σ : Type) := ExceptT Fault (StateM (World σ))

namespace World

variable {σ : Type}

def new (host : Host) (levels : Log.Levels) (state : σ) : World σ :=
  ⟨host, 0, "", [], levels, none, .detached, .empty, [], [], state⟩

def record (event : Log.Event) (world : World σ) : World σ :=
  let written := world.filter.any (·.admits event)
  { world with journal := world.journal ++ [⟨event, written⟩] }

end World

namespace Action

variable {σ α : Type}

/-- Carries out an action; the changes made before a fault stay. -/
def exec (action : Action σ α) (world : World σ) : Except Fault α × World σ :=
  StateT.run (ExceptT.run action) world

def change (f : World σ → World σ) : Action σ Unit :=
  modify f

def fail (fault : Fault) : Action σ α :=
  throw fault

def attempt (action : Action σ α) : Action σ (Except Fault α) := fun world =>
  let (result, world) := action.exec world
  (.ok result, world)

def recover (action : Action σ α) (onPanic : Action σ α) : Action σ α := fun world =>
  match action.exec world with
  | (.error .panicked, world) => onPanic world
  | result => result

def log (source : Log.Source) (severity : Log.Severity) (message : String)
    (fields : List (String × String)) : Action σ Unit :=
  change (.record ⟨source, severity, message, fields⟩)

def listen (address : SocketAddress) : Action σ Unit :=
  change fun world => { world with listening := world.listening ++ [address] }

def print (text : String) : Action σ Unit :=
  change fun world => { world with output := world.output ++ text }

def metricsJson : Action σ String := do
  let world ← get
  match world.metrics.render world.state with
  | .ok text => return text
  | .error fault => fail fault

/-- Asks for a variable of some kind; one that has another kind already is left alone. -/
def metric (kind : Metrics.Kind) (name : String) : Action σ Metrics.Handle := do
  change fun world => { world with metrics := world.metrics.request kind name }
  if !(← get).metrics.hasKind kind name then
    log .metrics .warn "Metric already registered with a different kind" [("name", name)]
  return ⟨name, kind⟩

def updateMetric (handle : Metrics.Handle) (update : Metrics.Update) : Action σ Unit :=
  change fun world => { world with metrics := world.metrics.update handle update }

def publishMetric (name : String) (read : σ → Except Fault Json.Value) : Action σ Unit := do
  let replaces := (← get).metrics.contents.contains name
  change fun world => { world with metrics := world.metrics.publish name read }
  if replaces then
    log .metrics .warn "Replaced published metric variable" [("name", name)]

/-- Puts the levels in force as far as they lead there; directives that make no filter change nothing. -/
def applyLevels : Action σ Unit := do
  let world ← get
  if world.wiring ≠ .detached then
    match Log.Filter.ofDirectives? world.levels.directives with
    | none =>
      log .levels .warn "Invalid log filter"
        [("directives", world.levels.directives), ("error", "invalid filter directive")]
    | some filter =>
      if world.wiring = .attached then
        change fun world => { world with filter := some filter }
      else
        log .levels .warn "Failed to reload log filter" [("error", "subscriber no longer exists")]

def setLevel (logger : String) (level : Log.Level) : Action σ Bool := do
  match (← get).levels.set logger level with
  | .accepted levels =>
    change fun world => { world with levels }
    applyLevels
    return true
  | .unsupported => return false
  | .full =>
    log .levels .warn "Too many logger overrides"
      [("logger", logger), ("limit", toString Log.maxOverrides)]
    return false

end Action

end ServiceHost
