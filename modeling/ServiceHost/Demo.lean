import ServiceHost.Application
import ServiceHost.Serving.Visit

/-!
This module contains a small service: it greets, counts its greetings, and knows for how long it runs.
-/

namespace ServiceHost.Demo

structure State where
  hits : UInt64
  started : Option Nat
  outcomes : List Serving.Outcome
  deriving DecidableEq

def State.new : State :=
  ⟨0, none, []⟩

def change (f : State → State) : Action State Unit :=
  Action.change fun world => { world with state := f world.state }

def defaultTemplate : String := "Hello, \x7b\x7d!"

def greetingForm : Toml.RecordForm String :=
  .lenient "struct GreetingConfig" [.of "template" .string fun template _ => template]

def fill (template name : String) : String :=
  .ofList (Text.replaceFirst ['\x7b', '\x7d'] name.toList template.toList)

def greet (template name : String) : Action State String := do
  change fun s => { s with hits := s.hits + 1 }
  return fill template name

def hello (template : String) : Http.Endpoint State := fun request => do
  let params := Admin.Params.ofQuery request.uri.query
  return .text 200 ((← greet template ((params.first? "name").getD "world")) ++ "\n")

def greeting (template : String) : Http.Resource State where
  path := "/greeting"
  implementation
    | .get => some fun _ => do
      return .ok (.object [("message", .string (← greet template "world"))])
    | _ => none

def hitsTask : Admin.Task State where
  name := "hits"
  execute params := do
    if (params.first? "reset").isSome then
      change fun s => { s with hits := 0 }
    return .ok ("hits: " ++ toString (← get).state.hits ++ "\n")

def seconds (start now : Nat) : Nat :=
  (now - start) / 1000

def uptime : Lifecycle.Managed State where
  name := "uptime"
  start := do
    let now := (← get).clock
    change fun s => { s with started := some now }
    return .ok ()
  stop := do
    let world ← get
    if let some start := world.state.started then
      change fun s => { s with started := none }
      Action.log .application .info "Uptime tracker stopped"
        [("uptime_secs", toString (seconds start world.clock))]
    return .ok ()

def uptimeResult (world : World State) : Health.Result :=
  match world.state.started with
  | some start => .okWith ("up " ++ toString (seconds start world.clock) ++ "s")
  | none => .unhealthy "not started"

def uptimeCheck : Health.Check State where
  name := "uptime"
  probe world := (⟨0, .ok (uptimeResult world)⟩, world)

def setUpUptime : SetupHook State := fun _ => do
  match ← Setup.manage uptime with
  | .error message => return .error message
  | .ok () =>
    match ← Setup.check uptimeCheck with
    | .error e => return .error e.message
    | .ok () => return .ok ()

def setUpGreetings (template : String) : Setup State (Except String Unit) := do
  match ← Setup.route .get "/hello" (hello template) with
  | .error e => return .error e.message
  | .ok () =>
    match ← Setup.resource (greeting template) with
    | .error e => return .error e.message
    | .ok () =>
      match ← Setup.task hitsTask with
      | .error e => return .error e.message
      | .ok () => return .ok ()

def setUp : SetupHook State := fun c => do
  match c.section? "greeting" (greetingForm.decode true defaultTemplate) with
  | .error misfit => return .error misfit.report
  | .ok template => setUpGreetings (template.getD defaultTemplate)

def application : Application State where
  name := "gantry-demo"
  steps := [.bundle [] setUpUptime]
  setUp := setUp

def receiveAll (service : Serving.Service State) : List Serving.Visit → Action State Unit
  | [] => return ()
  | visit :: rest => do
    let outcome ← service.receive visit
    change fun s => { s with outcomes := s.outcomes ++ [outcome] }
    receiveAll service rest

def session (visits : List Serving.Visit) (signal : Signal) : Session State where
  events service := .act (receiveAll service visits) :: .shutdown :: service.farewell []
  signal := signal

def logLine (entry : Entry) : String :=
  entry.event.severity.level.name ++ " " ++ entry.event.source.target ++ " " ++ entry.event.message

def logLines (journal : List Entry) : List String :=
  ((journal.filter (·.written)).map logLine).mergeSort fun a b => decide (a ≤ b)

end ServiceHost.Demo
