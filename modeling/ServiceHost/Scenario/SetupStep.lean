import ServiceHost.Scenario.MetricStep
import ServiceHost.Scenario.Scripts
import ServiceHost.Scenario.Sections

/-!
This module contains the setup of scripted applications: steps that are carried out one after the other,
up to the first that fails.
-/

namespace ServiceHost.Scenario

inductive SetupStep where
  | route (method path : String) (reply : Reply)
  | resource (resource : Http.Resource Stage)
  | manage (object : Lifecycle.Managed Stage)
  | check (check : Health.Check Stage)
  | view (view : Admin.View Stage)
  | task (task : Admin.Task Stage)
  | metric (step : MetricStep)
  | level (logger level : String)
  | section (name : String)
  | greeting (name : String)
  | fail (message : String)

def messageOf {ε : Type} (message : ε → String) : Except ε Unit → Except String Unit
  | .ok () => .ok ()
  | .error e => .error (message e)

/-- Sets the level of a logger by its name. -/
def setLevel (logger text : String) : Action Stage (Except String Bool) := do
  match Log.Level.ofName? text with
  | none => return .error (Log.Level.unknownMessage text)
  | some level => return .ok (← Action.setLevel logger level)

def noteGreeting (c : Configuration) (name : String) : Action Stage (Except String Unit) := do
  match c.section? name greeting with
  | .error misfit => return .error misfit.report
  | .ok template =>
    note ("greeting " ++ template.getD "-")
    return .ok ()

namespace SetupStep

def bindRoute (method path : String) (reply : Reply) : Setup Stage (Except String Unit) := do
  match Http.Method.ofName? method with
  | none => return .error "invalid HTTP method"
  | some m => return messageOf (·.message) (← Setup.route m path reply.endpoint)

def perform (c : Configuration) : SetupStep → Setup Stage (Except String Unit)
  | .route method path reply => bindRoute method path reply
  | .resource r => return messageOf (·.message) (← Setup.resource r)
  | .manage object => Setup.manage object
  | .check c => return messageOf (·.message) (← Setup.check c)
  | .view v => return messageOf (·.message) (← Setup.view v)
  | .task t => return messageOf (·.message) (← Setup.task t)
  | .metric m => do
    (m.perform : Action Stage Unit)
    return .ok ()
  | .level logger text => do
    let result ← (setLevel logger text : Action Stage _)
    return result.map fun _ => ()
  | .section name => do
    let found := (c.sections.lookup name).isSome
    (note ("section " ++ name ++ (if found then " true" else " false")) : Action Stage Unit)
    return .ok ()
  | .greeting name => (noteGreeting c name : Action Stage _)
  | .fail message => return .error message

def performAll (c : Configuration) : List SetupStep → Setup Stage (Except String Unit)
  | [] => return .ok ()
  | step :: rest => do
    match ← step.perform c with
    | .error message => return .error message
    | .ok () => performAll c rest

end SetupStep

end ServiceHost.Scenario
