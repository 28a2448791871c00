import ServiceHost.Scenario.SetupStep
import ServiceHost.Serving.Service

/-!
This module contains the workbench on which the parts of a service are tried out one by one, without
connectors: registration, requests to both sides, health checks, lifecycle, levels and metrics.
-/

namespace ServiceHost.Scenario

structure Workbench where
  configuration : Configuration
  environment : Environment Stage
  adminRoutes : Http.RouteTable (Http.Endpoint Stage)

inductive Step where
  | setup (steps : List SetupStep)
  | route (side : Serving.Side) (method path : String) (reply : Reply)
  | resource (resource : Http.Resource Stage)
  | routes (side : Serving.Side)
  | request (side : Serving.Side) (method target body : String)
  | view (view : Admin.View Stage)
  | task (task : Admin.Task Stage)
  | views
  | tasks
  | check (check : Health.Check Stage)
  | checks
  | runChecks
  | manage (object : Lifecycle.Managed Stage)
  | managed
  | start
  | stop
  | reporter (frequency : Option Nat)
  | advance (milliseconds : Nat)
  | adminStart
  | adminStop
  | setLevel (logger level : String)
  | setLevels (stem : String) (count : Nat) (level : String)
  | level (logger : String)
  | directives
  | logTask (query : Option String)
  | metric (step : MetricStep)
  | metricNames

inductive Shown where
  | done
  | texts (texts : List String)
  | pairs (pairs : List (String × String))
  | routes (context : String) (routes : List (Http.Method × String))
  | response (response : Http.Response)
  | results (results : Keyed Health.Result)
  | size (n : Nat)
  | reported (n : Nat)
  | accepted (b : Bool)
  | acceptedCount (n : Nat)
  | level (level : Option Log.Level)
  | directives (text : String)
  | body (text : String)
  | metrics (json : String)
  | metricNames (names : List String)

inductive Refusal where
  | route (e : Http.RouteError)
  | admin (e : Admin.AdminError)
  | check (e : Health.RegistrationError)
  | lateObject (message : String)
  | setup (message : String)
  | task (e : Admin.TaskError)
  | unknownLevel (message : String)
  | badMethod
  | badRequest
  | fault (fault : Fault)

namespace Workbench

def new (c : Configuration) : Workbench :=
  ⟨c, .new c, .new c.server.adminPath⟩

abbrev Work := StateT Workbench (Action Stage) (Except Refusal Shown)

def answerOf {ε : Type} (refusal : ε → Refusal) : Except ε Unit → Except Refusal Shown
  | .ok () => .ok .done
  | .error e => .error (refusal e)

def inSetup {α : Type} (step : Setup Stage α) : StateT Workbench (Action Stage) α := fun bench => do
  let (a, environment) ← step.run bench.environment
  return (a, { bench with environment })

def tableOf (bench : Workbench) : Serving.Side → Http.RouteTable (Http.Endpoint Stage)
  | .application => bench.environment.routes
  | .admin => bench.adminRoutes

def bindRoute (side : Serving.Side) (method path : String) (reply : Reply) : Work := do
  match Http.Method.ofName? method, side with
  | none, _ => return .error .badMethod
  | some m, .application => return answerOf .route (← inSetup (Setup.route m path reply.endpoint))
  | some m, .admin =>
    let bench ← get
    let (result, adminRoutes) ← (bench.adminRoutes.attach m path reply.endpoint : Action Stage _)
    set { bench with adminRoutes }
    return answerOf .route result

def request (side : Serving.Side) (method target body : String) : Work := do
  match Http.Method.ofName? method, Http.Uri.parse? target with
  | some m, some uri =>
    let table := (← get).tableOf side
    let serving : Action Stage Http.Response := do
      (← Serving.routerOf table).serve ⟨m, uri, body, none⟩
    match ← (serving.attempt : Action Stage _) with
    | .ok response => return .ok (.response response)
    | .error fault => return .error (.fault fault)
  | _, _ => return .error .badRequest

def runChecks : Work := do
  let checks := (← get).environment.admin.checks
  match ← (Action.attempt checks.run : Action Stage _) with
  | .ok results => return .ok (.results results)
  | .error fault => return .error (.fault fault)

def start : Work := do
  let objects := (← get).environment.objects.close
  modify fun bench => { bench with environment := { bench.environment with objects } }
  (objects.start : Action Stage Unit)
  return .ok .done

def adminStart : Work := do
  let bench ← get
  let (result, admin, adminRoutes) ← (bench.environment.admin.start bench.adminRoutes : Action Stage _)
  set { bench with environment := { bench.environment with admin }, adminRoutes }
  return answerOf .admin result

def reporter (frequency : Option Nat) : Work := do
  let frequency := frequency.getD (← get).configuration.metrics.frequency
  inSetup (Setup.reportMetrics ⟨frequency⟩)
  return .ok (.reported (← get).environment.objects.objects.length)

def setup (steps : List SetupStep) : Work := do
  let c := (← get).configuration
  return answerOf .setup (← inSetup (SetupStep.performAll c steps))

def setNumbered (stem : String) (level : Log.Level) : (count : Nat) → Action Stage Nat
  | 0 => return 0
  | n + 1 => do
    let before ← setNumbered stem level n
    let accepted ← Action.setLevel (stem ++ toString n) level
    return if accepted then before + 1 else before

def setLevels (stem : String) (count : Nat) (level : String) : Work := do
  match Log.Level.ofName? level with
  | none => return .error (.unknownLevel (Log.Level.unknownMessage level))
  | some level => return .ok (.acceptedCount (← (setNumbered stem level count : Action Stage Nat)))

def setLevel (logger level : String) : Work := do
  match ← (Scenario.setLevel logger level : Action Stage _) with
  | .error message => return .error (.unknownLevel message)
  | .ok accepted => return .ok (.accepted accepted)

def logTask (query : Option String) : Work := do
  match ← (Admin.Task.log.execute (.ofQuery query) : Action Stage _) with
  | .error e => return .error (.task e)
  | .ok text => return .ok (.body text)

def world : StateT Workbench (Action Stage) (World Stage) :=
  (get : Action Stage (World Stage))

def perform : Step → Work
  | .setup steps => setup steps
  | .route side method path reply => bindRoute side method path reply
  | .resource r => return answerOf .route (← inSetup (Setup.resource r))
  | .routes side => do
    let table := (← get).tableOf side
    return .ok (.routes table.context table.routes)
  | .request side method target body => request side method target body
  | .view v => return answerOf .admin (← inSetup (Setup.view v))
  | .task t => return answerOf .admin (← inSetup (Setup.task t))
  | .views => return .ok (.pairs ((← get).environment.admin.views.map fun v => (v.name, v.path)))
  | .tasks => return .ok (.texts ((← get).environment.admin.tasks.map (·.name)))
  | .check c => return answerOf .check (← inSetup (Setup.check c))
  | .checks => return .ok (.texts (← get).environment.admin.checks.names)
  | .runChecks => runChecks
  | .manage object => return answerOf .lateObject (← inSetup (Setup.manage object))
  | .managed => return .ok (.size (← get).environment.objects.objects.length)
  | .start => start
  | .stop => do
    ((← get).environment.objects.stop : Action Stage Unit)
    return .ok .done
  | .reporter frequency => reporter frequency
  | .advance milliseconds => do
    (Action.advance milliseconds : Action Stage Unit)
    return .ok .done
  | .adminStart => adminStart
  | .adminStop => return .ok .done
  | .setLevel logger level => setLevel logger level
  | .setLevels stem count level => setLevels stem count level
  | .level logger => return .ok (.level ((← world).levels.level? logger))
  | .directives => return .ok (.directives (← world).levels.directives)
  | .logTask query => logTask query
  | .metric step => do
    (step.perform : Action Stage Unit)
    return .ok (.metrics (← (Action.metricsJson : Action Stage String)))
  | .metricNames => return .ok (.metricNames (← world).metrics.contents.keys)

end Workbench

end ServiceHost.Scenario
