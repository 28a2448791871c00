import ServiceHost.AdminClient.Report
import ServiceHost.Scenario.Script

/-!
This module contains rehearsals: runs of scripted applications that are taken apart into acts, with what
was done and reported in each of them.
-/

namespace ServiceHost.Scenario

structure Act (α : Type) where
  result : Except Fault α
  events : List String
  journal : List Entry

def play {α : Type} (action : Action Stage α) : StateM (World Stage) (Act α) := fun world =>
  let fresh := { world with journal := [], state := { world.state with events := [] } }
  let (result, world) := action.exec fresh
  (⟨result, world.state.events, world.journal⟩, world)

def playSetup {α : Type} (environment : Environment Stage) (hook : Setup Stage (Except RunError α)) :
    StateM (World Stage) (Act (Except RunError α) × Environment Stage) := do
  let act ← play (hook.run environment)
  match act.result with
  | .ok (result, environment) => return (⟨.ok result, act.events, act.journal⟩, environment)
  | .error fault => return (⟨.error fault, act.events, act.journal⟩, environment)

def quiet (signal : Signal) : Session Stage :=
  ⟨fun service => .shutdown :: service.farewell [], signal⟩

structure Inventory where
  environment : Environment Stage
  world : World Stage

structure SetupActs where
  bundles : Act (Except RunError Unit)
  application : Act (Except RunError Unit)
  inventory : Inventory

structure BootstrapActs where
  bootstrap : Act (Bootstrap Stage)
  command : Option (Act (Except RunError Unit))
  source : Option (Act (Except ConfigError Configuration))
  setup : Option SetupActs
  output : String

def fresh (c : Configuration) (world : World Stage) : World Stage :=
  { world with
    levels := configuredLevels c, filter := none, wiring := .detached, metrics := .empty, tickers := [] }

def rehearseSetup (launch : Launch Stage) (c : Configuration) : StateM (World Stage) SetupActs := do
  modify (fresh c)
  let (bundles, environment) ← playSetup (.new c) (launch.runBundles c)
  let (application, environment) ← playSetup environment (launch.runApplication c)
  return ⟨bundles, application, environment, ← get⟩

def rehearseLaunch (act : Act (Bootstrap Stage)) (b : Bootstrap Stage) :
    StateM (World Stage) BootstrapActs := do
  let command ← match b.selected? with
    | some command => some <$> play (command.run b.launch)
    | none => pure none
  let source ← play (b.launch.source none)
  let setup ← match source.result with
    | .ok (.ok c) => some <$> rehearseSetup b.launch c
    | _ => pure none
  return ⟨act, command, some source, setup, (← get).output⟩

def rehearseBootstrap (app : Application Stage) (arguments : List String) :
    StateM (World Stage) BootstrapActs := do
  let act ← play ((app.bare arguments (quiet .terminate) []).takeAll app.steps)
  match act.result with
  | .ok b => rehearseLaunch act b
  | .error _ => return ⟨act, none, none, none, (← get).output⟩

inductive ServiceStep where
  | visit (visit : Serving.Visit)
  | directives
  | client (arguments : List String) (tail : String)

inductive ServiceShown where
  | outcome (outcome : Serving.Outcome)
  | directives (text : String)
  | report (report : AdminClient.Report)

def adminBase (service : Serving.Service Stage) : String :=
  let path := Http.Path.normalize service.server.adminPath
  "http://127.0.0.1:8081" ++ if path = Http.Path.root then "" else path

def ServiceStep.perform (service : Serving.Service Stage) : ServiceStep → Action Stage ServiceShown
  | .visit v => return .outcome (← service.receive v)
  | .directives => return .directives (← get).levels.directives
  | .client arguments tail =>
    return .report (← AdminClient.run service ("--url" :: (adminBase service ++ tail) :: arguments))

def performSteps (service : Serving.Service Stage) : List ServiceStep → Action Stage (List ServiceShown)
  | [] => return []
  | step :: rest => do
    let shown ← step.perform service
    return shown :: (← performSteps service rest)

def busyAfter (server : Serving.BoundServer) (steps : List ServiceStep) (shown : List ServiceShown) : List Nat :=
  (steps.zip shown).filterMap fun
    | (.visit v, .outcome (.answered .pending)) => some (server.position v.side v.connector)
    | _ => none

structure ServiceActs where
  server : Serving.BoundServer
  directives : String
  prepared : Act Unit
  steps : List ServiceShown
  stopped : Act (Except Serving.ServerError Unit)

def serveSteps (server : Serving.BoundServer) (environment : Environment Stage)
    (steps : List ServiceStep) : Action Stage (List ServiceShown × Except Serving.ServerError Unit) := do
  match ← server.start environment with
  | .error e => return ([], .error e)
  | .ok service =>
    let shown ← performSteps service steps
    let farewell := service.farewell (busyAfter server steps shown)
    return (shown, ← service.close (return ()) .shutdown service.crew farewell)

def rehearseService (app : Application Stage) (c : Configuration) (steps : List ServiceStep) :
    StateM (World Stage) (Except (Act (Except RunError Unit)) ServiceActs) := do
  let preparing : Action Stage (Except RunError (Serving.BoundServer × Environment Stage)) := do
    let b ← app.bootstrap [] (quiet .terminate)
    Command.prepare b.launch c
  let prepared ← play preparing
  match prepared.result with
  | .error fault => return .error ⟨.error fault, prepared.events, prepared.journal⟩
  | .ok (.error e) => return .error ⟨.ok (.error e), prepared.events, prepared.journal⟩
  | .ok (.ok (server, environment)) =>
    let directives := (← get).levels.directives
    let act ← play (serveSteps server environment steps)
    let (shown, result) := match act.result with
      | .ok (shown, result) => (shown, .ok result)
      | .error fault => ([], .error fault)
    return .ok
      ⟨server, directives, ⟨.ok (), prepared.events, prepared.journal⟩, shown,
       ⟨result, act.events, act.journal⟩⟩

end ServiceHost.Scenario
