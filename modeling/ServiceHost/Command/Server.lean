import ServiceHost.Command.Check

/-!
This module contains the command that runs a service. Nothing is bound before every bundle and the
application have done their setup.
-/

namespace ServiceHost.Command

variable {σ : Type}

def setLoggers : List (String × String) → Action σ Unit
  | [] => return ()
  | (logger, text) :: rest => do
    if let some level := Log.Level.ofName? text then
      let _ ← Action.setLevel logger level
    setLoggers rest

/-- Makes levels with a filter of their own, which is put in force unless there is one already. -/
def installLevels (root : Log.Level) : Action σ Unit := do
  if (← get).filter.isNone then
    Action.change fun world =>
      { world with levels := .new root, filter := some (.ofRoot root), wiring := .attached }
  else
    Action.change fun world => { world with levels := .new root, wiring := .severed }
    Action.log .levels .debug "Global subscriber already installed"
      [("error", "a global default trace dispatcher has already been set")]

def configureLog (c : Config.Logging) : Action σ Unit := do
  installLevels ((Log.Level.ofName? c.level).getD .info)
  setLoggers c.loggers.entries
  Action.applyLevels

def publishProcess : Action σ Unit := do
  let host := (← get).host
  Action.publishMetric "cmdline" fun _ => .ok (.array (host.process.arguments.map .string))
  Action.publishMetric "memstats" fun _ => .ok host.memoryJson

def setUp (launch : Launch σ) (c : Configuration) : Setup σ (Except RunError Unit) := do
  match ← launch.runBundles c with
  | .error e => return .error e
  | .ok () => launch.runApplication c

def opening (launch : Launch σ) (c : Configuration) : Action σ (Environment σ) := do
  configureLog c.logging
  Action.log .serverCommand .info "Starting"
    [("application", launch.application), ("version", version)]
  Action.change fun world => { world with metrics := .empty }
  publishProcess
  let ((), environment) ← (Setup.reportMetrics c.metrics).run (.new c)
  return environment

def prepare (launch : Launch σ) (c : Configuration) :
    Action σ (Except RunError (Serving.BoundServer × Environment σ)) := do
  let (result, environment) ← (setUp launch c).run (← opening launch c)
  match result with
  | .error e => return .error e
  | .ok () =>
    match ← Serving.bind c.server with
    | .error e => return .error (.server e)
    | .ok server => return .ok (server, environment)

def courseOf (session : Session σ) : Serving.Course σ where
  signal := Action.log .signals .info ("Received " ++ session.signal.name) []
  events := session.events

def runServer (launch : Launch σ) (c : Configuration) : Action σ (Except RunError Unit) := do
  match ← prepare launch c with
  | .error e => return .error e
  | .ok (server, environment) =>
    match ← server.serve environment (courseOf launch.session) with
    | .error e => return .error (.server e)
    | .ok () => return .ok ()

def server : Definition σ where
  name := "server"
  description := "Runs the application as an HTTP server"
  run launch := do
    match ← configuration launch with
    | .error e => return .error e
    | .ok c => runServer launch c

end ServiceHost.Command
