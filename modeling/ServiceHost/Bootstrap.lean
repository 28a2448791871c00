import ServiceHost.Command.Arguments
import ServiceHost.Config.Source
import ServiceHost.Environment
import ServiceHost.Serving.Service

/-!
This module contains what is known before a command runs: the application, its bundles, the commands and
the source of the configuration. A bundle is initialized as soon as it is added, and what it adds by that
comes before the bundle itself.
-/

namespace ServiceHost

inductive RunError where
  | config (e : ConfigError)
  | setup (message : String)
  | admin (e : Admin.AdminError)
  | server (e : Serving.ServerError)
  | arguments (e : Command.UsageError)
  deriving Repr

def RunError.message? : RunError → Option String
  | .config (.misfit m) => m.message?
  | .config e => e.message?.map ("configuration error: " ++ ·)
  | .setup message => some message
  | .admin e => some ("admin error: " ++ e.message)
  | .server e => e.message?.map ("server error: " ++ ·)
  | .arguments _ => none

abbrev ConfigSource (σ : Type) := Option String → Action σ (Except ConfigError Configuration)

def ConfigSource.files {σ : Type} : ConfigSource σ := fun path => do
  return Configuration.loadOrDefault path (← get).host.files

inductive Signal where
  | interrupt
  | terminate
  deriving DecidableEq, Repr

def Signal.name : Signal → String
  | .interrupt => "SIGINT"
  | .terminate => "SIGTERM"

structure Session (σ : Type) where
  events : Serving.Service σ → List (Serving.Event σ)
  signal : Signal

structure Launch (σ : Type) where
  application : String
  run : SetupHook σ
  arguments : List String
  bundles : List (SetupHook σ)
  source : ConfigSource σ
  session : Session σ

structure Command.Definition (σ : Type) where
  name : String
  description : String
  run : Launch σ → Action σ (Except RunError Unit)

structure Bootstrap (σ : Type) where
  launch : Launch σ
  commands : List (Command.Definition σ)

inductive InitStep (σ : Type) where
  | perform (action : Action σ Unit)
  | bundle (steps : List (InitStep σ)) (run : SetupHook σ)
  | command (command : Command.Definition σ)
  | source (source : ConfigSource σ)

namespace Bootstrap

variable {σ : Type}

def addBundle (run : SetupHook σ) (b : Bootstrap σ) : Bootstrap σ :=
  { b with launch := { b.launch with bundles := b.launch.bundles ++ [run] } }

def addCommand (command : Command.Definition σ) (b : Bootstrap σ) : Bootstrap σ :=
  { b with commands := b.commands ++ [command] }

def setSource (source : ConfigSource σ) (b : Bootstrap σ) : Bootstrap σ :=
  { b with launch := { b.launch with source } }

mutual

def take (b : Bootstrap σ) : InitStep σ → Action σ (Bootstrap σ)
  | .perform action => do
    action
    return b
  | .bundle steps run => do
    return (← takeAll b steps).addBundle run
  | .command command => return b.addCommand command
  | .source source => return b.setSource source

def takeAll (b : Bootstrap σ) : List (InitStep σ) → Action σ (Bootstrap σ)
  | [] => return b
  | step :: rest => do
    takeAll (← take b step) rest

end

def selected? (b : Bootstrap σ) : Option (Command.Definition σ) :=
  match b.launch.arguments with
  | [] => none
  | name :: _ => b.commands.find? (·.name = name)

def catalogue (b : Bootstrap σ) : String :=
  "Available commands:\n" ++ String.join (b.commands.map fun command =>
    "    " ++ command.name ++ "\t" ++ command.description ++ "\n")

end Bootstrap

namespace Launch

variable {σ : Type}

def runHooks (c : Configuration) : List (SetupHook σ) → Setup σ (Except RunError Unit)
  | [] => return .ok ()
  | hook :: rest => do
    match ← hook c with
    | .error message => return .error (.setup message)
    | .ok () => runHooks c rest

def runBundles (launch : Launch σ) (c : Configuration) : Setup σ (Except RunError Unit) :=
  runHooks c launch.bundles

def runApplication (launch : Launch σ) (c : Configuration) : Setup σ (Except RunError Unit) :=
  runHooks c [launch.run]

end Launch

end ServiceHost
