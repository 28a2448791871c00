import ServiceHost.Form
import ServiceHost.Http.Endpoint

/-!
This module contains the tasks that an operator can run, and the two that every service has: one returns
memory to the operating system, the other shows and sets log levels.
-/

namespace ServiceHost.Admin

structure Params where
  pairs : List (String × String)
  deriving DecidableEq, Repr

namespace Params

def ofQuery (query : Option String) : Params :=
  ⟨(query.map Form.decode).getD []⟩

def all (key : String) (params : Params) : List String :=
  (params.pairs.filter (·.1 = key)).map (·.2)

def first? (key : String) (params : Params) : Option String :=
  params.pairs.lookup key

end Params

structure TaskError where
  status : Http.Status
  message : String
  deriving DecidableEq, Repr

namespace TaskError

def badRequest (message : String) : TaskError :=
  ⟨400, message⟩

def internal (message : String) : TaskError :=
  ⟨500, message⟩

def text (e : TaskError) : String :=
  e.status.text ++ ": " ++ e.message

end TaskError

structure Task (σ : Type) where
  name : String
  execute : Params → Action σ (Except TaskError String)

namespace Task

variable {σ : Type}

def root : String := "/tasks"

def pathOf (name : String) : String :=
  root ++ "/" ++ name

def panicked (task : Task σ) : Action σ Http.Response := do
  Action.log .tasks .error "Task panicked" [("task", task.name)]
  return .text 500 "Task failed\n"

def respond (task : Task σ) (request : Http.Request) : Action σ Http.Response := do
  match ← task.execute (.ofQuery request.uri.query) with
  | .ok body => return .text 200 body
  | .error e =>
    Action.log .tasks .debug "Task rejected" [("task", task.name), ("status", e.status.text)]
    return .text e.status e.message

def gc : Task σ where
  name := "gc"
  execute _ := do
    let code := (← get).host.allocator.purgeCode
    if code = 0 then
      Action.change fun world => { world with host := world.host.purged }
      return .ok "Running GC...\nDone!\n"
    let reason := "purge failed with code " ++ toString code
    return .error (.internal ("Running GC...\n" ++ Allocator.refusal reason ++ "\n"))

def setLevels (level : Log.Level) : List String → Action σ Unit
  | [] => return ()
  | logger :: rest => do
    if ← Action.setLevel logger level then
      Action.log .tasks .info "Log level changed" [("logger", logger), ("level", level.name)]
    setLevels level rest

def levelLines (levels : Log.Levels) (loggers : List String) : String :=
  String.join (loggers.filterMap fun logger =>
    (levels.level? logger).map fun level => logger ++ ": " ++ level.name ++ "\n")

def changeLevels (loggers : List String) : Option String → Action σ (Except TaskError Unit)
  | none => return .ok ()
  | some text =>
    if text = "" then
      return .ok ()
    else
      match Log.Level.ofName? text with
      | none => return .error (.badRequest "Level is not supported")
      | some level => do
        setLevels level loggers
        return .ok ()

def log : Task σ where
  name := "log"
  execute params := do
    let loggers := params.all "logger"
    if loggers = [] then
      return .ok ""
    match ← changeLevels loggers (params.first? "level") with
    | .error e => return .error e
    | .ok () => return .ok (levelLines (← get).levels loggers)

end Task

end ServiceHost.Admin
