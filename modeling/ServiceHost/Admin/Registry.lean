import ServiceHost.Admin.Task
import ServiceHost.Admin.View

/-!
This module contains the admin side of a service: its pages, its tasks and its health checks. They are
collected until the service starts; then each of them gets a route, and registration is closed.
-/

namespace ServiceHost.Admin

inductive AdminError where
  | duplicatePath (path : String)
  | reservedPath (path : String)
  | invalidPath (path : String)
  | duplicateTask (name : String)
  | invalidTaskName (name : String)
  | alreadyStarted
  | route (e : Http.RouteError)
  deriving DecidableEq, Repr

def AdminError.message : AdminError → String
  | .duplicatePath path => "admin path '" ++ path ++ "' is already registered"
  | .reservedPath path => "admin path '" ++ path ++ "' is reserved"
  | .invalidPath path => "admin path '" ++ path ++ "' must be an absolute path without parameters"
  | .duplicateTask name => "task '" ++ name ++ "' is already registered"
  | .invalidTaskName name => "invalid task name '" ++ name ++ "'"
  | .alreadyStarted => "admin registry is closed after startup"
  | .route e => e.message

structure Registry (σ : Type) where
  views : List (View σ)
  tasks : List (Task σ)
  checks : Health.Registry σ
  started : Bool

def cacheControl : String := "must-revalidate,no-cache,no-store"

def noChecksBanner : String :=
  "\n!!!!!!!!!!!!!!!!!!!!!!!!!!!!!!!!!!!!!!!!!!!!!!!\n" ++
    "!    THIS APPLICATION HAS NO HEALTHCHECKS.    !\n" ++
    "!!!!!!!!!!!!!!!!!!!!!!!!!!!!!!!!!!!!!!!!!!!!!!!\n"

def uncached (response : Http.Response) : Http.Response :=
  response.setHeader "cache-control" cacheControl

namespace Registry

variable {σ : Type}

def new : Registry σ :=
  ⟨View.builtIn, [.gc, .log], .empty, false⟩

def addView (view : View σ) (registry : Registry σ) : Except AdminError (Registry σ) :=
  if registry.started then
    .error .alreadyStarted
  else if view.path = Http.Path.root then
    .error (.reservedPath view.path)
  else if !Http.Path.isRoutable view.path then
    .error (.invalidPath view.path)
  else if view.path ∈ registry.views.map (·.path) then
    .error (.duplicatePath view.path)
  else
    .ok { registry with views := registry.views ++ [view] }

def isTaskName (name : String) : Bool :=
  name != "" && !name.toList.contains '/' && Http.Path.isRoutable (Task.pathOf name)

def addTask (task : Task σ) (registry : Registry σ) : Except AdminError (Registry σ) :=
  if registry.started then
    .error .alreadyStarted
  else if !isTaskName task.name then
    .error (.invalidTaskName task.name)
  else if task.name ∈ registry.tasks.map (·.name) then
    .error (.duplicateTask task.name)
  else
    .ok { registry with tasks := registry.tasks ++ [task] }

def addCheck (check : Health.Check σ) (registry : Registry σ) :
    Except Health.RegistrationError (Registry σ) :=
  (registry.checks.register check).map fun checks => { registry with checks }

def close (registry : Registry σ) : Registry σ :=
  { registry with started := true, checks := registry.checks.freeze }

def viewEndpoint (registry : Registry σ) (view : View σ) : Http.Endpoint σ := fun request => do
  return uncached (← view.serve registry.checks request)

def taskEndpoint (task : Task σ) : Http.Endpoint σ := fun request => do
  return uncached (← Action.recover (task.respond request) task.panicked)

def indexEndpoint (registry : Registry σ) (context : String) : Http.Endpoint σ := fun _ =>
  return uncached (.html 200 (View.indexPage context registry.views))

def bindings (registry : Registry σ) (context : String) :
    List (Http.Method × String × Http.Endpoint σ) :=
  (.get, Http.Path.root, registry.indexEndpoint context) ::
    registry.views.map (fun view => (.get, view.path, registry.viewEndpoint view)) ++
    registry.tasks.map fun task => (.post, Task.pathOf task.name, taskEndpoint task)

def attach (table : Http.RouteTable (Http.Endpoint σ)) :
    List (Http.Method × String × Http.Endpoint σ) →
      Action σ (Except Http.RouteError Unit × Http.RouteTable (Http.Endpoint σ))
  | [] => return (.ok (), table)
  | (method, path, endpoint) :: rest => do
    match ← table.attach method path endpoint with
    | (.ok (), table) => attach table rest
    | refused => return refused

def taskListing (registry : Registry σ) (context : String) : String :=
  String.join (registry.tasks.map fun task =>
    "    POST    " ++ Http.Path.join context (Task.pathOf task.name) ++ "\n")

def announce (registry : Registry σ) (context : String) : Action σ Unit := do
  Action.log .admin .info ("tasks =\n\n" ++ registry.taskListing context) []
  if registry.checks.names = [] then
    Action.log .admin .warn noChecksBanner []
  Action.log .admin .debug "health checks" [("names", Text.quotedList registry.checks.names)]

/-- Starts the admin side on a route table. Registration is closed whatever comes of it. -/
def start (registry : Registry σ) (table : Http.RouteTable (Http.Endpoint σ)) :
    Action σ (Except AdminError Unit × Registry σ × Http.RouteTable (Http.Endpoint σ)) := do
  let closed := registry.close
  match ← attach table (closed.bindings table.context) with
  | (.error e, table) => return (.error (.route e), closed, table)
  | (.ok (), table) =>
    closed.announce table.context
    return (.ok (), closed, table)

end Registry

end ServiceHost.Admin
