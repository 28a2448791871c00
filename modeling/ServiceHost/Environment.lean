import ServiceHost.Admin.Registry
import ServiceHost.Config.Schema
import ServiceHost.Http.Resource
import ServiceHost.Metrics.Reporter

/-!
This module contains what the parts of an application register into before the service starts: routes,
the admin side, and managed objects. Metrics and log levels belong to the running service itself.
-/

namespace ServiceHost

structure Environment (σ : Type) where
  routes : Http.RouteTable (Http.Endpoint σ)
  admin : Admin.Registry σ
  objects : Lifecycle.Objects σ

abbrev Setup (σ : Type) := StateT (Environment σ) (Action σ)

abbrev SetupHook (σ : Type) := Configuration → Setup σ (Except String Unit)

def Environment.new {σ : Type} (c : Configuration) : Environment σ :=
  ⟨.new c.server.applicationPath, .new, .empty⟩

namespace Setup

variable {σ : Type}

def route (method : Http.Method) (path : String) (endpoint : Http.Endpoint σ) :
    Setup σ (Except Http.RouteError Unit) := fun environment => do
  let (result, routes) ← environment.routes.attach method path endpoint
  return (result, { environment with routes })

def resource (resource : Http.Resource σ) : Setup σ (Except Http.RouteError Unit) := fun environment => do
  let (result, routes) ← resource.attach environment.routes
  return (result, { environment with routes })

def view (view : Admin.View σ) : Setup σ (Except Admin.AdminError Unit) := fun environment =>
  match environment.admin.addView view with
  | .ok admin => return (.ok (), { environment with admin })
  | .error e => return (.error e, environment)

def task (task : Admin.Task σ) : Setup σ (Except Admin.AdminError Unit) := fun environment =>
  match environment.admin.addTask task with
  | .ok admin => return (.ok (), { environment with admin })
  | .error e => return (.error e, environment)

def check (check : Health.Check σ) : Setup σ (Except Health.RegistrationError Unit) := fun environment =>
  match environment.admin.addCheck check with
  | .ok admin => return (.ok (), { environment with admin })
  | .error e => return (.error e, environment)

def manage (object : Lifecycle.Managed σ) : Setup σ (Except String Unit) := fun environment => do
  match environment.objects.add? object with
  | none => return (.error (Lifecycle.lateMessage object.name), environment)
  | some objects =>
    Action.log .lifecycle .debug "Managed object registered" [("name", object.name)]
    return (.ok (), { environment with objects })

def reportMetrics (m : Config.Metrics) : Setup σ Unit := do
  if m.frequency ≠ 0 then
    let reporter := Metrics.Reporter.managed (← get).objects.objects.length (m.frequency * 1000)
    if let .error message ← manage reporter then
      (Action.log .metrics .warn "Metrics reporter not registered" [("error", message)] : Action σ Unit)

end Setup

end ServiceHost
