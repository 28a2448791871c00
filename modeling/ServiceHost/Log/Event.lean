import ServiceHost.Log.Level

/-!
This module contains log events and the parts of the service that write them.
-/

namespace ServiceHost.Log

inductive Severity where
  | debug | info | warn | error
  deriving DecidableEq, Repr

def Severity.level : Severity → Level
  | .debug => .debug
  | .info => .info
  | .warn => .warn
  | .error => .error

inductive Source where
  | application | admin | tasks | serverCommand | health | routes | resources | server
  | lifecycle | signals | levels | metrics
  deriving DecidableEq, Repr

def Source.target : Source → String
  | .application => "gantry"
  | .admin => "gantry::admin"
  | .tasks => "gantry::admin::tasks"
  | .serverCommand => "gantry::command::server"
  | .health => "gantry::health::registry"
  | .routes => "gantry::http::handler"
  | .resources => "gantry::http::rest"
  | .server => "gantry::http::server"
  | .lifecycle => "gantry::lifecycle::managed"
  | .signals => "gantry::lifecycle::signals"
  | .levels => "gantry::observability::logging"
  | .metrics => "gantry::observability::metrics"

structure Event where
  source : Source
  severity : Severity
  message : String
  fields : List (String × String)
  deriving DecidableEq, Repr

end ServiceHost.Log
