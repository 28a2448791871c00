import ServiceHost.Health
import ServiceHost.Http.Endpoint

/-!
This module contains the read-only pages of the admin side: the metrics, a ping, the figures of the
process, the health checks, and an index of all of them.
-/

namespace ServiceHost.Admin

/-- A page of the admin side. The health checks are known only when it is served. -/
structure View (σ : Type) where
  name : String
  path : String
  serve : Health.Registry σ → Http.Endpoint σ

namespace View

variable {σ : Type}

def metrics : View σ where
  name := "Metrics"
  path := "/metrics"
  serve _ _ := do return .json 200 (← Action.metricsJson)

def ping : View σ where
  name := "Ping"
  path := "/ping"
  serve _ _ := return .text 200 "pong\n"

def runtime : View σ where
  name := "Runtime"
  path := "/runtime"
  serve _ _ := do return .text 200 (← get).host.report

def healthBlock (entry : String × Health.Result) : String :=
  let (name, result) := entry
  let message := result.message.filter (· ≠ "")
  name ++ ":\n\tHealthy: " ++ (if result.healthy then "true" else "false") ++ "\n" ++
    (message.map fun m => "\tMessage: " ++ m ++ "\n").getD "" ++
    (result.cause.map fun c => "\tCause: " ++ c ++ "\n").getD ""

def healthResponse (results : Keyed Health.Result) : Http.Response :=
  if results.entries = [] then
    .text 501 "No health checks registered."
  else
    .text (if Health.allHealthy results then 200 else 500) (String.join (results.map healthBlock))

def healthcheck : View σ where
  name := "Healthcheck"
  path := "/healthcheck"
  serve checks _ := do return healthResponse (← checks.run)

def builtIn : List (View σ) :=
  [metrics, ping, runtime, healthcheck]

def link (context : String) (view : View σ) : String :=
  "<li><a href=\"" ++ Http.Path.join context view.path ++ "\">" ++ view.name ++ "</a></li>"

def indexPage (context : String) (views : List (View σ)) : String :=
  "<!DOCTYPE html>\n<html>\n<head>\n\t<title>Operational Menu</title>\n</head>\n<body>\n" ++
    "\t<h1>Operational Menu</h1>\n\t<ul>" ++ String.join (views.map (link context)) ++
    "</ul>\n</body>\n</html>\n"

end View

end ServiceHost.Admin
