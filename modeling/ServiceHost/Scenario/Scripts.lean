import ServiceHost.Environment
import ServiceHost.Scenario.Stage

/-!
This module contains scripted endpoints, tasks, probes, resources and managed objects, which answer as
they are told.
-/

namespace ServiceHost.Scenario

inductive Reply where
  | text (status : Http.Status) (body : String)
  | html (status : Http.Status) (body : String)
  | json (status : Http.Status) (value : Json)
  | echo (status : Http.Status)
  | cached (body : String)
  | panic
  | hang

namespace Reply

def echoText (request : Http.Request) : String :=
  request.method.name ++ " " ++ request.uri.text ++ " [" ++ request.body ++ "]"

def endpoint (reply : Reply) : Http.Endpoint Stage := fun request =>
  match reply with
  | .text status body => return .text status body
  | .html status body => return .html status body
  | .json status value => return .json status value.compact
  | .echo status => return .text status (echoText request)
  | .cached body =>
    return (Http.Response.ofBody 200 "text/plain; charset=utf-8" body).setHeader "cache-control" "max-age=60"
  | .panic => Action.fail .panicked
  | .hang => Action.fail .stalled

end Reply

def scriptedView (name path : String) (reply : Reply) : Admin.View Stage :=
  ⟨name, path, fun _ => reply.endpoint⟩

inductive TaskResult where
  | body (text : String)
  | rejected (e : Admin.TaskError)
  | panic
  | parameter (name : String)

def parameterText (name : String) (params : Admin.Params) : String :=
  let first := match params.first? name with
    | some value => Json.string value
    | none => .null
  (Json.array [first, .array ((params.all name).map .string)]).compact

def scriptedTask (name : String) (result : TaskResult) : Admin.Task Stage where
  name := name
  execute params :=
    match result with
    | .body text => return .ok text
    | .rejected e => return .error e
    | .panic => Action.fail .panicked
    | .parameter name => return .ok (parameterText name params)

abbrev ProbeScript := List Health.Completion

def ProbeScript.at (script : ProbeScript) (n : Nat) : Health.Completion :=
  match script[n]? with
  | some completion => completion
  | none => script.getLast?.getD ⟨0, .ok .ok⟩

def scriptedCheck (name : String) (script : ProbeScript) : Health.Check Stage where
  name := name
  probe world :=
    let n := (world.state.probed.find? name).getD 0
    let state := { world.state with probed := world.state.probed.insert name (n + 1) }
    (script.at n, { world with state })

def scriptedResource (path : String) (results : Option (List (Http.Verb × Except Http.RestError Json))) :
    Http.Resource Stage where
  path := path
  implementation verb := results.map fun results _ => return (results.lookup verb).getD (.ok .null)

def hookResult : Option String → Except String Unit
  | some message => .error message
  | none => .ok ()

def scriptedObject (name : String) (startFailure stopFailure : Option String) :
    Lifecycle.Managed Stage where
  name := name
  start := do
    note ("start " ++ name)
    return hookResult startFailure
  stop := do
    note ("stop " ++ name)
    return hookResult stopFailure

end ServiceHost.Scenario
