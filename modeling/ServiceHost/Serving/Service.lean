import ServiceHost.Environment
import ServiceHost.Serving.Connector
import ServiceHost.Serving.Crew

/-!
This module contains a service from its start to its end: the admin side and the managed objects are
started, requests are answered, and when serving ends, the connectors are given some time to come to an end
and the managed objects are stopped.
-/

namespace ServiceHost.Serving

def requestCounter : Metrics.Handle :=
  ⟨"http.requests", .counter⟩

def requestDurations : Metrics.Handle :=
  ⟨"http.request_duration_ms", .histogram⟩

def requestIdHeader : String := "x-request-id"

structure Service (σ : Type) where
  server : BoundServer
  application : Http.Router (Http.Endpoint σ)
  admin : Http.Router (Http.Endpoint σ)
  objects : Lifecycle.Objects σ

/-- A request as it arrives, with what the surroundings decide about it. -/
structure Arrival where
  request : Http.Request
  freshId : String
  /--
  How many nanoseconds it is under way until its endpoint has answered it. Where that is too long, the endpoint
  has not been asked; one that has done something before it is given up is one that never comes back.
  -/
  elapsed : Nat

namespace Arrival

def id (arrival : Arrival) : String :=
  arrival.request.id.getD arrival.freshId

def marked (arrival : Arrival) : Http.Request :=
  { arrival.request with id := some arrival.id }

def isLate (seconds : Nat) (arrival : Arrival) : Bool :=
  seconds ≤ arrival.elapsed / 1000000000

def milliseconds (arrival : Arrival) : Float :=
  let seconds := Float.ofNat (arrival.elapsed / 1000000000)
  let rest := Float.ofNat (arrival.elapsed % 1000000000) / 1000000000
  (seconds + rest) * 1000

end Arrival

inductive Answer where
  | response (response : Http.Response)
  | closed
  | pending
  deriving DecidableEq, Repr

/-- How the time ends that the connectors are given. -/
inductive Drain where
  | inTime
  | late (waiting : Nat)
  deriving DecidableEq, Repr

/-- What a service goes through once it has started. -/
structure Course (σ : Type) where
  signal : Action σ Unit
  events : Service σ → List (Event σ)

variable {σ : Type}

def routerOf (table : Http.RouteTable (Http.Endpoint σ)) : Action σ (Http.Router (Http.Endpoint σ)) :=
  match table.router? with
  | some router => return router
  | none => Action.fail .panicked

def applicationRouter (table : Http.RouteTable (Http.Endpoint σ)) :
    Action σ (Http.Router (Http.Endpoint σ)) := do
  let _ ← Action.metric requestCounter.kind requestCounter.name
  let _ ← Action.metric requestDurations.kind requestDurations.name
  routerOf table

def announce (connector : BoundConnector) : Action σ Unit :=
  let message := match connector.transport with
    | .http => "HTTP connector listening"
    | .https => "HTTPS connector listening"
  Action.log .server .info message [("connector", connector.side.name)]

namespace BoundServer

/-- Starts to serve. The routers are made before any managed object starts. -/
def start (server : BoundServer) (environment : Environment σ) :
    Action σ (Except ServerError (Service σ)) := do
  let (result, _, adminRoutes) ← environment.admin.start (.new server.adminPath)
  match result with
  | .error e => return .error (.admin e)
  | .ok () =>
    let application ← applicationRouter environment.routes
    let admin ← routerOf adminRoutes
    let objects := environment.objects.close
    objects.start
    server.connectors.forM announce
    return .ok ⟨server, application, admin, objects⟩

end BoundServer

def identified (id : String) (response : Http.Response) : Http.Response :=
  match response.header? requestIdHeader with
  | some _ => response
  | none => response.setHeader requestIdHeader id

namespace Service

def track (elapsed : Float) : Action σ Unit := do
  Action.updateMetric requestCounter (.increment 1)
  Action.updateMetric requestDurations (.record elapsed)

def answerApplication (service : Service σ) (arrival : Arrival) : Action σ Answer := do
  let timedOut := Answer.response (identified arrival.id (.empty 408))
  if arrival.isLate service.server.requestTimeout then
    return timedOut
  match ← Action.attempt (service.application.serve arrival.marked) with
  | .ok response =>
    track arrival.milliseconds
    return .response (identified arrival.id response)
  | .error .stalled => return timedOut
  | .error .panicked => return .closed

def answerAdmin (service : Service σ) (arrival : Arrival) : Action σ Answer := do
  match ← Action.attempt (service.admin.serve arrival.request) with
  | .ok response => return .response response
  | .error .stalled => return .pending
  | .error .panicked => return .closed

def answer (service : Service σ) : Side → Arrival → Action σ Answer
  | .application => service.answerApplication
  | .admin => service.answerAdmin

def answerAll (service : Service σ) : List (Side × Arrival) → Action σ (List Answer)
  | [] => return []
  | (side, arrival) :: rest => do
    let answer ← service.answer side arrival
    return answer :: (← service.answerAll rest)

def crew (service : Service σ) : Crew :=
  .spawn service.server.connectors.length

def serveUntil : Crew → List (Event σ) → Action σ (Ending × Crew × List (Event σ))
  | _, [] => Action.fail .stalled
  | crew, event :: rest =>
    match event.ending? crew with
    | some ending => return (ending, event.applyTo crew, rest)
    | none => do
      event.perform
      serveUntil (event.applyTo crew) rest

def conclude (signal : Action σ Unit) : Ending → Action σ (Except ServerError Unit)
  | .shutdown => do
    signal
    Action.log .server .info "Shutdown requested" []
    return .ok ()
  | .connectorReturned => do
    Action.log .server .warn "Connector stopped unexpectedly" []
    return .ok ()
  | .connectorFailed reason => return .error (.connector reason)

/-- Waits until every task has ended, or so many milliseconds are over and time goes on. -/
def drain : Crew → (left : Nat) → List (Event σ) → Action σ Drain
  | crew, left, [] => do
    if crew.running = [] then
      return .inTime
    Action.advance left
    return .late crew.waiting
  | crew, left, event :: rest => do
    if crew.running = [] then
      return .inTime
    if left < event.period then
      Action.advance left
      return .late crew.waiting
    event.perform
    drain (event.applyTo crew) (left - event.period) rest

def close (service : Service σ) (signal : Action σ Unit) (ending : Ending) (crew : Crew)
    (events : List (Event σ)) : Action σ (Except ServerError Unit) := do
  let result ← conclude signal ending
  if let .late waiting ← drain crew.trigger (service.server.shutdownGrace * 1000) events then
    Action.log .server .warn "Connectors did not drain in time"
      [("grace_secs", toString service.server.shutdownGrace), ("remaining", toString waiting)]
  service.objects.stop
  Action.log .server .info "Server stopped" []
  return result

def live (service : Service σ) (course : Course σ) : Action σ (Except ServerError Unit) := do
  let (ending, crew, rest) ← serveUntil service.crew (course.events service)
  service.close course.signal ending crew rest

end Service

def BoundServer.serve (server : BoundServer) (environment : Environment σ)
    (course : Course σ) : Action σ (Except ServerError Unit) := do
  match ← server.start environment with
  | .error e => return .error e
  | .ok service => service.live course

end ServiceHost.Serving
