import ServiceHost.Serving.Service

/-!
This module contains visits: requests that clients send to a service over the network, as far as the
network lets them through.
-/

namespace ServiceHost.Serving

structure Visit where
  side : Side
  connector : Nat
  method : String
  target : String
  body : String
  id : Option String
  waits : Bool
  freshId : String
  elapsed : Nat

inductive Outcome where
  | noConnector
  | badRequest
  | refused
  | sent
  | answered (answer : Answer)
  deriving DecidableEq, Repr

def Visit.request? (visit : Visit) : Option Http.Request := do
  let method ← Http.Method.ofName? visit.method
  let uri ← Http.Uri.parse? visit.target
  return ⟨method, uri, visit.body, visit.id⟩

def Service.receive {σ : Type} (service : Service σ) (visit : Visit) : Action σ Outcome := do
  if (service.server.on visit.side).length ≤ visit.connector then
    return .noConnector
  match visit.request? with
  | none => return .badRequest
  | some request =>
    if !(← get).host.network.connects then
      return .refused
    let answer ← service.answer visit.side ⟨request, visit.freshId, visit.elapsed⟩
    return if visit.waits then .answered answer else .sent

def BoundServer.position (side : Side) (connector : Nat) (server : BoundServer) : Nat :=
  match side with
  | .application => connector
  | .admin => (server.on .application).length + connector

def Service.farewell {σ : Type} (service : Service σ) (busy : List Nat) : List (Event σ) :=
  (List.range service.server.connectors.length).flatMap fun connector =>
    .notice connector :: if connector ∈ busy then [] else [.finish connector (.ok ())]

end ServiceHost.Serving
