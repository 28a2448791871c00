import ServiceHost.Http.Request
import ServiceHost.Http.Response
import ServiceHost.Http.Router
import ServiceHost.World

/-!
This module contains endpoints, and how a router passes requests to them.
-/

namespace ServiceHost.Http

abbrev Endpoint (σ : Type) := Request → Action σ Response

variable {σ : Type}

def delivered (method : Method) (response : Response) : Response :=
  if method = .head ∨ (method = .connect ∧ response.status.isSuccess) then
    response.withoutBody
  else
    response

def refusal (allowed : List Method) : Response :=
  (Response.empty 405).setHeader "allow" (",".intercalate (allowed.map (·.name)))

def Router.serve (router : Router (Endpoint σ)) (request : Request) : Action σ Response := do
  match router.dispatch request.method request.uri.path with
  | .notFound => return .empty 404
  | .methodNotAllowed allowed => return refusal allowed
  | .endpoint endpoint =>
    let response ← endpoint { request with uri := router.view request.uri }
    return delivered request.method response

/-- Binds an endpoint and reports its public path; what is refused leaves the table as it is. -/
def RouteTable.attach (method : Method) (path : String) (endpoint : Endpoint σ)
    (table : RouteTable (Endpoint σ)) : Action σ (Except RouteError Unit × RouteTable (Endpoint σ)) := do
  match table.bind method path endpoint with
  | .error e => return (.error e, table)
  | .ok bound =>
    Action.log .routes .debug "Route bound" [("method", method.name), ("path", table.publicPath path)]
    return (.ok (), bound)

end ServiceHost.Http
