import ServiceHost.Http.Endpoint

/-!
This module contains resources: a path with up to five verbs, which answer with JSON values. A verb that
a resource does not implement is answered all the same.
-/

namespace ServiceHost.Http

inductive RestError where
  | methodNotAllowed
  | badRequest (message : String)
  | notFound (message : String)
  | internal (message : String)
  deriving DecidableEq, Repr

namespace RestError

def status : RestError → Status
  | .methodNotAllowed => 405
  | .badRequest _ => 400
  | .notFound _ => 404
  | .internal _ => 500

def message : RestError → String
  | .methodNotAllowed => "method not allowed"
  | .badRequest message => "bad request: " ++ message
  | .notFound message => "not found: " ++ message
  | .internal message => "internal error: " ++ message

def response (e : RestError) : Response :=
  .json e.status (Json.object [("error", .string e.message)]).compact

def answer {σ : Type} (e : RestError) : Action σ Response := do
  if let .internal cause := e then
    Action.log .resources .error "Resource failed" [("error", cause)]
  return e.response

end RestError

inductive Verb where
  | get | post | put | delete | head
  deriving DecidableEq, Repr

namespace Verb

def every : List Verb :=
  [.get, .post, .put, .delete, .head]

def method : Verb → Method
  | .get => .get
  | .post => .post
  | .put => .put
  | .delete => .delete
  | .head => .head

end Verb

structure Resource (σ : Type) where
  path : String
  implementation : Verb → Option (Request → Action σ (Except RestError Json))

namespace Resource

variable {σ : Type}

def endpoint (resource : Resource σ) (verb : Verb) : Endpoint σ := fun request => do
  let result ← match resource.implementation verb with
    | some answer => answer request
    | none => pure (.error .methodNotAllowed)
  match result with
  | .ok value => return .json 200 value.compact
  | .error e => e.answer

def attachVerbs (resource : Resource σ) (table : RouteTable (Endpoint σ)) :
    List Verb → Action σ (Except RouteError Unit × RouteTable (Endpoint σ))
  | [] => return (.ok (), table)
  | verb :: verbs => do
    match ← table.attach verb.method resource.path (resource.endpoint verb) with
    | (.ok (), table) => resource.attachVerbs table verbs
    | refused => return refused

def attach (resource : Resource σ) (table : RouteTable (Endpoint σ)) :
    Action σ (Except RouteError Unit × RouteTable (Endpoint σ)) :=
  resource.attachVerbs table Verb.every

end Resource

end ServiceHost.Http
