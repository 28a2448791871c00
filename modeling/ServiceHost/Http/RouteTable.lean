import ServiceHost.Http.Method
import ServiceHost.Http.Path
import ServiceHost.Keyed

/-!
This module contains the tables that routes are bound in. A table accepts one binding for each method
and path, on paths that can be routed literally, and refuses every other one with its reason.
-/

namespace ServiceHost.Http

inductive RouteError where
  | duplicate (method : Method) (path : String)
  | invalidPath (path : String)
  | unsupportedMethod (method : Method)
  deriving DecidableEq, Repr

def RouteError.message : RouteError → String
  | .duplicate method path => "route " ++ method.name ++ " " ++ path ++ " is already bound"
  | .invalidPath path => "invalid route path '" ++ path ++ "'"
  | .unsupportedMethod method => "unsupported method " ++ method.name

/-- The bindings of one path, in the order they were made. -/
structure MethodTable (ε : Type) where
  entries : List (Method × ε)

namespace MethodTable

variable {ε : Type}

def empty : MethodTable ε :=
  ⟨[]⟩

def add (method : Method) (endpoint : ε) (table : MethodTable ε) : MethodTable ε :=
  ⟨table.entries ++ [(method, endpoint)]⟩

def methods (table : MethodTable ε) : List Method :=
  table.entries.map (·.1)

def find? (method : Method) (table : MethodTable ε) : Option ε :=
  table.entries.lookup method

def answering? (method : Method) (table : MethodTable ε) : Option ε :=
  match table.find? method with
  | some endpoint => some endpoint
  | none => if method = .head then table.find? .get else none

def offer (offered : List Method) (method : Method) : List Method :=
  if method ∈ offered then offered else offered ++ [method]

/-- The methods that are answered, in binding order; GET brings HEAD along right behind it. -/
def allowed (table : MethodTable ε) : List Method :=
  table.methods.foldl
    (fun offered method => if method = .get then offer (offer offered .get) .head else offer offered method) []

end MethodTable

structure RouteTable (ε : Type) where
  context : String
  paths : Keyed (MethodTable ε)
  bound : List (Method × String)

namespace RouteTable

variable {ε : Type}

def new (context : String) : RouteTable ε :=
  ⟨Path.normalize context, .empty, []⟩

def methodsAt (path : String) (table : RouteTable ε) : MethodTable ε :=
  (table.paths.find? path).getD .empty

/--
Binds an endpoint. An invalid path is reported before an unsupported method, and that before a pair
that is already bound.
-/
def bind (method : Method) (path : String) (endpoint : ε) (table : RouteTable ε) :
    Except RouteError (RouteTable ε) :=
  if !Path.isRoutable path then
    .error (.invalidPath path)
  else if !method.isRoutable then
    .error (.unsupportedMethod method)
  else if (method, path) ∈ table.bound then
    .error (.duplicate method path)
  else
    .ok
      { table with
        paths := table.paths.insert path ((table.methodsAt path).add method endpoint)
        bound := table.bound ++ [(method, path)] }

def precedes (a b : Method × String) : Bool :=
  decide (a.2 < b.2) || (a.2 == b.2 && decide (a.1.name ≤ b.1.name))

def routes (table : RouteTable ε) : List (Method × String) :=
  table.bound.mergeSort precedes

def publicPath (table : RouteTable ε) (path : String) : String :=
  Path.join table.context path

end RouteTable

end ServiceHost.Http
