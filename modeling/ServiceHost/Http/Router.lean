import ServiceHost.Http.Pattern
import ServiceHost.Http.RouteTable
import ServiceHost.Http.Uri

/-!
This module contains routers: what a route table becomes when it starts to serve. A path matches as it
is written, without any decoding. A table whose patterns cannot be read is unusable, and so is one with a
segment of the context path that starts with `:` or `*` or captures all that is left.
-/

namespace ServiceHost.Http

namespace ContextSegment

def isForbidden (segment : List Char) : Bool :=
  segment.head? = some ':' || segment.head? = some '*' ||
    (segment.take 2 = ['\x7b', '*'] && segment.getLast? = some '\x7d' &&
      segment.reverse.take 2 ≠ ['\x7d', '\x7d'])

def isCapture (segment : List Char) : Bool :=
  segment.head? = some '\x7b' && segment.getLast? = some '\x7d' &&
    segment.take 2 ≠ ['\x7b', '\x7b'] && segment.reverse.take 2 ≠ ['\x7d', '\x7d'] &&
    segment.take 2 ≠ ['\x7b', '*']

/--
What remains of the pieces of a path behind the segments of a context path. Segments other than captures
have to stand in the path as they are written in the context path; an empty one may be left out, and then
nothing behind it is taken away.
-/
def below? : List (List Char) → List (List Char) → Option (List (List Char))
  | [], pieces => some pieces
  | _ :: _, [] => none
  | segment :: segments, piece :: pieces =>
    if isCapture segment || segment == piece then below? segments pieces
    else if segment.isEmpty then some (piece :: pieces)
    else none

end ContextSegment

structure Router (ε : Type) where
  context : List (List Char)
  routes : List (Pattern × MethodTable ε)

inductive Target (ε : Type) where
  | endpoint (endpoint : ε)
  | methodNotAllowed (allowed : List Method)
  | notFound

namespace Router

variable {ε : Type}

def methodsAt? (router : Router ε) (path : List Char) : Option (MethodTable ε) :=
  (router.routes.find? fun route => route.1.accepts path).map (·.2)

def dispatch (router : Router ε) (method : Method) (path : String) : Target ε :=
  match router.methodsAt? path.toList with
  | none => .notFound
  | some table =>
    match table.answering? method with
    | some endpoint => .endpoint endpoint
    | none => .methodNotAllowed table.allowed

def relative? (router : Router ε) (path : List Char) : Option (List Char) :=
  match path with
  | '/' :: rest =>
    (ContextSegment.below? router.context (Text.pieces '/' rest)).map fun pieces =>
      let below := Text.join ['/'] pieces
      if below.head? = some '/' then below else '/' :: below
  | _ => none

def view (router : Router ε) (uri : Uri) : Uri :=
  match router.context with
  | [] => uri
  | _ =>
    match router.relative? uri.path.toList with
    | some relative => { uri with path := .ofList relative }
    | none => uri

end Router

namespace RouteTable

variable {ε : Type}

def contextSegments (table : RouteTable ε) : List (List Char) :=
  if table.context = Path.root then [] else Text.pieces '/' (table.context.toList.drop 1)

def servedPath (table : RouteTable ε) (path : String) : String :=
  if path = Path.root then table.context else table.publicPath path

/--
The router of a table; `none` when the table cannot be served, because of its context path, of a pattern
that is none, or of a method that is bound twice to one path. A path has to be a pattern by itself as well as
below the context path: a brace that the context path leaves open is never closed by a path.
-/
def router? (table : RouteTable ε) : Option (Router ε) := do
  if table.contextSegments.any ContextSegment.isForbidden then
    none
  let routes ← table.paths.entries.mapM fun (path, methods) =>
    if methods.methods.Nodup ∧ (Pattern.ofText? path.toList).isSome then
      (Pattern.ofText? (table.servedPath path).toList).map fun pattern => (pattern, methods)
    else
      none
  return ⟨table.contextSegments, routes⟩

end RouteTable

end ServiceHost.Http
