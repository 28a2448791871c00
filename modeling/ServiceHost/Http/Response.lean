import ServiceHost.Http.Status

/-!
This module contains responses: a status, headers and a body.
-/

namespace ServiceHost.Http

/-- A response. Header names are in lower case; a name may occur several times. -/
structure Response where
  status : Status
  headers : List (String × String)
  body : String
  deriving DecidableEq, Repr

namespace Response

def headerValues (name : String) (response : Response) : List String :=
  (response.headers.filter (·.1 = name)).map (·.2)

def header? (name : String) (response : Response) : Option String :=
  response.headers.lookup name

def setHeader (name value : String) (response : Response) : Response :=
  { response with headers := response.headers.filter (·.1 ≠ name) ++ [(name, value)] }

def withoutBody (response : Response) : Response :=
  { response with body := "" }

def empty (status : Status) : Response :=
  ⟨status, [], ""⟩

def ofBody (status : Status) (contentType body : String) : Response :=
  ⟨status, [("content-type", contentType)], body⟩

def text (status : Status) (body : String) : Response :=
  ofBody status "text/plain" body

def json (status : Status) (body : String) : Response :=
  ofBody status "application/json" body

def html (status : Status) (body : String) : Response :=
  ofBody status "text/html" body

end Response

end ServiceHost.Http
