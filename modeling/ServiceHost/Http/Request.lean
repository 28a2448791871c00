import ServiceHost.Http.Method
import ServiceHost.Http.Uri

/-!
This module contains requests as routers and endpoints see them.
-/

namespace ServiceHost.Http

structure Request where
  method : Method
  uri : Uri
  body : String
  id : Option String
  deriving DecidableEq, Repr

end ServiceHost.Http
