/-!
This module contains the ways in which code supplied by an application can fail to answer at all.
-/

namespace ServiceHost

inductive Fault where
  | panicked
  | stalled
  deriving DecidableEq, Repr

end ServiceHost
