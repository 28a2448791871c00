/-!
This module contains the levels that loggers can be set to.
-/

namespace ServiceHost.Log

/-- The level of a logger; `all` and `trace` let the same events through. -/
inductive Level where
  | all | trace | debug | info | warn | error | off
  deriving DecidableEq, Repr

namespace Level

def every : List Level :=
  [.all, .trace, .debug, .info, .warn, .error, .off]

def name : Level → String
  | .all => "ALL"
  | .trace => "TRACE"
  | .debug => "DEBUG"
  | .info => "INFO"
  | .warn => "WARN"
  | .error => "ERROR"
  | .off => "OFF"

def directive : Level → String
  | .all | .trace => "trace"
  | .debug => "debug"
  | .info => "info"
  | .warn => "warn"
  | .error => "error"
  | .off => "off"

def sameWord (a b : String) : Bool :=
  a.toList.map Char.toLower == b.toList.map Char.toLower

def ofName? (text : String) : Option Level :=
  every.find? fun level => sameWord text level.name

def unknownMessage (text : String) : String :=
  "unsupported log level '" ++ text ++ "'"

def rank : Level → Nat
  | .all | .trace => 0
  | .debug => 1
  | .info => 2
  | .warn => 3
  | .error => 4
  | .off => 5

end Level

end ServiceHost.Log
