import ServiceHost.Config.Schema
import ServiceHost.Http.Path
import ServiceHost.Log.Level
import ServiceHost.Log.Levels
import ServiceHost.Net.SocketAddress

/-!
This module contains the checks that a configuration has to pass before it is used. All of them are
made, and all that is wrong is reported.
-/

namespace ServiceHost.Config

inductive Violation where
  | invalidAddress (address : String)
  | missingCredentials (address : String)
  | invalidPath (path : String)
  | unknownLevel (logger level : String)
  deriving DecidableEq, Repr

def Violation.message : Violation → String
  | .invalidAddress address => "connector address '" ++ address ++ "' is not a valid socket address"
  | .missingCredentials address => "https connector '" ++ address ++ "' requires cert_path and key_path"
  | .invalidPath path => "context path '" ++ path ++ "' must be an absolute path without parameters"
  | .unknownLevel logger level => "unknown log level '" ++ level ++ "' for logger '" ++ logger ++ "'"

def Connector.hasAddress (c : Connector) : Bool :=
  (SocketAddress.parse? c.address).isSome

def Connector.hasCredentials (c : Connector) : Bool :=
  c.transport != .https || (c.certificate.isSome && c.privateKey.isSome)

def Connector.violations (c : Connector) : List Violation :=
  (if c.hasAddress then [] else [.invalidAddress c.address]) ++
    (if c.hasCredentials then [] else [.missingCredentials c.address])

def isContextPath (path : String) : Bool :=
  path.toList.head? == some '/' && Http.Path.isRoutable (Http.Path.normalize path)

def pathViolations (path : String) : List Violation :=
  if isContextPath path then [] else [.invalidPath path]

def levelViolations (logger level : String) : List Violation :=
  if (Log.Level.ofName? level).isSome then [] else [.unknownLevel logger level]

end Config

namespace Configuration

def violations (c : Configuration) : List Config.Violation :=
  (c.server.applicationConnectors ++ c.server.adminConnectors).flatMap (·.violations) ++
    Config.pathViolations c.server.applicationPath ++ Config.pathViolations c.server.adminPath ++
    Config.levelViolations Log.rootLogger c.logging.level ++
    c.logging.loggers.entries.flatMap fun (logger, level) => Config.levelViolations logger level

end Configuration

end ServiceHost
