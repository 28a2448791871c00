import ServiceHost.Admin.Registry
import ServiceHost.Config.Schema
import ServiceHost.Host
import ServiceHost.Text.Quoted

/-!
This module contains connectors and how they are bound: those of the application first, then those of
the admin side, up to the first that cannot be bound.
-/

namespace ServiceHost.Serving

inductive Side where
  | application
  | admin
  deriving DecidableEq, Repr

def Side.name : Side → String
  | .application => "application"
  | .admin => "admin"

inductive BindFailure where
  | invalidAddress
  | refused (reason : String)
  deriving DecidableEq, Repr

def BindFailure.message : BindFailure → String
  | .invalidAddress => "invalid socket address syntax"
  | .refused reason => reason

inductive CredentialFailure where
  | notNamed
  | noCertificate (path : String)
  | noPrivateKey (path : String)
  | unusable
  deriving DecidableEq, Repr

def CredentialFailure.message? : CredentialFailure → Option String
  | .notNamed => some "cert_path and key_path are required"
  | .noCertificate path => some ("Certificate file not found: " ++ Text.quoted path)
  | .noPrivateKey path => some ("Private key file not found: " ++ Text.quoted path)
  | .unusable => none

inductive ServerError where
  | bind (address : String) (reason : BindFailure)
  | credentials (address : String) (reason : CredentialFailure)
  | connector (reason : String)
  | admin (e : Admin.AdminError)
  deriving DecidableEq, Repr

def ServerError.message? : ServerError → Option String
  | .bind address reason => some ("failed to bind " ++ address ++ ": " ++ reason.message)
  | .credentials address reason =>
    reason.message?.map fun text => "failed to load TLS material for " ++ address ++ ": " ++ text
  | .connector reason => some ("connector failed: " ++ reason)
  | .admin e => some e.message

structure BoundConnector where
  side : Side
  transport : Config.Transport
  address : SocketAddress
  deriving DecidableEq, Repr

def isPair (host : Host) : FileEntry → FileEntry → Bool
  | .file certificate, .file privateKey => host.acceptsPair certificate privateKey
  | _, _ => false

def loadCredentials (host : Host) (certificate privateKey : String) : Except CredentialFailure Unit :=
  match host.files.resolve certificate, host.files.resolve privateKey with
  | .error _, _ => .error (.noCertificate certificate)
  | .ok _, .error _ => .error (.noPrivateKey privateKey)
  | .ok a, .ok b => if isPair host a b then .ok () else .error .unusable

def prepareTransport (host : Host) (c : Config.Connector) : Except CredentialFailure Unit :=
  match c.transport with
  | .http => .ok ()
  | .https =>
    match c.certificate, c.privateKey with
    | some certificate, some privateKey => loadCredentials host certificate privateKey
    | _, _ => .error .notNamed

def bindConnector (host : Host) (taken : List SocketAddress) (side : Side) (c : Config.Connector) :
    Except ServerError BoundConnector :=
  match SocketAddress.parse? c.address with
  | none => .error (.bind c.address .invalidAddress)
  | some address =>
    match prepareTransport host c with
    | .error reason => .error (.credentials c.address reason)
    | .ok () =>
      match host.network.listen taken address with
      | .error reason => .error (.bind c.address (.refused reason))
      | .ok () => .ok ⟨side, c.transport, address⟩

variable {σ : Type}

def openConnector (taken : List SocketAddress) (side : Side) (c : Config.Connector) :
    Action σ (Except ServerError BoundConnector) := do
  match bindConnector (← get).host taken side c with
  | .error e => return .error e
  | .ok connector =>
    Action.listen connector.address
    return .ok connector

def bindConnectors (bound : List BoundConnector) :
    List (Side × Config.Connector) → Action σ (Except ServerError (List BoundConnector))
  | [] => return .ok bound
  | (side, c) :: rest => do
    match ← openConnector (bound.map (·.address)) side c with
    | .error e => return .error e
    | .ok connector => bindConnectors (bound ++ [connector]) rest

/-- A server whose connectors are bound; the times are in seconds. -/
structure BoundServer where
  connectors : List BoundConnector
  adminPath : String
  requestTimeout : Nat
  shutdownGrace : Nat
  deriving DecidableEq, Repr

def connectorsOf (c : Config.Server) : List (Side × Config.Connector) :=
  c.applicationConnectors.map (.application, ·) ++ c.adminConnectors.map (.admin, ·)

def bind (c : Config.Server) : Action σ (Except ServerError BoundServer) := do
  match ← bindConnectors [] (connectorsOf c) with
  | .error e => return .error e
  | .ok connectors => return .ok ⟨connectors, c.adminPath, c.requestTimeout, c.shutdownGrace⟩

def BoundServer.on (side : Side) (server : BoundServer) : List BoundConnector :=
  server.connectors.filter (·.side = side)

end ServiceHost.Serving
