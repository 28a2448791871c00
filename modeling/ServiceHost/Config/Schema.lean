import ServiceHost.Toml.Decode

/-!
This module contains the configuration of a service and how it is read from a document. Everything has a
default; tables that the service itself does not know are kept for the application.
-/

namespace ServiceHost

namespace Config

inductive Transport where
  | http
  | https
  deriving DecidableEq, Repr

def Transport.names : List (String × Transport) :=
  [("http", .http), ("https", .https)]

structure Connector where
  transport : Transport
  address : String
  certificate : Option String
  privateKey : Option String
  deriving DecidableEq, Repr

def Connector.http (address : String) : Connector :=
  ⟨.http, address, none, none⟩

structure Server where
  applicationConnectors : List Connector
  adminConnectors : List Connector
  applicationPath : String
  adminPath : String
  requestTimeout : Nat
  shutdownGrace : Nat
  deriving DecidableEq, Repr

def Server.default : Server :=
  ⟨[.http "0.0.0.0:8080"], [.http "127.0.0.1:8081"], "/", "/", 30, 10⟩

inductive LogFormat where
  | text
  | json
  deriving DecidableEq, Repr

def LogFormat.names : List (String × LogFormat) :=
  [("text", .text), ("json", .json)]

/-- The levels of the log. They are texts here; whether they name levels is checked later. -/
structure Logging where
  level : String
  format : LogFormat
  loggers : Keyed String
  deriving DecidableEq, Repr

def Logging.default : Logging :=
  ⟨"INFO", .text, .empty⟩

structure Metrics where
  frequency : Nat
  deriving DecidableEq, Repr

def Metrics.default : Metrics :=
  ⟨0⟩

end Config

structure Configuration where
  server : Config.Server
  logging : Config.Logging
  metrics : Config.Metrics
  /-- The sections of the application, in the order of the document. -/
  sections : List (String × Toml)

namespace Config

structure ConnectorDraft where
  transport : Transport
  address : Option String
  certificate : Option String
  privateKey : Option String

def connectorFields : List (Toml.Field ConnectorDraft) :=
  [.of "type" (.variant Transport.names) fun x c => { c with transport := x },
   .of "bind_address" .string fun x c => { c with address := some x },
   .of "cert_path" (.optional .string) fun x c => { c with certificate := x },
   .of "key_path" (.optional .string) fun x c => { c with privateKey := x }]

def connectorForm : Toml.RecordForm ConnectorDraft where
  expected := "struct ConnectorConfig"
  fields := connectorFields
  lacking c := if c.address.isSome then none else some (.length 1 "struct ConnectorConfig with 4 elements")
  missing c := if c.address.isSome then none else some (.missingField "bind_address")

def connector : Toml.Decoder Connector := fun value =>
  (connectorForm.decode false ⟨.http, none, none, none⟩ value).map fun c =>
    ⟨c.transport, c.address.getD "", c.certificate, c.privateKey⟩

def serverForm : Toml.RecordForm Server :=
  .lenient "struct ServerConfig"
    [.of "application_connectors" (.list connector) fun x s => { s with applicationConnectors := x },
     .of "admin_connectors" (.list connector) fun x s => { s with adminConnectors := x },
     .of "application_context_path" .string fun x s => { s with applicationPath := x },
     .of "admin_context_path" .string fun x s => { s with adminPath := x },
     .of "request_timeout_secs" .natural fun x s => { s with requestTimeout := x },
     .of "shutdown_grace_secs" .natural fun x s => { s with shutdownGrace := x }]

def loggingForm : Toml.RecordForm Logging :=
  .lenient "struct LoggingConfig"
    [.of "level" .string fun x l => { l with level := x },
     .of "format" (.variant LogFormat.names) fun x l => { l with format := x },
     .of "loggers" (.keyed .string) fun x l => { l with loggers := x }]

def metricsForm : Toml.RecordForm Metrics :=
  .lenient "struct MetricsConfig" [.of "frequency_secs" .natural fun x m => { m with frequency := x }]

end Config

namespace Configuration

def default : Configuration :=
  ⟨.default, .default, .default, []⟩

def readEntry (c : Configuration) (entry : String × Toml) : Except Toml.Misfit Configuration :=
  let (key, value) := entry
  if key = "server" then
    (Config.serverForm.decode false .default value).map fun server => { c with server }
  else if key = "logging" then
    (Config.loggingForm.decode false .default value).map fun logging => { c with logging }
  else if key = "metrics" then
    (Config.metricsForm.decode false .default value).map fun metrics => { c with metrics }
  else
    .ok { c with sections := c.sections ++ [(key, value)] }

def readSections (c : Configuration) : Except Toml.Misfit Configuration := do
  let sections ← c.sections.mapM fun (name, value) => do
    return (name, ← Toml.unrestricted "1 element in map" value)
  return { c with sections }

/--
The configuration of the entries of a document. What is wrong with the service's own tables counts before
what is wrong with the application's.
-/
def ofEntries (entries : List (String × Toml)) : Except Toml.Misfit Configuration := do
  (← entries.foldlM readEntry default).readSections

def section? {α : Type} (c : Configuration) (name : String) (decode : Toml.Decoder α) :
    Except Toml.Misfit (Option α) :=
  match c.sections.lookup name with
  | none => .ok none
  | some value => (decode value.plain).map some

end Configuration

end ServiceHost
