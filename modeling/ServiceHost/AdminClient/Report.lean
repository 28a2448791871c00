import ServiceHost.AdminClient.Invocation
import ServiceHost.Http.Status
import ServiceHost.Json.Reader
import ServiceHost.Serving.Visit

/-!
This module contains what the client for the admin side prints, and how it ends.
-/

namespace ServiceHost.AdminClient

structure Report where
  code : Nat
  output : String
  errors : Option String
  deriving DecidableEq, Repr

def Report.failed (code : Nat) : Report :=
  ⟨code, "", none⟩

def summaries : List (String × String) :=
  [("ping", "Check that the admin surface answers"),
   ("healthcheck", "Run every health check"),
   ("runtime", "Show scheduler and allocator statistics"),
   ("metrics", "Show all metrics"),
   ("gc", "Return free allocator memory to the operating system"),
   ("log", "Show or change logger levels"),
   ("task", "Run an arbitrary task"),
   ("help", "Print this message or the help of the given subcommand(s)")]

def padded (width : Nat) (text : String) : String :=
  text ++ .ofList (List.replicate (width - text.length) ' ')

def generalHelp : String :=
  "Operator CLI for the gantry admin surface\n\nUsage: gantry-admin [OPTIONS] <COMMAND>\n\nCommands:\n" ++
    String.join (summaries.map fun (name, summary) => "  " ++ padded 11 name ++ "  " ++ summary ++ "\n") ++
    "\nOptions:\n  -u, --url <URL>  Admin base URL, including the admin context path [default: " ++
    defaultBase ++ "]\n  -h, --help       Print help\n"

def argumentHelp (command : String) : String :=
  if command = "log" then
    "[OPTIONS] <LOGGERS>...\n\nArguments:\n" ++
      "  <LOGGERS>...  Logger (tracing target) names; ROOT for the root level\n\nOptions:\n" ++
      "  -l, --level <LEVEL>  New level: ALL, TRACE, DEBUG, INFO, WARN, ERROR or OFF\n" ++
      "  -h, --help           Print help\n"
  else if command = "task" then
    "[OPTIONS] <NAME>\n\nArguments:\n  <NAME>  \n\nOptions:\n" ++
      "  -p, --param <PARAMS>  Query parameters as key=value\n" ++
      "  -h, --help            Print help\n"
  else if command = "help" then
    "[COMMAND]...\n\nArguments:\n  [COMMAND]...  Print help for the subcommand(s)\n"
  else
    "\n\nOptions:\n  -h, --help  Print help\n"

def commandHelp (command : String) : String :=
  let arguments := argumentHelp command
  (summaries.lookup command).getD "" ++ "\n\nUsage: gantry-admin " ++ command ++
    (if arguments.toList.head? = some '\n' then "" else " ") ++ arguments

def Usage.report : Usage → Report
  | .help none => ⟨0, generalHelp, some ""⟩
  | .help (some command) => ⟨0, commandHelp command, some ""⟩
  | .invalid => .failed 2

def textReport (status : Http.Status) (body : String) : Report :=
  if status.isSuccess then
    ⟨0, body, some ""⟩
  else
    ⟨0, "", some ("Error: admin returned status " ++ status.text ++ "\n" ++ body)⟩

def jsonReport (status : Http.Status) (body : String) : Report :=
  if status.isSuccess then
    match Json.parse? body with
    | some value => ⟨0, value.pretty ++ "\n", some ""⟩
    | none => .failed 1
  else
    ⟨0, "", some ("Error: admin returned status " ++ status.text ++ "\nResponse: " ++ body ++ "\n")⟩

def Invocation.report (i : Invocation) (response : Http.Response) : Report :=
  match i with
  | .metrics => jsonReport response.status response.body
  | _ => textReport response.status response.body

def localTarget (address : String) : String :=
  match Http.Uri.parse? address with
  | some uri => { uri with origin := "" }.text
  | none => ""

def Invocation.visit (base : String) (i : Invocation) : Serving.Visit where
  side := .admin
  connector := 0
  method := i.method.name
  target := localTarget (i.target base)
  body := ""
  id := none
  waits := true
  freshId := ""
  elapsed := 0

def run {σ : Type} (service : Serving.Service σ) (arguments : List String) : Action σ Report := do
  match readLine none arguments with
  | .error usage => return usage.report
  | .ok (base, invocation) =>
    match ← service.receive (invocation.visit base) with
    | .answered (.response response) => return invocation.report response
    | _ => return .failed 1

end ServiceHost.AdminClient
