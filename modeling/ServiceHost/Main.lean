import ServiceHost.Demo

/-!
This module contains the command line of the demo. It reads the configuration file that the arguments name
and, for the server, the visits that the lines of the standard input ask for; what the run printed, what
came of the visits and the log follow on the standard output.
-/

namespace ServiceHost.Demo

def machine (arguments : List String) : Host where
  files := ⟨[], []⟩
  process := ⟨arguments, 1, 1, 1, 0, ⟨0, 0, 0, 0, 0, 0, 0⟩, none⟩
  network := { owns _ := true, connects := true }

def visitOf (line : String) : Serving.Visit :=
  let (side, rest) := Text.cut ' ' (line.toList.filter (· != '\n'))
  let (method, rest) := Text.cut ' ' rest
  let (target, body) := Text.cut ' ' rest
  { side := if String.ofList side = Serving.Side.admin.name then .admin else .application
    connector := 0
    method := .ofList method
    target := .ofList target
    body := .ofList body
    id := none
    waits := true
    freshId := ""
    elapsed := 0 }

def outcomeLine : Serving.Outcome → String
  | .noConnector => "no connector\n"
  | .badRequest => "bad request\n"
  | .refused => "refused\n"
  | .sent => "sent\n"
  | .answered .closed => "closed\n"
  | .answered .pending => "pending\n"
  | .answered (.response response) => toString response.status ++ " " ++ response.body ++ "\n"

def readErrorOf : IO.Error → ReadError
  | .inappropriateType _ 21 _ => .isDirectory
  | .inappropriateType .. => .notDirectory
  | .invalidArgument _ 36 _ => .nameTooLong
  | _ => .notFound

def loadConfiguration (path : String) : IO (Except ConfigError Configuration) := do
  try
    let bytes ← IO.FS.readBinFile path
    match Utf8.decode? bytes.toList with
    | some document => return Configuration.parse (.ofList document)
    | none => return .error (.unreadable path .notUtf8)
  catch e => return .error (.unreadable path (readErrorOf e))

def sourceOf (arguments : List String) : IO (ConfigSource State) := do
  match Command.fileArgument (arguments.drop 1) with
  | .ok (some path) =>
    let loaded ← loadConfiguration path
    return fun _ => return loaded
  | _ => return .files

def runMain (arguments : List String) : IO Bool := do
  let source ← sourceOf arguments
  let serves := arguments.head? = some (Command.server : Command.Definition State).name
  let lines ← if serves then (← IO.getStdin).lines else pure #[]
  let visits := (lines.toList.filter (· != "")).map visitOf
  let app := { application with steps := application.steps ++ [InitStep.source source] }
  let world := World.new (machine arguments) (.new .info) State.new
  let (result, world) := (app.run arguments (session visits .terminate)).exec world
  IO.print world.output
  world.state.outcomes.forM fun outcome => IO.print (outcomeLine outcome)
  (logLines world.journal).forM fun line => IO.eprintln line
  match result with
  | .ok (.ok ()) => return true
  | .ok (.error e) =>
    IO.eprintln ("Error: " ++ e.message?.getD "the run failed")
    return false
  | .error _ => return false

end ServiceHost.Demo

def main (arguments : List String) : IO UInt32 := do
  return if ← ServiceHost.Demo.runMain arguments then 0 else 1
