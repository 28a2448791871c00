import ServiceHost.Form
import ServiceHost.Http.Method
import ServiceHost.Text.Split

/-!
This module contains the command line of the client for the admin side: which request a line of
arguments asks for. Every command stands for one request.
-/

namespace ServiceHost.AdminClient

inductive Invocation where
  | ping
  | healthcheck
  | runtime
  | metrics
  | gc
  | log (loggers : List String) (level : Option String)
  | task (name : String) (parameters : List String)
  deriving DecidableEq, Repr

inductive Usage where
  | help (topic : Option String)
  | invalid
  deriving DecidableEq, Repr

/-- The arguments of a command: an option that takes a value, and names. -/
structure Grammar where
  option : Option (String × Char)
  repeatable : Bool
  most : Option Nat

structure Reading where
  values : List String
  names : List String
  deriving DecidableEq, Repr

namespace Grammar

def takeName (g : Grammar) (r : Reading) (name : String) : Except Usage Reading :=
  if g.most.any (· ≤ r.names.length) then .error .invalid
  else .ok { r with names := r.names ++ [name] }

def takeValue (g : Grammar) (r : Reading) (value : List Char) : Except Usage Reading :=
  if r.values ≠ [] ∧ !g.repeatable then .error .invalid
  else .ok { r with values := r.values ++ [.ofList value] }

inductive Kind where
  | doubleHyphen
  | help
  | unknown
  | name
  | option
  | value (value : List Char)
  deriving DecidableEq, Repr

def attached : List Char → Kind
  | [] => .option
  | '=' :: value => .value value
  | value => .value value

def kindOf (g : Grammar) (text : String) : Kind :=
  match text.toList with
  | ['-', '-'] => .doubleHyphen
  | '-' :: '-' :: long =>
    let (name, value) := match Text.cut? '=' long with
      | some (name, value) => (name, Kind.value value)
      | none => (long, Kind.option)
    if g.option.any (·.1.toList = name) then value
    else if long = "help".toList then .help
    else .unknown
  | '-' :: short :: rest =>
    if g.option.any (·.2 = short) then attached rest
    else if short = 'h' then .help
    else .unknown
  | _ => .name

def isValue (text : String) : Bool :=
  text = "-" || text.toList.head? != some '-'

def read (g : Grammar) (topic : Option String) (r : Reading) : List String → Except Usage Reading
  | [] => .ok r
  | text :: rest =>
    match g.kindOf text, rest with
    | .doubleHyphen, rest => rest.foldlM g.takeName r
    | .help, _ => .error (.help topic)
    | .unknown, _ => .error .invalid
    | .name, rest => do g.read topic (← g.takeName r text) rest
    | .value value, rest => do g.read topic (← g.takeValue r value) rest
    | .option, [] => .error .invalid
    | .option, value :: rest =>
      if isValue value then do g.read topic (← g.takeValue r value.toList) rest
      else .error .invalid

end Grammar

def plainCommands : List (String × Invocation) :=
  [("ping", .ping), ("healthcheck", .healthcheck), ("runtime", .runtime), ("metrics", .metrics),
   ("gc", .gc)]

def plainGrammar : Grammar := ⟨none, false, some 0⟩

def logGrammar : Grammar := ⟨some ("level", 'l'), false, none⟩

def taskGrammar : Grammar := ⟨some ("param", 'p'), true, some 1⟩

def commandNames : List String :=
  plainCommands.map (·.1) ++ ["log", "task", "help"]

def readLog (arguments : List String) : Except Usage Invocation := do
  let r ← logGrammar.read (some "log") ⟨[], []⟩ arguments
  if r.names = [] then .error .invalid else .ok (.log r.names r.values.head?)

def readTask (arguments : List String) : Except Usage Invocation := do
  let r ← taskGrammar.read (some "task") ⟨[], []⟩ arguments
  match r.names with
  | [name] => .ok (.task name r.values)
  | _ => .error .invalid

def readHelp : List String → Except Usage Invocation
  | [] => .error (.help none)
  | [topic] => .error (if topic ∈ commandNames then .help (some topic) else .invalid)
  | _ => .error .invalid

def readCommand (command : String) (arguments : List String) : Except Usage Invocation :=
  if command = "log" then readLog arguments
  else if command = "task" then readTask arguments
  else if command = "help" then readHelp arguments
  else
    match plainCommands.lookup command with
    | some invocation => do
      let _ ← plainGrammar.read (some command) ⟨[], []⟩ arguments
      return invocation
    | none => .error .invalid

def baseGrammar : Grammar := ⟨some ("url", 'u'), false, none⟩

def defaultBase : String := "http://127.0.0.1:8081"

def readLine (base : Option String) : List String → Except Usage (String × Invocation)
  | [] => .error .invalid
  | text :: rest =>
    if text ∈ commandNames then do
      return (base.getD defaultBase, ← readCommand text rest)
    else
      match baseGrammar.kindOf text, rest with
      | .help, _ => .error (.help none)
      | .value value, rest =>
        if base.isSome then .error .invalid else readLine (some (.ofList value)) rest
      | .option, value :: rest =>
        if base.isSome || !Grammar.isValue value then .error .invalid else readLine (some value) rest
      | _, _ => .error .invalid

namespace Invocation

def method : Invocation → Http.Method
  | .ping | .healthcheck | .runtime | .metrics => .get
  | .gc | .log .. | .task .. => .post

def path : Invocation → String
  | .ping => "/ping"
  | .healthcheck => "/healthcheck"
  | .runtime => "/runtime"
  | .metrics => "/metrics"
  | .gc => "/tasks/gc"
  | .log .. => "/tasks/log"
  | .task name _ => "/tasks/" ++ name

def parameter (text : String) : String × String :=
  let (key, value) := Text.cut '=' text.toList
  (.ofList key, .ofList value)

def pairs : Invocation → List (String × String)
  | .log loggers level => loggers.map ("logger", ·) ++ (level.map ("level", ·)).toList
  | .task _ parameters => parameters.map parameter
  | _ => []

def query (i : Invocation) : Option String :=
  if i.pairs = [] then none else some (Form.encode i.pairs)

def trimEnd (base : String) : String :=
  .ofList (base.toList.reverse.dropWhile (· == '/')).reverse

/-- The address of the request. The pairs stand behind a query that is there already, and a fragment is dropped. -/
def target (base : String) (i : Invocation) : String :=
  let address := (Text.cut '#' (trimEnd base ++ i.path).toList).1
  let (front, present) := Text.cut '?' address
  let queries := [present, (i.query.map String.toList).getD []].filter (· ≠ [])
  .ofList (front ++ if queries = [] then [] else '?' :: Text.join ['&'] queries)

end Invocation

end ServiceHost.AdminClient
