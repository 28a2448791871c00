import ServiceHost.Text.Split

/-!
This module contains the arguments of the commands that take one optional file. Everything behind a
double hyphen counts as a file.
-/

namespace ServiceHost.Command

inductive UsageError where
  | unknownArgument
  | invalidValue
  | tooManyValues
  | helpRequested
  deriving DecidableEq, Repr

structure Scan where
  file : Option String
  literal : Bool
  deriving DecidableEq, Repr

inductive Argument where
  | file (path : String)
  | doubleHyphen
  | help (valued : Bool)
  | unknown
  deriving DecidableEq, Repr

def Argument.ofText (text : String) : Argument :=
  match text.toList with
  | ['-', '-'] => .doubleHyphen
  | '-' :: '-' :: option =>
    let (name, value) := match Text.cut? '=' option with
      | some (name, value) => (name, some value)
      | none => (option, none)
    if name = "help".toList then .help value.isSome else .unknown
  | '-' :: 'h' :: _ => .help false
  | '-' :: _ :: _ => .unknown
  | _ => .file text

def Scan.checked (scan : Scan) : Except UsageError (Option String) :=
  if scan.file = some "" then .error .invalidValue else .ok scan.file

def Scan.takeFile (scan : Scan) (path : String) : Except UsageError Scan :=
  if scan.file.isSome then .error .unknownArgument else .ok { scan with file := some path }

def Scan.next (scan : Scan) (text : String) : Except UsageError Scan :=
  match if scan.literal then .file text else Argument.ofText text with
  | .file path => scan.takeFile path
  | .doubleHyphen => .ok { scan with literal := true }
  | .unknown => .error .unknownArgument
  | .help true => .error .tooManyValues
  | .help false => do
    let _ ← scan.checked
    .error .helpRequested

def fileArgument (arguments : List String) : Except UsageError (Option String) := do
  (← arguments.foldlM Scan.next ⟨none, false⟩).checked

end ServiceHost.Command
