import ServiceHost.Config.Validation
import ServiceHost.Host
import ServiceHost.Toml.Document

/-!
This module contains the ways to a configuration: from a document, from a file, or, without either, the
defaults. Only configurations without violations are handed out.
-/

namespace ServiceHost

inductive ConfigError where
  | unreadable (path : String) (reason : ReadError)
  | syntactic
  | misfit (misfit : Toml.Misfit)
  | invalid (violations : List Config.Violation)
  deriving Repr

namespace ConfigError

def message? : ConfigError → Option String
  | .unreadable path reason => some ("failed to read " ++ path ++ ": " ++ reason.message)
  | .syntactic => none
  | .misfit m => m.message?
  | .invalid violations =>
    some ("validation failed: " ++ ", ".intercalate (violations.map (·.message)))

end ConfigError

namespace Configuration

def validated (c : Configuration) : Except ConfigError Configuration :=
  if c.violations = [] then .ok c else .error (.invalid c.violations)

def read (document : String) : Except ConfigError Configuration :=
  match Toml.parse? document with
  | none => .error .syntactic
  | some entries =>
    match ofEntries entries with
    | .error misfit => .error (.misfit misfit)
    | .ok c => .ok c

def parse (document : String) : Except ConfigError Configuration := do
  (← read document).validated

def load (path : String) (files : Files) : Except ConfigError Configuration :=
  match files.readText path with
  | .error reason => .error (.unreadable path reason)
  | .ok document => parse document

def loadOrDefault (path : Option String) (files : Files) : Except ConfigError Configuration :=
  match path with
  | some path => load path files
  | none => default.validated

end Configuration

end ServiceHost
