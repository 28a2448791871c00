import ServiceHost.Bootstrap

/-!
This module contains the command that checks a configuration without using it.
-/

namespace ServiceHost.Command

variable {σ : Type}

def configuration (launch : Launch σ) : Action σ (Except RunError Configuration) := do
  match fileArgument (launch.arguments.drop 1) with
  | .error e => return .error (.arguments e)
  | .ok path =>
    match ← launch.source path with
    | .error e => return .error (.config e)
    | .ok c => return .ok c

def check : Definition σ where
  name := "check"
  description := "Parses and validates the configuration file"
  run launch := do
    match ← configuration launch with
    | .error e => return .error e
    | .ok _ =>
      Action.print "Configuration is OK\n"
      return .ok ()

end ServiceHost.Command
