import ServiceHost.Decimal.Notation
import ServiceHost.Text.Quoted
import ServiceHost.Toml.Value

/-!
This module contains the reasons why a value does not fit what a configuration expects.
-/

namespace ServiceHost.Toml

inductive Problem where
  | type (found expected : String)
  | value (found expected : String)
  | length (found : Nat) (expected : String)
  | missingField (name : String)
  | unknownVariant (found : String) (known : List String)
  | noVariant
  | notADate
  deriving DecidableEq, Repr

structure Misfit where
  keys : List String
  problem : Problem
  deriving DecidableEq, Repr

def describe : Toml → String
  | .string s => "string " ++ Text.quoted s
  | .integer n => "integer `" ++ toString n ++ "`"
  | .float x => "floating point `" ++ .ofList (Decimal.plainStyle.write x) ++ "`"
  | .boolean b => "boolean `" ++ (if b then "true" else "false") ++ "`"
  | .datetime _ | .table _ => "map"
  | .array _ => "sequence"

namespace Misfit

def here (problem : Problem) : Misfit :=
  ⟨[], problem⟩

def under (key : String) (misfit : Misfit) : Misfit :=
  { misfit with keys := key :: misfit.keys }

def text (misfit : Misfit) : String :=
  match misfit.problem with
  | .type found expected => "invalid type: " ++ found ++ ", expected " ++ expected
  | .value found expected => "invalid value: " ++ found ++ ", expected " ++ expected
  | .length n expected => "invalid length " ++ toString n ++ ", expected " ++ expected
  | .missingField name => "missing field `" ++ name ++ "`"
  | .unknownVariant found known =>
    "unknown variant `" ++ found ++ "`, expected " ++
      " or ".intercalate (known.map fun name => "`" ++ name ++ "`")
  | .noVariant => "wanted string or table"
  | .notADate => "failed to parse datetime"

def message? (misfit : Misfit) : Option String :=
  match misfit.problem with
  | .noVariant | .notADate => none
  | _ => some misfit.text

def report (misfit : Misfit) : String :=
  misfit.text ++ "\n" ++
    if misfit.keys = [] then "" else "in `" ++ ".".intercalate misfit.keys ++ "`\n"

end Misfit

end ServiceHost.Toml
