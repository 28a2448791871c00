import ServiceHost.Application
import ServiceHost.Scenario.SetupStep

/-!
This module contains scripted applications: everything that they are asked to do is written down.
-/

namespace ServiceHost.Scenario

def scriptedHook (name : String) (steps : List SetupStep) : SetupHook Stage := fun c => do
  (note ("run " ++ name) : Action Stage Unit)
  SetupStep.performAll c steps

def scriptedStart (name : String) (added : List (InitStep Stage)) : List (InitStep Stage) :=
  .perform (note ("init " ++ name)) :: added

def scriptedBundle (name : String) (added : List (InitStep Stage)) (steps : List SetupStep) :
    InitStep Stage :=
  .bundle (scriptedStart name added) (scriptedHook name steps)

def scriptedCommand (name description : String) (failure : Option RunError) :
    Command.Definition Stage where
  name := name
  description := description
  run launch := do
    let arguments := (Json.array (launch.arguments.map .string)).compact
    note ("command " ++ name ++ " " ++ arguments)
    match failure with
    | some e => return .error e
    | none => return .ok ()

def scriptedSource (document : Option String) : ConfigSource Stage := fun path => do
  let shown := match path with
    | some path => Json.string path
    | none => .null
  note ("build " ++ shown.compact)
  match document with
  | some document => return Configuration.parse document
  | none => return .ok .default

def scriptedApplication (name : String) (added : List (InitStep Stage)) (steps : List SetupStep) :
    Application Stage where
  name := name
  steps := scriptedStart "app" added
  setUp := scriptedHook "app" steps

def plainApplication (steps : List SetupStep) : Application Stage where
  name := "plain"
  steps := []
  setUp := scriptedHook "app" steps

end ServiceHost.Scenario
