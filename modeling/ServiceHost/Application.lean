import ServiceHost.Command.Server

/-!
This module contains applications and how they are run: the first argument selects a command, and
without a match the list of commands is printed instead.
-/

namespace ServiceHost

structure Application (σ : Type) where
  name : String
  steps : List (InitStep σ)
  setUp : SetupHook σ

namespace Application

variable {σ : Type}

def bare (app : Application σ) (arguments : List String) (session : Session σ)
    (commands : List (Command.Definition σ)) : Bootstrap σ :=
  ⟨⟨app.name, app.setUp, arguments, [], .files, session⟩, commands⟩

def commands : List (Command.Definition σ) :=
  [Command.server, Command.check]

def bootstrap (app : Application σ) (arguments : List String) (session : Session σ) :
    Action σ (Bootstrap σ) :=
  (app.bare arguments session commands).takeAll app.steps

def run (app : Application σ) (arguments : List String) (session : Session σ) :
    Action σ (Except RunError Unit) := do
  let b ← app.bootstrap arguments session
  match b.selected? with
  | some command => command.run b.launch
  | none =>
    Action.print b.catalogue
    return .ok ()

end Application

end ServiceHost
