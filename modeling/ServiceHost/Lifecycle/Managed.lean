import ServiceHost.World

/-!
This module contains managed objects, which live as long as the service serves. They are started in
the order of registration and stopped in the reverse one; one that fails is reported and does not keep
the others from their turn.
-/

namespace ServiceHost.Lifecycle

structure Managed (σ : Type) where
  name : String
  start : Action σ (Except String Unit)
  stop : Action σ (Except String Unit)

def lateMessage (name : String) : String :=
  "managed object '" ++ name ++ "' registered after startup"

structure Objects (σ : Type) where
  objects : List (Managed σ)
  started : Bool

namespace Objects

variable {σ : Type}

def empty : Objects σ :=
  ⟨[], false⟩

def add? (object : Managed σ) (objects : Objects σ) : Option (Objects σ) :=
  if objects.started then
    none
  else
    some { objects with objects := objects.objects ++ [object] }

def close (objects : Objects σ) : Objects σ :=
  { objects with started := true }

def startOne (object : Managed σ) : Action σ Unit := do
  match ← object.start with
  | .ok () => Action.log .lifecycle .debug "Managed object started" [("name", object.name)]
  | .error e =>
    Action.log .lifecycle .warn "Managed object failed to start" [("name", object.name), ("error", e)]

def stopOne (object : Managed σ) : Action σ Unit := do
  match ← object.stop with
  | .ok () => Action.log .lifecycle .debug "Managed object stopped" [("name", object.name)]
  | .error e =>
    Action.log .lifecycle .warn "Managed object failed to stop" [("name", object.name), ("error", e)]

def start (objects : Objects σ) : Action σ Unit :=
  objects.objects.forM startOne

def stop (objects : Objects σ) : Action σ Unit :=
  objects.objects.reverse.forM stopOne

end Objects

end ServiceHost.Lifecycle
