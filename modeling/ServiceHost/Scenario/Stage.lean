import ServiceHost.Config.Schema
import ServiceHost.World

/-!
This module contains the state of the scripted applications that services are tried out with: what they
have done so far, and how far their scripts have got.
-/

namespace ServiceHost.Scenario

structure Stage where
  events : List String
  probed : Keyed Nat
  handles : Keyed Metrics.Handle

def Stage.new : Stage :=
  ⟨[], .empty, .empty⟩

def configuredLevels (c : Configuration) : Log.Levels :=
  .new ((Log.Level.ofName? c.logging.level).getD .info)

def change (f : Stage → Stage) : Action Stage Unit :=
  Action.change fun world => { world with state := f world.state }

def note (event : String) : Action Stage Unit :=
  change fun s => { s with events := s.events ++ [event] }

end ServiceHost.Scenario
