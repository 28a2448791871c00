import ServiceHost.Lifecycle.Broadcast

/-!
This module contains the signal that tells everyone who serves to stop. Those who wait subscribe; a
trigger reaches all of them, and so does the end of the coordinator.
-/

namespace ServiceHost.Lifecycle

structure Shutdown where
  channel : Broadcast
  deriving DecidableEq, Repr

namespace Shutdown

def new : Shutdown :=
  ⟨.new 1⟩

def subscribe (s : Shutdown) : Shutdown :=
  if s.channel.closed then s else ⟨s.channel.subscribe⟩

def trigger (s : Shutdown) : Shutdown :=
  if s.channel.closed then s else ⟨s.channel.send⟩

def drop (s : Shutdown) : Shutdown :=
  ⟨s.channel.close⟩

def leave (index : Nat) (s : Shutdown) : Shutdown :=
  ⟨s.channel.leave index⟩

/--
Asks a waiter once whether it noticed a signal; `none` when it is gone. Whatever it receives counts as a signal,
a message that it missed as well, and then it is gone.
-/
def poll (index : Nat) (s : Shutdown) : Option Bool × Shutdown :=
  match s.channel.receive index with
  | none => (none, s)
  | some (.empty, channel) => (some false, ⟨channel⟩)
  | some (_, channel) => (some true, ⟨channel.leave index⟩)

def receivers? (s : Shutdown) : Option Nat :=
  if s.channel.closed then none else some s.channel.count

end Shutdown

end ServiceHost.Lifecycle
