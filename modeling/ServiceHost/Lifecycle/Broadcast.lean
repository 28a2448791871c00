/-!
This module contains channels on which a message goes to every receiver that there is when it is sent. A
channel keeps as many messages as its capacity says: a receiver that is further behind is told how many it
missed, and goes on with the oldest one that is kept. The messages themselves carry nothing.
-/

namespace ServiceHost.Lifecycle

structure Broadcast where
  capacity : Nat
  sent : Nat
  closed : Bool
  /-- How many messages were sent before the one that a receiver gets next; `none` for one that left. -/
  receivers : List (Option Nat)
  deriving DecidableEq, Repr

inductive Reception where
  | message
  | lagged (missed : Nat)
  | closed
  | empty
  deriving DecidableEq, Repr

namespace Broadcast

def new (capacity : Nat) : Broadcast :=
  ⟨capacity, 0, false, []⟩

def count (channel : Broadcast) : Nat :=
  channel.receivers.countP (·.isSome)

def subscribe (channel : Broadcast) : Broadcast :=
  { channel with receivers := channel.receivers ++ [some channel.sent] }

def send (channel : Broadcast) : Broadcast :=
  if channel.count = 0 then channel else { channel with sent := channel.sent + 1 }

def close (channel : Broadcast) : Broadcast :=
  { channel with closed := true }

def leave (index : Nat) (channel : Broadcast) : Broadcast :=
  { channel with receivers := channel.receivers.set index none }

def reception (next : Nat) (channel : Broadcast) : Reception × Nat :=
  if next = channel.sent then
    (if channel.closed then .closed else .empty, next)
  else if next + channel.capacity < channel.sent then
    (.lagged (channel.sent - channel.capacity - next), channel.sent - channel.capacity)
  else
    (.message, next + 1)

def receive (index : Nat) (channel : Broadcast) : Option (Reception × Broadcast) := do
  let next ← (← channel.receivers[index]?)
  let (reception, next) := channel.reception next
  return (reception, { channel with receivers := channel.receivers.set index (some next) })

end Broadcast

end ServiceHost.Lifecycle
