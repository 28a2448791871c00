import ServiceHost.Fault
import ServiceHost.Json.Value
import ServiceHost.Text.Split

/-!
This module contains the metrics of a service: variables of four kinds under names, and the one JSON
object that shows them all. The kind of a variable is decided by the first request for it; a published
variable replaces what was there for good.
-/

namespace ServiceHost.Metrics

inductive Kind where
  | counter | gauge | histogram
  deriving DecidableEq, Repr

structure Summary where
  count : UInt64
  sum : Float
  least : Float
  greatest : Float

namespace Summary

def empty : Summary :=
  ⟨0, 0, 0, 0⟩

def smaller (a b : Float) : Float :=
  if a.isNaN || b ≤ a then b else a

def larger (a b : Float) : Float :=
  if a.isNaN || a ≤ b then b else a

def record (value : Float) (s : Summary) : Summary :=
  if s.count = 0 then
    ⟨1, s.sum + value, value, value⟩
  else
    ⟨s.count + 1, s.sum + value, smaller s.least value, larger s.greatest value⟩

def toJson (s : Summary) : Json :=
  .ofMembers
    [("count", .integer s.count.toNat), ("sum", .float s.sum), ("min", .float s.least),
     ("max", .float s.greatest)]

end Summary

/-- A variable. A published one is computed from the state of the application on every read. -/
inductive Variable (σ : Type) where
  | counter (value : UInt64)
  | gauge (value : Float)
  | histogram (summary : Summary)
  | published (read : σ → Except Fault Json.Value)

inductive Update where
  | increment (amount : UInt64)
  | raise (value : UInt64)
  | set (value : Float)
  | add (amount : Float)
  | subtract (amount : Float)
  | record (value : Float)

def Update.kind : Update → Kind
  | .increment _ | .raise _ => .counter
  | .set _ | .add _ | .subtract _ => .gauge
  | .record _ => .histogram

namespace Variable

variable {σ : Type}

def fresh : Kind → Variable σ
  | .counter => .counter 0
  | .gauge => .gauge 0
  | .histogram => .histogram .empty

def kind? : Variable σ → Option Kind
  | .counter _ => some .counter
  | .gauge _ => some .gauge
  | .histogram _ => some .histogram
  | .published _ => none

/-- Carries out an update that fits the variable; counters wrap around at 2^64. -/
def apply : Update → Variable σ → Variable σ
  | .increment amount, .counter value => .counter (value + amount)
  | .raise least, .counter value => .counter (max value least)
  | .set value, .gauge _ => .gauge value
  | .add amount, .gauge value => .gauge (value + amount)
  | .subtract amount, .gauge value => .gauge (value - amount)
  | .record value, .histogram summary => .histogram (summary.record value)
  | _, v => v

def toJson (state : σ) : Variable σ → Except Fault Json
  | .counter value => .ok (.integer value.toNat)
  | .gauge value => .ok (.float value)
  | .histogram summary => .ok summary.toJson
  | .published read => return (← read state).json

end Variable

structure Handle where
  name : String
  kind : Kind
  deriving DecidableEq, Repr

structure Registry (σ : Type) where
  contents : Keyed (Variable σ)

namespace Registry

variable {σ : Type}

def empty : Registry σ :=
  ⟨.empty⟩

def names (registry : Registry σ) : List String :=
  registry.contents.keys

def publish (name : String) (read : σ → Except Fault Json.Value) (registry : Registry σ) : Registry σ :=
  ⟨registry.contents.insert name (.published read)⟩

/-- Makes sure that there is a variable under a name, of this kind unless it has one already. -/
def request (kind : Kind) (name : String) (registry : Registry σ) : Registry σ :=
  if registry.contents.contains name then
    registry
  else
    ⟨registry.contents.insert name (.fresh kind)⟩

def hasKind (kind : Kind) (name : String) (registry : Registry σ) : Bool :=
  ((registry.contents.find? name).bind Variable.kind?) == some kind

/-- Updates a variable through a handle; what fits neither the handle nor the variable is ignored. -/
def update (handle : Handle) (update : Update) (registry : Registry σ) : Registry σ :=
  if update.kind = handle.kind then
    ⟨registry.contents.modify handle.name (.apply update)⟩
  else
    registry

def member (name : String) (value : Json) : List Char :=
  Json.literal name.toList ++ ':' :: ' ' :: value.chars

def render (state : σ) (registry : Registry σ) : Except Fault String := do
  let members ← registry.contents.entries.mapM fun (name, v) => do
    return member name (← v.toJson state)
  return .ofList ('\x7b' :: Text.join [','] members ++ ['\x7d'])

end Registry

def keyName (name : String) (labels : List (String × String)) : String :=
  if labels = [] then
    name
  else
    name ++ "\x7b" ++ ",".intercalate (labels.map fun (key, value) => key ++ "=" ++ value) ++ "\x7d"

end ServiceHost.Metrics
