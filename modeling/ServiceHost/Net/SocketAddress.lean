/-!
This module contains socket addresses, which of them cannot be listened on at once, and their text form: an
IPv4 address or an IPv6 address in brackets, then a colon and a port. Numbers of an IPv4 address have no
leading zeros, a port may have them, and an IPv6 address may carry a numeric scope.
-/

namespace ServiceHost

inductive HostAddress where
  | v4 (octets : List Nat)
  | v6 (groups : List Nat)
  deriving DecidableEq, Repr

def HostAddress.covers : HostAddress → HostAddress → Bool
  | .v4 octets, .v4 _ => octets.all (· == 0)
  | .v4 _, .v6 _ => false
  | .v6 groups, _ => groups.all (· == 0)

structure SocketAddress where
  host : HostAddress
  port : Nat
  deriving DecidableEq, Repr

namespace SocketAddress

def digit? (base : Nat) (c : Char) : Option Nat :=
  let value? : Option Nat :=
    if '0' ≤ c ∧ c ≤ '9' then some (c.toNat - '0'.toNat)
    else if 'a' ≤ c ∧ c ≤ 'f' then some (c.toNat - 'a'.toNat + 10)
    else if 'A' ≤ c ∧ c ≤ 'F' then some (c.toNat - 'A'.toNat + 10)
    else none
  value?.filter (· < base)

def digits (base : Nat) : List Char → List Nat × List Char
  | [] => ([], [])
  | c :: rest =>
    match digit? base c with
    | some d => let (ds, rest) := digits base rest; (d :: ds, rest)
    | none => ([], c :: rest)

structure NumberForm where
  base : Nat
  most : Nat
  width : Option Nat
  leadingZeros : Bool

def octetForm : NumberForm := ⟨10, 255, some 3, false⟩

def groupForm : NumberForm := ⟨16, 0xFFFF, some 4, true⟩

def portForm : NumberForm := ⟨10, 0xFFFF, none, true⟩

def scopeForm : NumberForm := ⟨10, 0xFFFFFFFF, none, true⟩

def number? (form : NumberForm) (text : List Char) : Option (Nat × List Char) :=
  let (ds, rest) := digits form.base text
  let value := ds.foldl (fun n d => n * form.base + d) 0
  let tooLong := form.width.any (· < ds.length)
  let padded := decide (1 < ds.length) && ds.head? == some 0
  if ds = [] ∨ tooLong ∨ (padded ∧ ¬ form.leadingZeros) ∨ form.most < value then
    none
  else
    some (value, rest)

def char? (c : Char) : List Char → Option (List Char)
  | [] => none
  | x :: rest => if x = c then some rest else none

def octets? (text : List Char) : Option (List Nat × List Char) := do
  let (a, text) ← number? octetForm text
  let (b, text) ← number? octetForm (← char? '.' text)
  let (c, text) ← number? octetForm (← char? '.' text)
  let (d, text) ← number? octetForm (← char? '.' text)
  return ([a, b, c, d], text)

structure Groups where
  groups : List Nat
  embedded : Bool
  rest : List Char

/--
Up to `room` groups at the front, with colons in between. Where two groups have room, an IPv4 address
may stand in their place and ends the row.
-/
def groups : (room : Nat) → (first : Bool) → List Char → Groups
  | 0, _, text => ⟨[], false, text⟩
  | room + 1, first, text =>
    let entry? := if first then some text else char? ':' text
    let embedded? := if room = 0 then none else entry?.bind octets?
    match embedded?, entry?.bind (number? groupForm) with
    | some ([a, b, c, d], rest), _ => ⟨[a * 0x100 + b, c * 0x100 + d], true, rest⟩
    | _, some (group, rest) =>
      let row := groups room false rest
      ⟨group :: row.groups, row.embedded, row.rest⟩
    | _, none => ⟨[], false, text⟩

def ipv6? (text : List Char) : Option (List Nat × List Char) := do
  let front := groups 8 true text
  if front.groups.length = 8 then
    return (front.groups, front.rest)
  if front.embedded then
    none
  let rest ← char? ':' (← char? ':' front.rest)
  let back := groups (7 - front.groups.length) true rest
  let zeros := 8 - front.groups.length - back.groups.length
  return (front.groups ++ List.replicate zeros 0 ++ back.groups, back.rest)

def skipScope (text : List Char) : List Char :=
  (do let (_, rest) ← number? scopeForm (← char? '%' text); return rest : Option _).getD text

def port? (text : List Char) : Option Nat := do
  let (port, rest) ← number? portForm (← char? ':' text)
  if rest = [] then some port else none

def v4? (text : List Char) : Option SocketAddress := do
  let (octets, rest) ← octets? text
  return ⟨.v4 octets, ← port? rest⟩

def v6? (text : List Char) : Option SocketAddress := do
  let (groups, rest) ← ipv6? (← char? '[' text)
  let rest ← char? ']' (skipScope rest)
  return ⟨.v6 groups, ← port? rest⟩

def parse? (text : String) : Option SocketAddress :=
  (v4? text.toList).or (v6? text.toList)

/-- Whether two addresses cannot be listened on at once. Port 0 always stands for a free one. -/
def collide (a b : SocketAddress) : Bool :=
  a.port != 0 && a.port == b.port && (a.host == b.host || a.host.covers b.host || b.host.covers a.host)

def usualListen (owns : HostAddress → Bool) (taken : List SocketAddress) (address : SocketAddress) :
    Except String Unit :=
  if !owns address.host then .error "Cannot assign requested address (os error 99)"
  else if taken.any (collide address) then .error "Address already in use (os error 98)"
  else .ok ()

end SocketAddress

end ServiceHost
