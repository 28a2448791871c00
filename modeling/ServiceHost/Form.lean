import ServiceHost.Text.Split
import ServiceHost.Text.Utf8

/-!
This module contains the form encoding of name and value pairs that URL queries carry
(`application/x-www-form-urlencoded`): `Form.encode` writes pairs, `Form.decode` reads them.
-/

namespace ServiceHost.Form

def hexValue? (b : UInt8) : Option Nat :=
  let n := b.toNat
  if 0x30 ≤ n ∧ n ≤ 0x39 then some (n - 0x30)
  else if 0x41 ≤ n ∧ n ≤ 0x46 then some (n - 0x37)
  else if 0x61 ≤ n ∧ n ≤ 0x66 then some (n - 0x57)
  else none

def hexDigit (n : Nat) : Char :=
  if n < 10 then Char.ofNat (0x30 + n) else Char.ofNat (0x37 + n)

def percentDecode : List UInt8 → List UInt8
  | b :: high :: low :: rest =>
    if b = 0x25 then
      match hexValue? high, hexValue? low with
      | some h, some l => .ofNat (h * 16 + l) :: percentDecode rest
      | _, _ => b :: percentDecode (high :: low :: rest)
    else
      b :: percentDecode (high :: low :: rest)
  | few => few

def decodePart (part : List Char) : String :=
  let spaced := part.map fun c => if c = '+' then ' ' else c
  .ofList (Utf8.decodeLossy (percentDecode (Utf8.encode spaced)))

def decode (query : String) : List (String × String) :=
  ((Text.pieces '&' query.toList).filter (· ≠ [])).map fun piece =>
    let (name, value) := Text.cut '=' piece
    (decodePart name, decodePart value)

def isPlain (b : UInt8) : Bool :=
  let n := b.toNat
  decide (0x30 ≤ n ∧ n ≤ 0x39) || decide (0x41 ≤ n ∧ n ≤ 0x5A) || decide (0x61 ≤ n ∧ n ≤ 0x7A) ||
    n == 0x2A || n == 0x2D || n == 0x2E || n == 0x5F

def encodeByte (b : UInt8) : List Char :=
  if isPlain b then [Char.ofNat b.toNat]
  else if b = 0x20 then ['+']
  else ['%', hexDigit (b.toNat / 16), hexDigit (b.toNat % 16)]

def encodePart (text : String) : List Char :=
  (Utf8.encode text.toList).flatMap encodeByte

def encodePair (pair : String × String) : List Char :=
  encodePart pair.1 ++ '=' :: encodePart pair.2

def encode (pairs : List (String × String)) : String :=
  .ofList (Text.join ['&'] (pairs.map encodePair))

end ServiceHost.Form
