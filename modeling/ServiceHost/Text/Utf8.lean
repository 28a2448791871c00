/-!
This module contains the UTF-8 form of characters: `encode` writes it, and `decode` reads bytes as
characters and as parts of characters that cannot be completed. `decodeLossy` shows each such part
as one U+FFFD, `decode?` refuses them.
-/

namespace ServiceHost.Utf8

def encodeChar (c : Char) : List UInt8 :=
  let n := c.toNat
  if n < 0x80 then
    [.ofNat n]
  else if n < 0x800 then
    [.ofNat (0xC0 + n / 0x40), .ofNat (0x80 + n % 0x40)]
  else if n < 0x10000 then
    [.ofNat (0xE0 + n / 0x1000), .ofNat (0x80 + n / 0x40 % 0x40), .ofNat (0x80 + n % 0x40)]
  else
    [.ofNat (0xF0 + n / 0x40000), .ofNat (0x80 + n / 0x1000 % 0x40),
     .ofNat (0x80 + n / 0x40 % 0x40), .ofNat (0x80 + n % 0x40)]

def encode (text : List Char) : List UInt8 :=
  text.flatMap encodeChar

def tail : Nat × Nat := (0x80, 0xBF)

/--
What a first byte says: the leading bits of the character and the ranges of the bytes that follow.
The ranges rule out overlong forms, surrogates and code points above U+10FFFF.
-/
def lead? (n : Nat) : Option (Nat × List (Nat × Nat)) :=
  if n < 0x80 then some (n, [])
  else if n < 0xC2 then none
  else if n < 0xE0 then some (n - 0xC0, [tail])
  else if n = 0xE0 then some (0, [(0xA0, 0xBF), tail])
  else if n = 0xED then some (0xD, [(0x80, 0x9F), tail])
  else if n < 0xF0 then some (n - 0xE0, [tail, tail])
  else if n = 0xF0 then some (0, [(0x90, 0xBF), tail, tail])
  else if n < 0xF4 then some (n - 0xF0, [tail, tail, tail])
  else if n = 0xF4 then some (4, [(0x80, 0x8F), tail, tail])
  else none

def follow (bits : Nat) : List (Nat × Nat) → List UInt8 → Option Char × Nat
  | [], _ => (some (Char.ofNat bits), 0)
  | _ :: _, [] => (none, 0)
  | (low, high) :: ranges, b :: bytes =>
    if low ≤ b.toNat ∧ b.toNat ≤ high then
      let (c, used) := follow (bits * 0x40 + b.toNat % 0x40) ranges bytes
      (c, used + 1)
    else
      (none, 0)

def front (b : UInt8) (bytes : List UInt8) : Option Char × Nat :=
  match lead? b.toNat with
  | some (bits, ranges) => follow bits ranges bytes
  | none => (none, 0)

def decode : List UInt8 → List (Option Char)
  | [] => []
  | b :: bytes => (front b bytes).1 :: decode (bytes.drop (front b bytes).2)
termination_by bytes => bytes.length
decreasing_by simp only [List.length_cons, List.length_drop]; omega

def decodeLossy (bytes : List UInt8) : List Char :=
  (decode bytes).map (·.getD '\ufffd')

def decode? (bytes : List UInt8) : Option (List Char) :=
  (decode bytes).mapM id

end ServiceHost.Utf8
