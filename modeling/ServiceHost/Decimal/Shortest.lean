/-!
This module contains the shortest decimal that reads back as a given binary number. A number is
`mantissa * 2 ^ exponent`; the decimals that read back as it fill an interval around it, and among
those with the fewest digits the nearest is chosen.
-/

namespace ServiceHost

/-- A decimal `digits * 10 ^ exponent`. -/
structure Decimal where
  digits : Nat
  exponent : Int
  deriving DecidableEq, Repr

namespace Decimal

/-- A positive binary number `mantissa * 2 ^ exponent` of the double format. -/
structure Binary where
  mantissa : Nat
  exponent : Int
  deriving DecidableEq, Repr

structure Ratio where
  num : Nat
  den : Nat
  deriving DecidableEq, Repr

namespace Ratio

def le (a b : Ratio) : Bool :=
  decide (a.num * b.den ≤ b.num * a.den)

def lt (a b : Ratio) : Bool :=
  decide (a.num * b.den < b.num * a.den)

def scaled (n base : Nat) (exponent : Int) : Ratio :=
  if 0 ≤ exponent then ⟨n * base.pow exponent.toNat, 1⟩ else ⟨n, base.pow (-exponent).toNat⟩

def magnitude (x : Ratio) : Int :=
  if x.den ≤ x.num then
    (Nat.toDigits 10 (x.num / x.den)).length
  else
    let d : Nat := (Nat.toDigits 10 (x.den / x.num)).length
    if x.den ≤ x.num * Nat.pow 10 (d - 1) then 2 - (d : Int) else 1 - (d : Int)

end Ratio

namespace Binary

def value (b : Binary) : Ratio :=
  .scaled b.mantissa 2 b.exponent

/-- Half way to the next number below; at a power of two the numbers below lie twice as close. -/
def lower (b : Binary) : Ratio :=
  if b.mantissa = 1 <<< 52 ∧ -1074 < b.exponent then
    .scaled (4 * b.mantissa - 1) 2 (b.exponent - 2)
  else
    .scaled (2 * b.mantissa - 1) 2 (b.exponent - 1)

def upper (b : Binary) : Ratio :=
  .scaled (2 * b.mantissa + 1) 2 (b.exponent - 1)

def reads (b : Binary) (d : Decimal) : Bool :=
  let x := Ratio.scaled d.digits 10 d.exponent
  if b.mantissa % 2 = 0 then
    b.lower.le x && x.le b.upper
  else
    b.lower.lt x && x.lt b.upper

def neighbours (b : Binary) (exponent : Int) : Decimal × Decimal :=
  let step := Ratio.scaled 1 10 exponent
  let below := b.value.num * step.den / (b.value.den * step.num)
  (⟨below, exponent⟩, ⟨below + 1, exponent⟩)

def prefersUpper (b : Binary) (below : Decimal) : Bool :=
  let middle := Ratio.scaled (2 * below.digits + 1) 10 below.exponent
  let twice : Ratio := ⟨2 * b.value.num, b.value.den⟩
  middle.lt twice || (middle.le twice && below.digits % 2 == 1)

def onGrid? (b : Binary) (exponent : Int) : Option Decimal :=
  let (below, above) := b.neighbours exponent
  match b.reads below, b.reads above with
  | true, true => some (if b.prefersUpper below then above else below)
  | true, false => some below
  | false, true => some above
  | false, false => none

def stripZeros : Nat → Decimal → Decimal
  | 0, d => d
  | fuel + 1, d =>
    if d.digits ≠ 0 ∧ d.digits % 10 = 0 then
      stripZeros fuel ⟨d.digits / 10, d.exponent + 1⟩
    else
      d

/-- The shortest decimal that reads back as `b`; seventeen digits always do. -/
def shortest (b : Binary) : Decimal :=
  let top := b.value.magnitude
  let grids := (List.range 17).map fun (k : Nat) => b.onGrid? (top - (k + 1))
  stripZeros 17 ((grids.findSome? id).getD ⟨0, 0⟩)

end Binary

inductive Class where
  | nan
  | infinity (negative : Bool)
  | zero (negative : Bool)
  | finite (negative : Bool) (magnitude : Binary)

def classify (x : Float) : Class :=
  let bits : Nat := x.toBits.toNat
  let negative := bits.testBit 63
  let exponent : Nat := (bits >>> 52) % 2048
  let fraction : Nat := bits % (1 <<< 52)
  if exponent = 2047 then
    if fraction = 0 then .infinity negative else .nan
  else if exponent = 0 then
    if fraction = 0 then .zero negative else .finite negative ⟨fraction, -1074⟩
  else
    .finite negative ⟨(1 <<< 52) + fraction, (exponent : Int) - 1075⟩

end Decimal

end ServiceHost
