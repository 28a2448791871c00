import ServiceHost.Decimal.Shortest

/-!
This module contains the decimal notations that numbers are written in. A notation is a record of
its decisions; `Notation.write` applies it to the shortest decimal of a number.
-/

namespace ServiceHost.Decimal

structure Style where
  /-- The least power of ten of a first digit that is still written without an exponent. -/
  least : Int
  /-- The first power of ten that is written with an exponent again. -/
  most : Int
  exponentSign : List Char
  nan : List Char
  infinity : List Char

def quotedStyle : Style :=
  ⟨-4, 16, [], "NaN".toList, "inf".toList⟩

def jsonStyle : Style :=
  ⟨-5, 16, ['+'], "null".toList, "null".toList⟩

def plainStyle : Style :=
  ⟨-400, 400, [], "NaN".toList, "inf".toList⟩

namespace Style

def positional (digits : List Char) (whole : Int) : List Char :=
  if whole ≤ 0 then
    '0' :: '.' :: List.replicate (-whole).toNat '0' ++ digits
  else if (digits.length : Int) ≤ whole then
    digits ++ List.replicate (whole.toNat - digits.length) '0' ++ ['.', '0']
  else
    digits.take whole.toNat ++ '.' :: digits.drop whole.toNat

def scientific (style : Style) (digits : List Char) (power : Int) : List Char :=
  let front := match digits with
    | first :: second :: rest => first :: '.' :: second :: rest
    | few => few
  let sign := if power < 0 then ['-'] else style.exponentSign
  front ++ 'e' :: sign ++ Nat.toDigits 10 power.natAbs

def decimal (style : Style) (d : Decimal) : List Char :=
  let digits := Nat.toDigits 10 d.digits
  let power := d.exponent + digits.length - 1
  if style.least ≤ power ∧ power < style.most then
    positional digits (power + 1)
  else
    style.scientific digits power

def write (style : Style) (x : Float) : List Char :=
  let sign (negative : Bool) : List Char := if negative then ['-'] else []
  match classify x with
  | .nan => style.nan
  | .infinity negative => if style.infinity = style.nan then style.nan else sign negative ++ style.infinity
  | .zero negative => sign negative ++ ['0', '.', '0']
  | .finite negative magnitude => sign negative ++ style.decimal magnitude.shortest

end Style

end ServiceHost.Decimal
