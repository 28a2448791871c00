import ServiceHost.Json.Value

/-!
This module contains the reader of JSON texts. Each part takes the characters it reads from the front
and gives back the rest; `Json.parse?` reads a whole text. An object can embed the text of a value, which is then
read in its place.
-/

namespace ServiceHost.Json

def maxDepth : Nat := 127

def embeddingName : String := "$serde_json::private::RawValue"

namespace Reader

def skipBlanks : List Char → List Char :=
  List.dropWhile fun c => c == ' ' || c == '\n' || c == '\r' || c == '\t'

def hexValue? (c : Char) : Option Nat :=
  if '0' ≤ c ∧ c ≤ '9' then some (c.toNat - '0'.toNat)
  else if 'a' ≤ c ∧ c ≤ 'f' then some (c.toNat - 'a'.toNat + 10)
  else if 'A' ≤ c ∧ c ≤ 'F' then some (c.toNat - 'A'.toNat + 10)
  else none

def hexNumber? (a b c d : Char) : Option Nat := do
  let a ← hexValue? a
  let b ← hexValue? b
  let c ← hexValue? c
  let d ← hexValue? d
  return ((a * 16 + b) * 16 + c) * 16 + d

def escape? (c : Char) : Option Char :=
  if c = '"' then some '"'
  else if c = '\\' then some '\\'
  else if c = '/' then some '/'
  else if c = 'b' then some '\x08'
  else if c = 'f' then some '\x0c'
  else if c = 'n' then some '\n'
  else if c = 'r' then some '\r'
  else if c = 't' then some '\t'
  else none

def joinSurrogates (high low : Nat) : Nat :=
  0x10000 + (high - 0xD800) * 0x400 + (low - 0xDC00)

def string? : List Char → Option (List Char × List Char)
  | [] => none
  | '"' :: rest => some ([], rest)
  | '\\' :: 'u' :: a :: b :: c :: d :: rest =>
    match hexNumber? a b c d with
    | none => none
    | some n =>
      if n < 0xD800 ∨ 0xDFFF < n then
        (string? rest).map fun (text, rest) => (Char.ofNat n :: text, rest)
      else
        match rest with
        | '\\' :: 'u' :: a :: b :: c :: d :: rest =>
          match hexNumber? a b c d with
          | none => none
          | some m =>
            if n < 0xDC00 ∧ 0xDC00 ≤ m ∧ m ≤ 0xDFFF then
              (string? rest).map fun (text, rest) => (Char.ofNat (joinSurrogates n m) :: text, rest)
            else
              none
        | _ => none
  | '\\' :: c :: rest =>
    match escape? c with
    | none => none
    | some e => (string? rest).map fun (text, rest) => (e :: text, rest)
  | c :: rest =>
    if c = '\\' ∨ c.toNat < 0x20 then
      none
    else
      (string? rest).map fun (text, rest) => (c :: text, rest)

def digitsValue (digits : List Char) : Nat :=
  digits.foldl (fun n c => n * 10 + (c.toNat - '0'.toNat)) 0

def appendDigits (n : Nat) : List Char → Nat × List Char
  | [] => (n, [])
  | c :: digits =>
    let next := n * 10 + (c.toNat - '0'.toNat)
    if next < UInt64.size then appendDigits next digits else (n, c :: digits)

def maxPower : Nat := 308

def power (n : Nat) : Float :=
  Float.ofScientific 1 false n

/--
The double for `mantissa * 10 ^ exponent`, by one rounded multiplication or by rounded divisions; it may be off
the nearest double by a little. `none` when it is beyond all doubles.
-/
def decimalFloat? (mantissa : Nat) (exponent : Int) : Option Float :=
  let x := (UInt64.ofNat mantissa).toFloat
  if mantissa = 0 then
    some 0
  else if maxPower < exponent then
    none
  else if 0 ≤ exponent then
    let y := x * power exponent.toNat
    if y.isInf then none else some y
  else
    let n := exponent.natAbs
    if n ≤ maxPower then some (x / power n)
    else if n ≤ 2 * maxPower then some (x / power maxPower / power (n - maxPower))
    else some 0

def exponent? (text : List Char) : Option (Option Int × List Char) :=
  match text with
  | c :: rest =>
    if c = 'e' ∨ c = 'E' then
      let (negative, rest) := match rest with
        | '-' :: rest => (true, rest)
        | '+' :: rest => (false, rest)
        | _ => (false, rest)
      let digits := rest.takeWhile Char.isDigit
      if digits = [] then
        none
      else
        let n : Int := digitsValue digits
        some (some (if negative then -n else n), rest.dropWhile Char.isDigit)
    else
      some (none, text)
  | [] => some (none, [])

def fraction? (text : List Char) : Option (Option (List Char) × List Char) :=
  match text with
  | '.' :: rest =>
    let digits := rest.takeWhile Char.isDigit
    if digits = [] then none else some (some digits, rest.dropWhile Char.isDigit)
  | _ => some (none, text)

/--
A number without its sign. What has neither a fraction nor an exponent is an integer if it fits into
64 bits, unsigned or with a sign, and is not a negative zero; everything else is a double. Of a double as many
digits count as fit into 64 bits.
-/
def number? (negative : Bool) (text : List Char) : Option (Json × List Char) := do
  let digits := text.takeWhile Char.isDigit
  if digits = [] ∨ (digits.length ≠ 1 ∧ digits.head? = some '0') then
    none
  let (fraction, rest) ← fraction? (text.dropWhile Char.isDigit)
  let (exponent, rest) ← exponent? rest
  let (whole, more) := appendDigits 0 digits
  let fits := more = [] ∧ (!negative ∨ (whole ≠ 0 ∧ whole ≤ UInt64.size / 2))
  if fraction.isNone ∧ exponent.isNone ∧ fits then
    return (.integer (if negative then -(whole : Int) else whole), rest)
  let decimals := fraction.getD []
  let (mantissa, dropped) := appendDigits whole decimals
  let x ← decimalFloat? mantissa
    (exponent.getD 0 + more.length - (decimals.length - dropped.length : Nat))
  return (.float (if negative then -x else x), rest)

def words : List (List Char × Json) :=
  [("null".toList, .null), ("true".toList, .bool true), ("false".toList, .bool false)]

def word? (text : List Char) : Option (Json × List Char) :=
  words.findSome? fun (word, value) =>
    if word.isPrefixOf text then some (value, text.drop word.length) else none

def opening? (name : Option String) : List Char → Option (List Char)
  | '"' :: rest =>
    match string? rest with
    | some (text, rest) => if name = some (.ofList text) then some rest else none
    | none => none
  | _ => none

def embedded? (text : List Char) : Option (List Char × List Char) := do
  let ':' :: rest := skipBlanks text | none
  let '"' :: rest := skipBlanks rest | none
  let (held, rest) ← string? rest
  let '\x7d' :: rest := skipBlanks rest | none
  return (held, rest)

mutual

/--
A value with blanks in front. `fuel` bounds the values that are read, `depth` how deep they are nested; an object
that opens with the name `embedding` embeds a text.
-/
def value? (embedding : Option String) : (fuel depth : Nat) → List Char → Option (Json × List Char)
  | 0, _, _ => none
  | fuel + 1, depth, text =>
    match skipBlanks text with
    | '"' :: rest => (string? rest).map fun (text, rest) => (.string (.ofList text), rest)
    | '[' :: rest =>
      match depth, skipBlanks rest with
      | 0, _ => none
      | _, ']' :: rest => some (.array [], rest)
      | depth + 1, rest =>
        (elements? embedding fuel depth rest).map fun (elements, rest) => (.array elements, rest)
    | '\x7b' :: rest =>
      match depth, skipBlanks rest with
      | 0, _ => none
      | _, '\x7d' :: rest => some (.object [], rest)
      | depth + 1, rest =>
        match opening? embedding rest with
        | some rest => do
          let (held, rest) ← embedded? rest
          let (value, blanks) ← value? embedding fuel maxDepth held
          if skipBlanks blanks = [] then some (value, rest) else none
        | none => (members? embedding fuel depth rest).map fun (members, rest) => (.ofMembers members, rest)
    | '-' :: rest => number? true rest
    | rest => (word? rest).or (number? false rest)

def elements? (embedding : Option String) : (fuel depth : Nat) → List Char → Option (List Json × List Char)
  | 0, _, _ => none
  | fuel + 1, depth, text => do
    let (value, rest) ← value? embedding fuel depth text
    match skipBlanks rest with
    | ',' :: rest =>
      let (values, rest) ← elements? embedding fuel depth rest
      return (value :: values, rest)
    | ']' :: rest => return ([value], rest)
    | _ => none

def members? (embedding : Option String) : (fuel depth : Nat) → List Char → Option (List (String × Json) × List Char)
  | 0, _, _ => none
  | fuel + 1, depth, text => do
    let '"' :: rest := skipBlanks text | none
    let (name, rest) ← string? rest
    let ':' :: rest := skipBlanks rest | none
    let (value, rest) ← value? embedding fuel depth rest
    match skipBlanks rest with
    | ',' :: rest =>
      let (members, rest) ← members? embedding fuel depth rest
      return ((.ofList name, value) :: members, rest)
    | '\x7d' :: rest => return ([(.ofList name, value)], rest)
    | _ => none

end

end Reader

def parse? (text : String) : Option Json :=
  let chars := text.toList
  match Reader.value? embeddingName (2 * chars.length + 1) maxDepth chars with
  | some (value, rest) => if Reader.skipBlanks rest = [] then some value else none
  | none => none

end ServiceHost.Json
