import ServiceHost.Toml.Scan
import ServiceHost.Toml.Value

/-!
This module contains the literals of TOML: keys, strings, numbers and words. Every reader answers with
what it read and the rest of the text, or with `none`.
-/

namespace ServiceHost.Toml

def hexValue? (c : Char) : Option Nat :=
  if '0' ≤ c ∧ c ≤ '9' then some (c.toNat - 0x30)
  else if 'A' ≤ c ∧ c ≤ 'F' then some (c.toNat - 0x37)
  else if 'a' ≤ c ∧ c ≤ 'f' then some (c.toNat - 0x57)
  else none

def codePoint? (digits : List Char) : Option Char := do
  let values ← digits.mapM hexValue?
  let n := values.foldl (fun n v => n * 16 + v) 0
  if n.isValidChar then some (Char.ofNat n) else none

def longEscape (width : Nat) (text : List Char) : Step (List Char) :=
  let digits := text.take width
  match codePoint? digits with
  | some c => if digits.length = width then .part [c] (text.drop width) else .refuse
  | none => .refuse

def escape (text : List Char) : Step (List Char) :=
  match text with
  | 'b' :: rest => .part ['\x08'] rest
  | 't' :: rest => .part ['\t'] rest
  | 'n' :: rest => .part ['\n'] rest
  | 'f' :: rest => .part ['\x0c'] rest
  | 'r' :: rest => .part ['\r'] rest
  | '"' :: rest => .part ['"'] rest
  | '\\' :: rest => .part ['\\'] rest
  | 'u' :: rest => longEscape 4 rest
  | 'U' :: rest => longEscape 8 rest
  | _ => .refuse

def basicPart : List Char → Step (List Char)
  | '"' :: rest => .finish rest
  | '\\' :: rest => escape rest
  | c :: rest => if isPrintable c then .part [c] rest else .refuse
  | [] => .refuse

def literalPart : List Char → Step (List Char)
  | '\'' :: rest => .finish rest
  | c :: rest => if isPrintable c then .part [c] rest else .refuse
  | [] => .refuse

def basicLinesPart : List Char → Step (List Char)
  | '"' :: '"' :: '"' :: rest => .finish rest
  | '\\' :: rest =>
    match skipSpaces rest with
    | '\n' :: below => .part [] (below.dropWhile fun c => isSpace c || c == '\n')
    | _ => escape rest
  | c :: rest => if isPrintable c || c == '\n' then .part [c] rest else .refuse
  | [] => .refuse

def literalLinesPart : List Char → Step (List Char)
  | '\'' :: '\'' :: '\'' :: rest => .finish rest
  | c :: rest => if isPrintable c || c == '\n' then .part [c] rest else .refuse
  | [] => .refuse

def line? (part : List Char → Step (List Char)) (text : List Char) : Option (List Char × List Char) :=
  (scan? part text).map fun (chars, rest) => (chars.flatten, rest)

def extraQuotes (quote : Char) (text : List Char) : List Char × List Char :=
  let extra := (text.takeWhile (· == quote)).take 2
  (extra, text.drop extra.length)

def lines? (quote : Char) (part : List Char → Step (List Char)) (text : List Char) :
    Option (List Char × List Char) :=
  let body := match text with
    | '\n' :: rest => rest
    | _ => text
  (scan? part body).map fun (chars, rest) =>
    let (extra, rest) := extraQuotes quote rest
    (chars.flatten ++ extra, rest)

def string? : List Char → Option (List Char × List Char)
  | '"' :: '"' :: '"' :: rest => lines? '"' basicLinesPart rest
  | '"' :: rest => line? basicPart rest
  | '\'' :: '\'' :: '\'' :: rest => lines? '\'' literalLinesPart rest
  | '\'' :: rest => line? literalPart rest
  | _ => none

def isKeyChar (c : Char) : Bool :=
  c.isAlphanum || c == '_' || c == '-'

def keyPart? (text : List Char) : Option (String × List Char) :=
  match text with
  | '"' :: rest => (line? basicPart rest).map fun (key, rest) => (.ofList key, rest)
  | '\'' :: rest => (line? literalPart rest).map fun (key, rest) => (.ofList key, rest)
  | _ =>
    let key := text.takeWhile isKeyChar
    if key = [] then none else some (.ofList key, text.dropWhile isKeyChar)

def laterKeyPart (text : List Char) : Step String :=
  match text with
  | '.' :: rest =>
    match keyPart? (skipSpaces rest) with
    | some (key, rest) => .part key (skipSpaces rest)
    | none => .refuse
  | _ => .finish text

def depthLimit : Nat := 80

def key? (text : List Char) : Option (List String × List Char) := do
  let (first, rest) ← keyPart? (skipSpaces text)
  let (later, rest) ← scan? laterKeyPart (skipSpaces rest)
  if depthLimit ≤ later.length + 1 then
    none
  return (first :: later, rest)

def digitRun (isDigit : Char → Bool) : List Char → List Char × List Char
  | [] => ([], [])
  | c :: rest =>
    if isDigit c then
      let (digits, rest) := digitRun isDigit rest
      (c :: digits, rest)
    else if c = '_' then
      match rest with
      | d :: _ =>
        if isDigit d then digitRun isDigit rest else ([], c :: rest)
      | [] => ([], [c])
    else
      ([], c :: rest)

def digits? (isDigit : Char → Bool) (text : List Char) : Option (List Char × List Char) :=
  match text with
  | c :: _ => if isDigit c then some (digitRun isDigit text) else none
  | [] => none

def fits (n : Int) : Bool :=
  decide (Int64.minValue.toInt ≤ n ∧ n ≤ Int64.maxValue.toInt)

def valueOf (base : Nat) (digits : List Char) : Nat :=
  digits.foldl (fun n c => n * base + (hexValue? c).getD 0) 0

def basedInteger? (base : Nat) (text : List Char) : Option (Toml × List Char) := do
  let isDigit c := (hexValue? c).any (· < base)
  let (digits, rest) ← digits? isDigit text
  let n : Int := valueOf base digits
  if fits n then some (.integer n, rest) else none

def fraction? (text : List Char) : Option (List Char × List Char) :=
  match text with
  | '.' :: rest => digits? Char.isDigit rest
  | _ => some ([], text)

def exponent? (text : List Char) : Option (Option Int × List Char) :=
  match text with
  | c :: rest =>
    if c = 'e' ∨ c = 'E' then
      let (negative, rest) := match rest with
        | '-' :: rest => (true, rest)
        | '+' :: rest => (false, rest)
        | _ => (false, rest)
      (digits? Char.isDigit rest).map fun (digits, rest) =>
        let n : Int := valueOf 10 digits
        (some (if negative then -n else n), rest)
    else
      some (none, text)
  | [] => some (none, [])

def decimalFloat (mantissa : Nat) (exponent : Int) : Float :=
  Float.ofScientific mantissa (exponent < 0) exponent.natAbs

def wholeDigits? (text : List Char) : Option (List Char × List Char) :=
  match text with
  | '0' :: rest => some (['0'], rest)
  | _ => digits? Char.isDigit text

def decimal? (negative : Bool) (text : List Char) : Option (Toml × List Char) := do
  let (whole, rest) ← wholeDigits? text
  let (decimals, rest) ← fraction? rest
  let (exponent, rest) ← exponent? rest
  if decimals = [] ∧ exponent = none then
    let n : Int := valueOf 10 whole
    let n := if negative then -n else n
    if fits n then some (.integer n, rest) else none
  else
    let mantissa := valueOf 10 (whole ++ decimals)
    let x := decimalFloat mantissa (exponent.getD 0 - decimals.length)
    if negative then some (.float (-x), rest)
    else if x.isInf then none
    else some (.float x, rest)

def floatWord? (negative : Bool) (text : List Char) : Option (Toml × List Char) :=
  match text with
  | 'i' :: 'n' :: 'f' :: rest => some (.float (if negative then -1 / 0 else 1 / 0), rest)
  | 'n' :: 'a' :: 'n' :: rest => some (.float (0 / 0), rest)
  | _ => none

def signed? (negative : Bool) (text : List Char) : Option (Toml × List Char) :=
  match floatWord? negative text with
  | some result => some result
  | none => decimal? negative text

def number? (text : List Char) : Option (Toml × List Char) :=
  match text with
  | '+' :: rest => signed? false rest
  | '-' :: rest => signed? true rest
  | '0' :: 'x' :: rest => basedInteger? 16 rest
  | '0' :: 'o' :: rest => basedInteger? 8 rest
  | '0' :: 'b' :: rest => basedInteger? 2 rest
  | _ =>
    if DateTime.startsLike text then
      (DateTime.read? .bare text).map fun (value, rest) => (.datetime value, rest)
    else
      signed? false text

def scalar? (text : List Char) : Option (Toml × List Char) :=
  match text with
  | '"' :: _ | '\'' :: _ => (string? text).map fun (chars, rest) => (.string (.ofList chars), rest)
  | 't' :: 'r' :: 'u' :: 'e' :: rest => some (.boolean true, rest)
  | 'f' :: 'a' :: 'l' :: 's' :: 'e' :: rest => some (.boolean false, rest)
  | _ => number? text

end ServiceHost.Toml
