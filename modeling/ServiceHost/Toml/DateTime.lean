/-!
This module contains dates and times as configuration files write them: a date, a time, or both, the
latter with or without an offset. They are read in the forms of RFC 3339, and written in one form.
-/

namespace ServiceHost

structure Date where
  year : Nat
  month : Nat
  day : Nat
  deriving DecidableEq, Repr

structure Time where
  hour : Nat
  minute : Nat
  second : Nat
  /-- The digits of the fraction of the second: at most nine, no zero at the end. -/
  fraction : List Char
  deriving DecidableEq, Repr

inductive Offset where
  | zulu
  | minutes (negative : Bool) (amount : Nat)
  deriving DecidableEq, Repr

inductive DateTime where
  | date (date : Date)
  | time (time : Time)
  | both (date : Date) (time : Time) (offset : Option Offset)
  deriving DecidableEq, Repr

namespace DateTime

def padded (width n : Nat) : List Char :=
  let digits := Nat.toDigits 10 n
  List.replicate (width - digits.length) '0' ++ digits

def dateChars (d : Date) : List Char :=
  padded 4 d.year ++ '-' :: padded 2 d.month ++ '-' :: padded 2 d.day

def timeChars (t : Time) : List Char :=
  padded 2 t.hour ++ ':' :: padded 2 t.minute ++ ':' :: padded 2 t.second ++
    (if t.fraction = [] then [] else '.' :: t.fraction)

def offsetChars : Offset → List Char
  | .zulu => ['Z']
  | .minutes negative amount =>
    (if negative then '-' else '+') :: padded 2 (amount / 60) ++ ':' :: padded 2 (amount % 60)

def text : DateTime → String
  | .date d => .ofList (dateChars d)
  | .time t => .ofList (timeChars t)
  | .both d t offset =>
    .ofList (dateChars d ++ 'T' :: timeChars t ++ (offset.map offsetChars).getD [])

def digits? (width : Nat) (text : List Char) : Option (Nat × List Char) :=
  let digits := text.take width
  if digits.length = width ∧ digits.all Char.isDigit then
    some (digits.foldl (fun n c => n * 10 + (c.toNat - '0'.toNat)) 0, text.drop width)
  else
    none

def char? (c : Char) : List Char → Option (List Char)
  | x :: rest => if x = c then some rest else none
  | [] => none

def isLeapYear (year : Nat) : Bool :=
  year % 4 == 0 && (year % 100 != 0 || year % 400 == 0)

def daysIn (year month : Nat) : Nat :=
  if month = 2 then (if isLeapYear year then 29 else 28)
  else if month ∈ [4, 6, 9, 11] then 30
  else 31

def date? (text : List Char) : Option (Date × List Char) := do
  let (year, rest) ← digits? 4 text
  let (month, rest) ← digits? 2 (← char? '-' rest)
  let (day, rest) ← digits? 2 (← char? '-' rest)
  if 1 ≤ month ∧ month ≤ 12 ∧ 1 ≤ day ∧ day ≤ daysIn year month then
    return (⟨year, month, day⟩, rest)
  none

def significant (digits : List Char) : List Char :=
  ((digits.take 9).reverse.dropWhile (· == '0')).reverse

structure Limits where
  lastHour : Nat
  allowsOffset : Nat → Nat → Bool

def Limits.bare : Limits :=
  ⟨23, fun hour minute => decide (hour ≤ 23 ∧ minute ≤ 59)⟩

def Limits.quoted : Limits :=
  ⟨24, fun hour minute => decide (hour * 60 + minute ≤ 24 * 60)⟩

def time? (limits : Limits) (text : List Char) : Option (Time × List Char) := do
  let (hour, rest) ← digits? 2 text
  let (minute, rest) ← digits? 2 (← char? ':' rest)
  let (second, rest) ← digits? 2 (← char? ':' rest)
  if limits.lastHour < hour ∨ 59 < minute ∨ 60 < second then
    none
  match rest with
  | '.' :: rest =>
    let digits := rest.takeWhile Char.isDigit
    if digits = [] then
      none
    return (⟨hour, minute, second, significant digits⟩, rest.dropWhile Char.isDigit)
  | _ => return (⟨hour, minute, second, []⟩, rest)

def offset? (limits : Limits) (text : List Char) : Option (Nat × List Char) := do
  let (hour, rest) ← digits? 2 text
  let (minute, rest) ← digits? 2 (← char? ':' rest)
  if !limits.allowsOffset hour minute then
    none
  return (hour * 60 + minute, rest)

def offsetEnd? (limits : Limits) (text : List Char) : Option (Option Offset × List Char) :=
  match text with
  | 'Z' :: rest | 'z' :: rest => some (some .zulu, rest)
  | '+' :: rest => (offset? limits rest).map fun (amount, rest) => (some (.minutes false amount), rest)
  | '-' :: rest =>
    (offset? limits rest).map fun (amount, rest) => (some (.minutes (amount != 0) amount), rest)
  | _ => some (none, text)

/--
Reads a date or a time. A date may be followed by a time, behind the letter `T` or one space; if no
time follows a space, the date stands alone.
-/
def read? (limits : Limits) (text : List Char) : Option (DateTime × List Char) :=
  match date? text with
  | none => (time? limits text).map fun (t, rest) => (.time t, rest)
  | some (d, rest) =>
    match rest with
    | 'T' :: following | 't' :: following | ' ' :: following =>
      match time? limits following with
      | none => some (.date d, rest)
      | some (t, rest) => (offsetEnd? limits rest).map fun (offset, rest) => (.both d t offset, rest)
    | _ => some (.date d, rest)

def ofText? (text : String) : Option DateTime :=
  match read? .quoted text.toList with
  | some (value, []) => some value
  | _ => none

def startsLike (text : List Char) : Bool :=
  let behind := text.dropWhile Char.isDigit
  let width := (text.takeWhile Char.isDigit).length
  (width == 4 && behind.head? == some '-') || (width == 2 && behind.head? == some ':')

end DateTime

end ServiceHost
