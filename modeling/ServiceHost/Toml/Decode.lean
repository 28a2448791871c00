import ServiceHost.Keyed
import ServiceHost.Toml.Misfit

/-!
This module contains the decoding of TOML values into what a configuration expects. A value either fits
or is a misfit, and of several misfits the first one in the order of the document counts.
-/

namespace ServiceHost.Toml

abbrev Decoder (α : Type) := Toml → Except Misfit α

def datetimeKey : String := "$__toml_private_datetime"

namespace Decoder

def mismatch {α : Type} (expected : String) (value : Toml) : Except Misfit α :=
  .error (.here (.type (describe value) expected))

def string : Decoder String
  | .string s => .ok s
  | value => mismatch "a string" value

def boolean : Decoder Bool
  | .boolean b => .ok b
  | value => mismatch "a boolean" value

def integerWithin (low high : Int) (expected : String) : Decoder Int
  | .integer n =>
    if low ≤ n ∧ n ≤ high then .ok n
    else .error (.here (.value (describe (.integer n)) expected))
  | value => mismatch expected value

def natural : Decoder Nat := fun value =>
  (integerWithin 0 (UInt64.size - 1) "u64" value).map Int.toNat

def float : Decoder Float
  | .float x => .ok x
  | .integer n => .ok (.ofInt n)
  | value => mismatch "f64" value

def optional {α : Type} (element : Decoder α) : Decoder (Option α) := fun value =>
  (element value).map some

def list {α : Type} (element : Decoder α) : Decoder (List α)
  | .array elements => elements.mapM element
  | value => mismatch "a sequence" value

/-- Values under keys. A date counts as a table with one entry. -/
def keyed {α : Type} (element : Decoder α) : Decoder (Keyed α)
  | .table entries => do
    let pairs ← entries.mapM fun (key, value) => do
      match element value with
      | .ok a => return (key, a)
      | .error misfit => .error (misfit.under key)
    return .ofList pairs
  | .datetime d => do return .ofList [(datetimeKey, ← element (.string d.text))]
  | value => mismatch "a map" value

/-- One of some names. A table with one name, under which nothing stands, is that name, too. -/
def variant {α : Type} (names : List (String × α)) : Decoder α
  | .string s => find s
  | .table [(name, value)] =>
    match find name, value with
    | .error misfit, _ => .error misfit
    | .ok a, .table [] => .ok a
    | .ok a, .array [] => .ok a
    | .ok _, _ => .error (.here .noVariant)
  | _ => .error (.here .noVariant)
where
  find (name : String) : Except Misfit α :=
    match names.lookup name with
    | some a => .ok a
    | none => .error (.here (.unknownVariant name (names.map (·.1))))

end Decoder

structure Field (α : Type) where
  name : String
  read : Toml → α → Except Misfit α

def Field.of {α β : Type} (name : String) (decode : Decoder β) (put : β → α → α) : Field α where
  name := name
  read value record := (decode value).map fun b => put b record

structure RecordForm (α : Type) where
  expected : String
  fields : List (Field α)
  /-- What an array of too few values lacks, when it may not be left out. -/
  lacking : α → Option Problem
  missing : α → Option Problem

namespace RecordForm

variable {α : Type}

def lenient (expected : String) (fields : List (Field α)) : RecordForm α :=
  ⟨expected, fields, fun _ => none, fun _ => none⟩

def complete (missing : α → Option Problem) (record : α) : Except Misfit α :=
  match missing record with
  | some problem => .error (.here problem)
  | none => .ok record

def readEntry (form : RecordForm α) (record : α) (entry : String × Toml) : Except Misfit α :=
  match form.fields.find? (·.name = entry.1) with
  | none => .ok record
  | some field =>
    match field.read entry.2 record with
    | .ok record => .ok record
    | .error misfit => .error (misfit.under entry.1)

/--
Reads a record over its defaults: from a table, or from an array of the values of its fields. When
`exact`, the array must not have more values than there are fields.
-/
def decode (form : RecordForm α) (exact : Bool) (defaults : α) : Decoder α
  | .table entries => do complete form.missing (← entries.foldlM form.readEntry defaults)
  | .datetime _ => complete form.missing defaults
  | .array elements => do
    let record ← (form.fields.zip elements).foldlM
      (fun record (field, value) => field.read value record) defaults
    let record ← complete form.lacking record
    if exact ∧ form.fields.length < elements.length then
      .error (.here (.length elements.length "fewer elements in array"))
    return record
  | value => Decoder.mismatch form.expected value

end RecordForm

def dateOf (leftOver : String) (value : Toml) (others : Nat) : Except Misfit Toml := do
  let text ← match value with
    | .string text => .ok text
    | value => Decoder.mismatch "string containing a datetime" value
  match DateTime.ofText? text with
  | none => .error (.here .notADate)
  | some date =>
    if others = 0 then return .datetime date
    .error (.here (.length (others + 1) leftOver))

mutual

/--
A value of any kind. A table whose first key is `datetimeKey` is a date and must have no other entries;
`leftOver` says what else was expected.
-/
def unrestricted (leftOver : String) : Decoder Toml
  | .array elements => (unrestrictedElements leftOver elements).map .array
  | .table entries => unrestrictedTable leftOver entries
  | value => .ok value

def unrestrictedElements (leftOver : String) : List Toml → Except Misfit (List Toml)
  | [] => .ok []
  | value :: rest => do
    let value ← unrestricted leftOver value
    return value :: (← unrestrictedElements leftOver rest)

def unrestrictedTable (leftOver : String) : List (String × Toml) → Except Misfit Toml
  | [] => .ok (.table [])
  | (key, value) :: rest => do
    if key = datetimeKey then
      return ← dateOf leftOver value rest.length
    let value ← unrestricted leftOver value
    return .table ((key, value) :: (← unrestrictedEntries leftOver rest))

def unrestrictedEntries (leftOver : String) : List (String × Toml) → Except Misfit (List (String × Toml))
  | [] => .ok []
  | (key, value) :: rest => do
    let value ← unrestricted leftOver value
    return (key, value) :: (← unrestrictedEntries leftOver rest)

end

def Decoder.any : Decoder Toml :=
  unrestricted "fewer elements in map"

mutual

def plain : Toml → Toml
  | .datetime d => .string d.text
  | .array elements => .array (plainElements elements)
  | .table entries => .table (plainEntries entries)
  | .string s => .string s
  | .integer n => .integer n
  | .float x => .float x
  | .boolean b => .boolean b

def plainElements : List Toml → List Toml
  | [] => []
  | value :: rest => plain value :: plainElements rest

def plainEntries : List (String × Toml) → List (String × Toml)
  | [] => []
  | (key, value) :: rest => Entries.insert key (plain value) (plainEntries rest)

end

end ServiceHost.Toml
