import ServiceHost.Toml.Value

/-!
This module contains the assembly of tables from the keys and headers that mention them. A table is
written down once: either under a header, or by keys with dots, or inside a value. What was only passed
on the way to something else can still be written down later.
-/

namespace ServiceHost.Toml

inductive Origin where
  | header
  | implied
  | dotted
  deriving DecidableEq, Repr

inductive Node where
  | value (value : Toml)
  | table (origin : Origin) (entries : List (String × Node))
  | tables (elements : List (List (String × Node)))
  deriving Inhabited

abbrev Entries := List (String × Node)

namespace Entries

def replace (key : String) (node : Node) (entries : Entries) : Entries :=
  entries.map fun (k, n) => if k = key then (k, node) else (k, n)

def accepts (path : List String) (origin : Origin) : Bool :=
  (path != []) == (origin == .dotted)

/--
Changes the table that a path leads to. Missing tables on the way are made by `passing`; the last
table of several ones stands for them; and dots do not lead into tables with a header of their own.
-/
def change? (passing : Origin) (f : Origin → Entries → Option Entries) :
    List String → Origin → Entries → Option Entries
  | [], origin, entries => f origin entries
  | key :: path, _, entries =>
    match entries.lookup key with
    | none => do
      let made ← change? passing f path passing []
      return entries ++ [(key, .table passing made)]
    | some (.value _) => none
    | some (.tables elements) => do
      let last ← elements.getLast?
      let changed ← change? passing f path .header last
      return entries.replace key (.tables (elements.dropLast ++ [changed]))
    | some (.table origin inner) =>
      if passing = .dotted ∧ origin = .header then
        none
      else do
        let changed ← change? passing f path origin inner
        return entries.replace key (.table origin changed)

def assign? (path : List String) (key : String) (value : Toml) (entries : Entries) : Option Entries :=
  change? .dotted
    (fun origin entries =>
      if accepts path origin ∧ (entries.lookup key).isNone then
        some (entries ++ [(key, .value value)])
      else
        none)
    path .header entries

/-- Opens the table of a header. One that was only implied moves behind its neighbours. -/
def openTable? (path : List String) (key : String) (root : Entries) : Option Entries :=
  change? .implied
    (fun _ entries =>
      match entries.lookup key with
      | none => some (entries ++ [(key, .table .header [])])
      | some (.table .implied inner) =>
        some (entries.filter (·.1 ≠ key) ++ [(key, .table .header inner)])
      | _ => none)
    path .header root

def openElement? (path : List String) (key : String) (root : Entries) : Option Entries :=
  change? .implied
    (fun _ entries =>
      match entries.lookup key with
      | none => some (entries ++ [(key, .tables [[]])])
      | some (.tables elements) => some (entries.replace key (.tables (elements ++ [[]])))
      | _ => none)
    path .header root

end Entries

mutual

def Node.finish : Node → Toml
  | .value value => value
  | .table _ entries => .table (finishEntries entries)
  | .tables elements => .array (finishTables elements)

def finishEntries : List (String × Node) → List (String × Toml)
  | [] => []
  | (key, node) :: rest => (key, node.finish) :: finishEntries rest

def finishTables : List (List (String × Node)) → List Toml
  | [] => []
  | entries :: rest => .table (finishEntries entries) :: finishTables rest

end

end ServiceHost.Toml
