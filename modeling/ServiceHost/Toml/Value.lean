import ServiceHost.Toml.DateTime

/-!
This module contains the values of TOML, the language of configuration files.
-/

namespace ServiceHost

/-- A TOML value. Tables keep their entries in the order in which they were first mentioned. -/
inductive Toml where
  | string (value : String)
  | integer (value : Int)
  | float (value : Float)
  | boolean (value : Bool)
  | datetime (value : DateTime)
  | array (elements : List Toml)
  | table (entries : List (String × Toml))
  deriving Inhabited

namespace Toml

mutual

def same : Toml → Toml → Bool
  | .string s, .string s' => decide (s = s')
  | .integer n, .integer n' => decide (n = n')
  | .float x, .float x' => decide (x = x')
  | .boolean b, .boolean b' => decide (b = b')
  | .datetime d, .datetime d' => decide (d = d')
  | .array elements, .array elements' => sameElements elements elements'
  | .table entries, .table entries' => sameEntries entries entries'
  | _, _ => false

def sameElements : List Toml → List Toml → Bool
  | [], [] => true
  | value :: rest, value' :: rest' => same value value' && sameElements rest rest'
  | _, _ => false

def sameEntries : List (String × Toml) → List (String × Toml) → Bool
  | [], [] => true
  | (key, value) :: rest, (key', value') :: rest' =>
    decide (key = key') && same value value' && sameEntries rest rest'
  | _, _ => false

end

mutual

theorem same_iff (value value' : Toml) : same value value' = true ↔ value = value' := by
  match value with
  | .array elements => cases value' <;> simp [same, sameElements_iff elements]
  | .table entries => cases value' <;> simp [same, sameEntries_iff entries]
  | .string _ | .integer _ | .float _ | .boolean _ | .datetime _ => cases value' <;> simp [same]

theorem sameElements_iff (elements elements' : List Toml) :
    sameElements elements elements' = true ↔ elements = elements' := by
  match elements with
  | [] => cases elements' <;> simp [sameElements]
  | value :: rest => cases elements' <;> simp [sameElements, same_iff value, sameElements_iff rest]

theorem sameEntries_iff (entries entries' : List (String × Toml)) :
    sameEntries entries entries' = true ↔ entries = entries' := by
  match entries with
  | [] => cases entries' <;> simp [sameEntries]
  | (key, value) :: rest =>
    cases entries' <;> simp [sameEntries, same_iff value, sameEntries_iff rest, Prod.ext_iff]

end

instance : DecidableEq Toml :=
  fun value value' => decidable_of_iff _ (same_iff value value')

end Toml

end ServiceHost
