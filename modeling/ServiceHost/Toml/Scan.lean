/-!
This module contains the loop that reads the parts of strings, arrays, tables and documents, and the
characters that separate them.
-/

namespace ServiceHost.Toml

inductive Step (α : Type) where
  | part (value : α) (rest : List Char)
  | finish (rest : List Char)
  | refuse

def parts? {α : Type} (step : List Char → Step α) : (fuel : Nat) → List Char → Option (List α × List Char)
  | 0, _ => none
  | fuel + 1, text =>
    match step text with
    | .refuse => none
    | .finish rest => some ([], rest)
    | .part value rest =>
      (parts? step fuel rest).map fun (values, rest) => (value :: values, rest)

def scan? {α : Type} (step : List Char → Step α) (text : List Char) : Option (List α × List Char) :=
  parts? step (text.length + 1) text

def isSpace (c : Char) : Bool :=
  c == ' ' || c == '\t'

def isPrintable (c : Char) : Bool :=
  c == '\t' || (decide (0x20 ≤ c.toNat) && c.toNat != 0x7F)

def skipSpaces (text : List Char) : List Char :=
  text.dropWhile isSpace

def skipComment : List Char → List Char
  | '#' :: rest => rest.dropWhile isPrintable
  | text => text

def endOfLine? (text : List Char) : Option (List Char) :=
  match skipComment (skipSpaces text) with
  | [] => some []
  | '\n' :: rest => some rest
  | _ => none

theorem skipSpaces_length_le (text : List Char) : (skipSpaces text).length ≤ text.length :=
  (List.dropWhile_sublist isSpace).length_le

theorem skipComment_length_le (text : List Char) : (skipComment text).length ≤ text.length := by
  unfold skipComment
  split
  . exact Nat.le_succ_of_le (List.dropWhile_sublist isPrintable).length_le
  . exact Nat.le_refl _

def skipGaps (text : List Char) : List Char :=
  match _ : skipComment (skipSpaces text) with
  | '\n' :: rest => skipGaps rest
  | _ => skipSpaces text
termination_by text.length
decreasing_by
  rename_i h
  have := skipComment_length_le (skipSpaces text)
  have := skipSpaces_length_le text
  simp only [h, List.length_cons] at *
  omega

def unifyLineBreaks : List Char → List Char
  | '\r' :: '\n' :: rest => '\n' :: unifyLineBreaks rest
  | c :: rest => c :: unifyLineBreaks rest
  | [] => []

end ServiceHost.Toml
