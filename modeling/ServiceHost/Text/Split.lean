/-!
This module contains the cuts that paths, queries, directives and arguments are taken apart with.
They work on the characters of a text.
-/

namespace ServiceHost.Text

def trim (c : Char) (text : List Char) : List Char :=
  ((text.dropWhile (· == c)).reverse.dropWhile (· == c)).reverse

def pieces (c : Char) : List Char → List (List Char)
  | [] => [[]]
  | x :: xs =>
    if x = c then
      [] :: pieces c xs
    else
      match pieces c xs with
      | [] => [[x]]
      | first :: others => (x :: first) :: others

def cut? (c : Char) : List Char → Option (List Char × List Char)
  | [] => none
  | x :: xs =>
    if x = c then
      some ([], xs)
    else
      (cut? c xs).map fun (before, after) => (x :: before, after)

def cut (c : Char) (text : List Char) : List Char × List Char :=
  (cut? c text).getD (text, [])

def after? : (start : List Char) → (text : List Char) → Option (List Char)
  | [], text => some text
  | _ :: _, [] => none
  | s :: start, x :: text => if s = x then after? start text else none

def replaceFirst (pattern replacement : List Char) (text : List Char) : List Char :=
  match after? pattern text, text with
  | some rest, _ => replacement ++ rest
  | none, [] => []
  | none, x :: rest => x :: replaceFirst pattern replacement rest
termination_by text.length

def join (separator : List Char) : List (List Char) → List Char
  | [] => []
  | [part] => part
  | part :: parts => part ++ separator ++ join separator parts

end ServiceHost.Text
