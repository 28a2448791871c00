import ServiceHost.Toml.Assembly
import ServiceHost.Toml.Literal

/-!
This module contains the reader of TOML documents: values, the lines of a document, and the table that
the lines make up.
-/

namespace ServiceHost.Toml

def elementPart (value : List Char → Option (Toml × List Char)) (text : List Char) : Step Toml :=
  match skipGaps text with
  | ']' :: rest => .finish rest
  | text =>
    match value text with
    | none => .refuse
    | some (element, rest) =>
      match skipGaps rest with
      | ',' :: rest => .part element rest
      | ']' :: rest => .part element (']' :: rest)
      | _ => .refuse

def pair? (value : List Char → Option (Toml × List Char)) (text : List Char) :
    Option ((List String × Toml) × List Char) := do
  let (keys, rest) ← key? text
  match rest with
  | '=' :: rest =>
    let (v, rest) ← value (skipSpaces rest)
    return ((keys, v), skipSpaces rest)
  | _ => none

def laterPair (value : List Char → Option (Toml × List Char)) (text : List Char) :
    Step (List String × Toml) :=
  match text with
  | ',' :: rest =>
    match pair? value rest with
    | some (pair, rest) => .part pair rest
    | none => .refuse
  | '\x7d' :: rest => .finish rest
  | _ => .refuse

def pairs? (value : List Char → Option (Toml × List Char)) (text : List Char) :
    Option (List (List String × Toml) × List Char) :=
  match skipSpaces text with
  | '\x7d' :: rest => some ([], rest)
  | text => do
    let (first, rest) ← pair? value text
    let (later, rest) ← scan? (laterPair value) rest
    return (first :: later, rest)

def assignPair? (entries : Entries) (pair : List String × Toml) : Option Entries := do
  entries.assign? pair.1.dropLast (← pair.1.getLast?) pair.2

def tableOfPairs? (pairs : List (List String × Toml)) : Option Toml := do
  let entries ← pairs.foldlM assignPair? []
  return .table (finishEntries entries)

def value? : (depth : Nat) → List Char → Option (Toml × List Char)
  | 0, text => scalar? text
  | depth + 1, text =>
    match text with
    | '[' :: rest =>
      (scan? (elementPart (value? depth)) rest).map fun (elements, rest) => (.array elements, rest)
    | '\x7b' :: rest => do
      let (pairs, rest) ← pairs? (value? depth) rest
      return (← tableOfPairs? pairs, rest)
    | _ => scalar? text

inductive Line where
  | blank
  | pair (keys : List String) (value : Toml)
  | header (keys : List String)
  | element (keys : List String)

def lineContent? (text : List Char) : Option (Line × List Char) :=
  match text with
  | '[' :: '[' :: rest =>
    match key? rest with
    | some (keys, ']' :: ']' :: rest) => some (.element keys, rest)
    | _ => none
  | '[' :: rest =>
    match key? rest with
    | some (keys, ']' :: rest) => some (.header keys, rest)
    | _ => none
  | '#' :: _ | '\n' :: _ | [] => some (.blank, text)
  | _ => (pair? (value? (depthLimit - 1)) text).map fun ((keys, value), rest) => (.pair keys value, rest)

def linePart (text : List Char) : Step Line :=
  match text with
  | [] => .finish []
  | _ =>
    match (lineContent? (skipSpaces text)) with
    | none => .refuse
    | some (line, rest) =>
      match endOfLine? rest with
      | some rest => .part line rest
      | none => .refuse

structure Draft where
  root : Entries
  header : List String

def Draft.add? (draft : Draft) (line : Line) : Option Draft :=
  match line with
  | .blank => some draft
  | .pair keys value => do
    let root ← Entries.change? .implied
      (fun _ entries => assignPair? entries (keys, value)) draft.header .header draft.root
    return { draft with root }
  | .header keys => do
    return ⟨← draft.root.openTable? keys.dropLast (← keys.getLast?), keys⟩
  | .element keys => do
    return ⟨← draft.root.openElement? keys.dropLast (← keys.getLast?), keys⟩

def withoutMark : List Char → List Char
  | '\ufeff' :: rest => rest
  | text => text

def parse? (text : String) : Option (List (String × Toml)) := do
  let (lines, _) ← scan? linePart (unifyLineBreaks (withoutMark text.toList))
  let draft ← lines.foldlM Draft.add? ⟨[], []⟩
  return finishEntries draft.root

end ServiceHost.Toml
