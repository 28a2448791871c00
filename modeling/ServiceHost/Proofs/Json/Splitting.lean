import ServiceHost.Proofs.Json.Reading

/-!
This module contains how the text of an object is taken apart: into the names of its members and the texts of their
values.
-/

namespace ServiceHost.Json

def memberTexts? : (fuel : Nat) → List Char → Option (List (String × String) × List Char)
  | 0, _ => none
  | fuel + 1, text => do
    let '"' :: rest := Reader.skipBlanks text | none
    let (name, rest) ← Reader.string? rest
    let ':' :: rest := Reader.skipBlanks rest | none
    let front := Reader.skipBlanks rest
    let (_, rest) ← Reader.value? none (2 * front.length + 1) front.length front
    let member := (.ofList name, .ofList (front.take (front.length - rest.length)))
    match Reader.skipBlanks rest with
    | ',' :: rest =>
      let (members, rest) ← memberTexts? fuel rest
      return (member :: members, rest)
    | '\x7d' :: rest => return ([member], rest)
    | _ => none

def split? (text : String) : Option (List (String × String)) := do
  let '\x7b' :: rest := Reader.skipBlanks text.toList | none
  let (members, rest) ← match Reader.skipBlanks rest with
    | '\x7d' :: rest => some ([], rest)
    | rest => memberTexts? rest.length rest
  if Reader.skipBlanks rest = [] then some members else none

mutual

theorem depth_le_length (value : Json) : value.depth ≤ value.chars.length := by
  match value with
  | .array elements =>
    have := elementsDepth_le_length elements
    simp only [depth, chars, List.length_append, List.length_cons]
    omega
  | .object members =>
    have := membersDepth_le_length members
    simp only [depth, chars, List.length_append, List.length_cons]
    omega
  | .null | .bool _ | .integer _ | .float _ | .string _ => exact Nat.zero_le _

theorem elementsDepth_le_length (values : List Json) : elementsDepth values ≤ (elementChars values).length := by
  match values with
  | [] => exact Nat.zero_le _
  | [value] =>
    have := depth_le_length value
    simp only [elementsDepth, elementChars]
    omega
  | value :: next :: values =>
    have := depth_le_length value
    have := elementsDepth_le_length (next :: values)
    rw [elementsDepth, elementChars, List.length_append, List.length_cons]
    omega

theorem membersDepth_le_length (members : List (String × Json)) :
    membersDepth members ≤ (memberChars members).length := by
  match members with
  | [] => exact Nat.zero_le _
  | [(name, value)] =>
    have := depth_le_length value
    simp only [membersDepth, memberChars, List.length_append, List.length_cons]
    omega
  | (name, value) :: next :: members =>
    have := depth_le_length value
    have := membersDepth_le_length (next :: members)
    rw [membersDepth, memberChars, List.length_append, List.length_append, List.length_cons, List.length_cons]
    omega

end

open Reader

theorem memberTexts?_name {fuel : Nat} {text rest : List Char} {name : String} {value : Json}
    (hvalue : value.IsValue) (htext : skipBlanks text = value.chars ++ rest) (hrest : EndsNumber rest) :
    memberTexts? (fuel + 1) (literal name.toList ++ ':' :: text)
      =
    match skipBlanks rest with
    | ',' :: rest => (memberTexts? fuel rest).map fun (members, rest) => ((name, value.compact) :: members, rest)
    | '\x7d' :: rest => some ([(name, value.compact)], rest)
    | _ => none := by
  have hdepth : value.depth ≤ (value.chars ++ rest).length := by
    rw [List.length_append]
    exact Nat.le_add_right_of_le (depth_le_length value)
  have hfuel : 2 * value.chars.length + 1 ≤ 2 * (value.chars ++ rest).length + 1 := by
    rw [List.length_append]
    omega
  have htake : (value.chars ++ rest).take ((value.chars ++ rest).length - rest.length) = value.chars := by
    rw [List.length_append, Nat.add_sub_cancel, List.take_left]
  obtain ⟨read, hread, -⟩ := value?_chars value hvalue (unembedded_none value) hfuel hdepth hrest
  rw [literal_append, memberTexts?, skipBlanks_cons (by decide)]
  split
  . next heq =>
    cases heq
    rw [string?_flatMap_escapeChar, Option.bind_eq_bind, Option.bind_some]
    dsimp only
    rw [skipBlanks_cons (by decide)]
    split
    . next heq =>
      cases heq
      rw [htext, hread, Option.bind_eq_bind, Option.bind_some]
      dsimp only
      rw [htake, String.ofList_toList]
      split
      . next tail _ => cases memberTexts? fuel tail <;> rfl
      . rfl
      . rfl
    . next hother => exact absurd rfl (hother _)
  . next hother => exact absurd rfl (hother _)

end ServiceHost.Json
