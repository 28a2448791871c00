import ServiceHost.Json.Reader

/-!
This module contains what string literals are read as: whatever follows the literal of a text, the reader gives
back this text and stops at the closing quote.
-/

namespace ServiceHost.Json.Reader

theorem hexNumber?_control {n : Nat} (h : n < 0x20) :
    hexNumber? '0' '0' (Nat.digitChar (n / 16)) (Nat.digitChar (n % 16)) = some n := by
  have hall : ∀ n < 0x20, hexNumber? '0' '0' (Nat.digitChar (n / 16)) (Nat.digitChar (n % 16)) = some n := by
    decide
  exact hall n h

theorem string?_control {c : Char} (h : c.toNat < 0x20) (rest : List Char) :
    string?
        ('\\' :: 'u' :: '0' :: '0' :: Nat.digitChar (c.toNat / 16) :: Nat.digitChar (c.toNat % 16) :: rest)
      =
    (string? rest).map fun (text, rest) => (c :: text, rest) := by
  have hplain : c.toNat < 0xD800 ∨ 0xDFFF < c.toNat := by omega
  rw [string?, hexNumber?_control h]
  dsimp only
  rw [if_pos hplain, Char.ofNat_toNat]

theorem string?_raw {c : Char} (hquote : c ≠ '"') (hslash : c ≠ '\\') (h : ¬ c.toNat < 0x20) (rest : List Char) :
    string? (c :: rest) = (string? rest).map fun (text, rest) => (c :: text, rest) := by
  rw [string?.eq_def]
  split
  . next heq => cases heq
  . next heq => exact absurd (List.cons.inj heq).1 hquote
  . next heq => exact absurd (List.cons.inj heq).1 hslash
  . next heq => exact absurd (List.cons.inj heq).1 hslash
  . next heq =>
    cases heq
    rw [if_neg]
    simp [hslash, h]

theorem string?_escapeChar (c : Char) (rest : List Char) :
    string? (escapeChar c ++ rest) = (string? rest).map fun (text, rest) => (c :: text, rest) := by
  unfold escapeChar
  split
  . next h => subst h; rfl
  split
  . next h => subst h; rfl
  split
  . next h => subst h; rfl
  split
  . next h => subst h; rfl
  split
  . next h => subst h; rfl
  split
  . next h => subst h; rfl
  split
  . next h => subst h; rfl
  split
  . next h => exact string?_control h rest
  . next hquote hslash _ _ _ _ _ h => exact string?_raw hquote hslash h rest

theorem string?_flatMap_escapeChar (text rest : List Char) :
    string? (text.flatMap escapeChar ++ '"' :: rest) = some (text, rest) := by
  induction text with
  | nil => rfl
  | cons c text ih =>
    rw [List.flatMap_cons, List.append_assoc, string?_escapeChar, ih]
    rfl

end ServiceHost.Json.Reader
