import Mathlib.Data.List.Basic
import ServiceHost.Text.Utf8

/-!
This module contains that texts are read back from their UTF-8 bytes: the first byte of a character tells how
many others belong to it, and together they hold its bits.
-/

namespace ServiceHost.Utf8

theorem follow_cons {bits low high n : Nat} (hlow : low ≤ n) (hhigh : n ≤ high) (hbyte : high < 0x100)
    (ranges : List (Nat × Nat)) (bytes : List UInt8) :
    follow bits ((low, high) :: ranges) (.ofNat n :: bytes)
      =
    ((follow (bits * 0x40 + n % 0x40) ranges bytes).1,
      (follow (bits * 0x40 + n % 0x40) ranges bytes).2 + 1) := by
  have hn : (UInt8.ofNat n).toNat = n := UInt8.toNat_ofNat_of_lt' (Nat.lt_of_le_of_lt hhigh hbyte)
  rw [follow, hn, if_pos ⟨hlow, hhigh⟩]

theorem lead?_two {n : Nat} (hlow : 0x80 ≤ n) (hhigh : n < 0x800) :
    lead? (0xC0 + n / 0x40) = some (n / 0x40, [tail]) := by
  unfold lead?
  rw [if_neg (by omega), if_neg (by omega), if_pos (by omega), Nat.add_sub_cancel_left]

theorem lead?_three {n : Nat} (hlow : 0x800 ≤ n) (hhigh : n < 0x10000) (hvalid : n < 0xD800 ∨ 0xDFFF < n) :
    ∃ low high,
      lead? (0xE0 + n / 0x1000) = some (n / 0x1000, [(low, high), tail])
        ∧
      low ≤ 0x80 + n / 0x40 % 0x40 ∧ 0x80 + n / 0x40 % 0x40 ≤ high ∧ high < 0x100 := by
  unfold lead?
  rw [if_neg (by omega), if_neg (by omega), if_neg (by omega)]
  split
  . next h =>
    refine ⟨0xA0, 0xBF, ?_, by omega, by omega, by omega⟩
    rw [show n / 0x1000 = 0 by omega]
  . split
    . next h =>
      refine ⟨0x80, 0x9F, ?_, by omega, by omega, by omega⟩
      rw [show n / 0x1000 = 0xD by omega]
    . rw [if_pos (by omega), Nat.add_sub_cancel_left]
      exact ⟨0x80, 0xBF, rfl, by omega, by omega, by omega⟩

theorem lead?_four {n : Nat} (hlow : 0x10000 ≤ n) (hhigh : n < 0x110000) :
    ∃ low high,
      lead? (0xF0 + n / 0x40000) = some (n / 0x40000, [(low, high), tail, tail])
        ∧
      low ≤ 0x80 + n / 0x1000 % 0x40 ∧ 0x80 + n / 0x1000 % 0x40 ≤ high ∧ high < 0x100 := by
  unfold lead?
  rw [if_neg (by omega), if_neg (by omega), if_neg (by omega), if_neg (by omega), if_neg (by omega)]
  rw [if_neg (by omega)]
  split
  . next h =>
    refine ⟨0x90, 0xBF, ?_, by omega, by omega, by omega⟩
    rw [show n / 0x40000 = 0 by omega]
  . split
    . rw [Nat.add_sub_cancel_left]
      exact ⟨0x80, 0xBF, rfl, by omega, by omega, by omega⟩
    . rw [if_pos (by omega)]
      refine ⟨0x80, 0x8F, ?_, by omega, by omega, by omega⟩
      rw [show n / 0x40000 = 4 by omega]

theorem front_of_lead? {n bits : Nat} {ranges : List (Nat × Nat)} (hn : n < 0x100)
    (h : lead? n = some (bits, ranges)) (bytes : List UInt8) :
    front (.ofNat n) bytes = follow bits ranges bytes := by
  unfold front
  rw [UInt8.toNat_ofNat_of_lt' hn, h]

theorem exists_encodeChar (c : Char) :
    ∃ b others, encodeChar c = b :: others ∧ ∀ bytes, front b (others ++ bytes) = (some c, others.length) := by
  have hvalid : c.toNat < 0xD800 ∨ 0xDFFF < c.toNat ∧ c.toNat < 0x110000 := c.valid
  have hc : Char.ofNat c.toNat = c := Char.ofNat_toNat c
  unfold encodeChar
  dsimp only
  split
  . next hone =>
    refine ⟨_, [], rfl, ?_⟩
    intro bytes
    rw [front_of_lead? (by omega) (if_pos hone), follow, hc]
    rfl
  . split
    . refine ⟨_, _, rfl, ?_⟩
      intro bytes
      rw [front_of_lead? (by omega) (lead?_two (by omega) (by omega)), List.cons_append]
      rw [tail, follow_cons (by omega) (by omega) (by omega)]
      rw [show c.toNat / 0x40 * 0x40 + (0x80 + c.toNat % 0x40) % 0x40 = c.toNat by omega]
      rw [follow, hc]
      rfl
    . split
      . obtain ⟨low, high, hlead, hlow, hhigh, hbyte⟩ := lead?_three (n := c.toNat) (by omega) (by omega) (by omega)
        refine ⟨_, _, rfl, ?_⟩
        intro bytes
        rw [front_of_lead? (by omega) hlead, List.cons_append, List.cons_append]
        rw [follow_cons hlow hhigh hbyte, tail, follow_cons (by omega) (by omega) (by omega)]
        rw [show (c.toNat / 0x1000 * 0x40 + (0x80 + c.toNat / 0x40 % 0x40) % 0x40) * 0x40 +
          (0x80 + c.toNat % 0x40) % 0x40 = c.toNat by omega]
        rw [follow, hc]
        rfl
      . obtain ⟨low, high, hlead, hlow, hhigh, hbyte⟩ := lead?_four (n := c.toNat) (by omega) (by omega)
        refine ⟨_, _, rfl, ?_⟩
        intro bytes
        rw [front_of_lead? (by omega) hlead, List.cons_append, List.cons_append, List.cons_append]
        rw [follow_cons hlow hhigh hbyte, tail, follow_cons (by omega) (by omega) (by omega)]
        rw [follow_cons (by omega) (by omega) (by omega)]
        rw [show ((c.toNat / 0x40000 * 0x40 + (0x80 + c.toNat / 0x1000 % 0x40) % 0x40) * 0x40 +
          (0x80 + c.toNat / 0x40 % 0x40) % 0x40) * 0x40 + (0x80 + c.toNat % 0x40) % 0x40 = c.toNat by omega]
        rw [follow, hc]
        rfl

theorem decode_encodeChar_append (c : Char) (bytes : List UInt8) :
    decode (encodeChar c ++ bytes) = some c :: decode bytes := by
  obtain ⟨b, others, hencode, hfront⟩ := exists_encodeChar c
  rw [hencode, List.cons_append, decode, hfront, List.drop_left]

theorem decode_encode (text : List Char) : decode (encode text) = text.map some := by
  unfold encode
  induction text with
  | nil => simp [decode]
  | cons c text ih => rw [List.flatMap_cons, decode_encodeChar_append, ih, List.map_cons]

theorem decodeLossy_encode (text : List Char) : decodeLossy (encode text) = text := by
  unfold decodeLossy
  rw [decode_encode, List.map_map]
  exact List.map_id text

theorem encode_cons_of_lt {c : Char} (h : c.toNat < 0x80) (text : List Char) :
    encode (c :: text) = .ofNat c.toNat :: encode text := by
  unfold encode
  rw [List.flatMap_cons, encodeChar, if_pos h]
  rfl

end ServiceHost.Utf8
