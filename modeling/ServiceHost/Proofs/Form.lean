import ServiceHost.Form
import ServiceHost.Proofs.Text.Pieces
import ServiceHost.Proofs.Text.Utf8

/-!
This module contains that every list of pairs is read back from the query it was written as: the parts of a
pair come back as they were, and no character of a part separates anything.
-/

namespace ServiceHost

theorem Text.mem_join {x : Char} {separator : List Char} {parts : List (List Char)}
    (h : x ∈ join separator parts) : x ∈ separator ∨ ∃ part ∈ parts, x ∈ part := by
  induction parts with
  | nil => cases h
  | cons part parts ih =>
    cases parts with
    | nil => exact .inr ⟨part, List.mem_singleton_self part, h⟩
    | cons next parts =>
      simp only [join, List.mem_append] at h
      rcases h with (h | h) | h
      . exact .inr ⟨part, List.mem_cons_self, h⟩
      . exact .inl h
      . obtain hseparator | ⟨other, hother, hmem⟩ := ih h
        . exact .inl hseparator
        . exact .inr ⟨other, List.mem_cons_of_mem part hother, hmem⟩

namespace Form

theorem percentDecode_cons_of_ne {b : UInt8} (h : b ≠ 0x25) (rest : List UInt8) :
    percentDecode (b :: rest) = b :: percentDecode rest := by
  match rest with
  | [] => rfl
  | [_] => rfl
  | _ :: _ :: _ => rw [percentDecode, if_neg h]

theorem percentDecode_of_hexValue? {high low : UInt8} {h l : Nat} (hhigh : hexValue? high = some h)
    (hlow : hexValue? low = some l) (rest : List UInt8) :
    percentDecode (0x25 :: high :: low :: rest) = .ofNat (h * 16 + l) :: percentDecode rest := by
  rw [percentDecode, if_pos rfl, hhigh, hlow]

def spaced (part : List Char) : List Char :=
  part.map fun c => if c = '+' then ' ' else c

theorem encode_spaced_cons {c : Char} (hplus : c ≠ '+') (hbyte : c.toNat < 0x80) (part : List Char) :
    Utf8.encode (spaced (c :: part)) = .ofNat c.toNat :: Utf8.encode (spaced part) := by
  unfold spaced
  rw [List.map_cons, if_neg hplus, Utf8.encode_cons_of_lt hbyte]

theorem hexDigit_spec : ∀ n < 16,
    hexDigit n ≠ '+' ∧ (hexDigit n).toNat < 0x80 ∧ hexValue? (.ofNat (hexDigit n).toNat) = some n := by
  decide

theorem lt_of_isPlain {b : UInt8} (h : isPlain b = true) : b.toNat < 0x80 ∧ b.toNat ≠ 0x2B ∧ b.toNat ≠ 0x25 := by
  unfold isPlain at h
  simp only [Bool.or_eq_true, decide_eq_true_eq, beq_iff_eq] at h
  omega

theorem toNat_ofNat_of_lt {n : Nat} (h : n < 0x80) : (Char.ofNat n).toNat = n := by
  have hvalid : n.isValidChar := .inl (by omega)
  unfold Char.ofNat
  rw [dif_pos hvalid]
  rfl

theorem percentDecode_encodeByte (b : UInt8) (rest : List Char) :
    percentDecode (Utf8.encode (spaced (encodeByte b ++ rest)))
      =
    b :: percentDecode (Utf8.encode (spaced rest)) := by
  have hbyte : b.toNat < 256 := b.toNat_lt
  unfold encodeByte
  split
  . next hplain =>
    obtain ⟨hlow, hplus, hpercent⟩ := lt_of_isPlain hplain
    have hnat := toNat_ofNat_of_lt hlow
    have hne : Char.ofNat b.toNat ≠ '+' := by
      intro heq
      rw [heq] at hnat
      exact hplus hnat.symm
    rw [List.singleton_append, encode_spaced_cons hne (by rw [hnat]; exact hlow), hnat, UInt8.ofNat_toNat]
    apply percentDecode_cons_of_ne
    rintro rfl
    exact hpercent rfl
  . split
    . next hspace =>
      subst hspace
      exact percentDecode_cons_of_ne (by decide) _
    . obtain ⟨hplus, hlow, hvalue⟩ := hexDigit_spec (b.toNat / 16) (by omega)
      obtain ⟨hplus', hlow', hvalue'⟩ := hexDigit_spec (b.toNat % 16) (by omega)
      rw [List.cons_append, encode_spaced_cons (by decide) (by decide)]
      rw [List.cons_append, encode_spaced_cons hplus hlow]
      rw [List.cons_append, encode_spaced_cons hplus' hlow']
      rw [List.nil_append]
      have hdecode := percentDecode_of_hexValue? hvalue hvalue' (Utf8.encode (spaced rest))
      rw [show b.toNat / 16 * 16 + b.toNat % 16 = b.toNat by omega, UInt8.ofNat_toNat] at hdecode
      exact hdecode

theorem percentDecode_flatMap_encodeByte (bytes : List UInt8) :
    percentDecode (Utf8.encode (spaced (bytes.flatMap encodeByte))) = bytes := by
  induction bytes with
  | nil => rfl
  | cons b bytes ih => rw [List.flatMap_cons, percentDecode_encodeByte, ih]

theorem decodePart_encodePart (text : String) : decodePart (encodePart text) = text := by
  have hbytes := percentDecode_flatMap_encodeByte (Utf8.encode text.toList)
  unfold spaced at hbytes
  unfold decodePart encodePart
  dsimp only
  rw [hbytes, Utf8.decodeLossy_encode, String.ofList_toList]

def isMark (c : Char) : Bool :=
  ['&', '=', '#'].contains c

theorem isMark_hexDigit : ∀ n < 16, isMark (hexDigit n) = false := by
  decide

theorem isMark_of_mem_encodeByte {b : UInt8} {c : Char} (h : c ∈ encodeByte b) : isMark c = false := by
  have hbyte : b.toNat < 256 := b.toNat_lt
  unfold encodeByte at h
  split at h
  . next hplain =>
    rw [List.mem_singleton] at h
    subst h
    have hnat := toNat_ofNat_of_lt (lt_of_isPlain hplain).1
    rw [Bool.eq_false_iff]
    intro hmark
    simp only [isMark, List.contains_eq_mem, List.mem_cons, List.not_mem_nil, or_false, decide_eq_true_eq] at hmark
    unfold isPlain at hplain
    rcases hmark with hmark | hmark | hmark
    all_goals
      rw [hmark] at hnat
      rw [← hnat] at hplain
      exact absurd hplain (by decide)
  . split at h
    . rw [List.mem_singleton] at h
      subst h
      decide
    . simp only [List.mem_cons, List.not_mem_nil, or_false] at h
      obtain rfl | rfl | rfl := h
      . decide
      . exact isMark_hexDigit _ (by omega)
      . exact isMark_hexDigit _ (by omega)

theorem isMark_of_mem_encodePart {text : String} {c : Char} (h : c ∈ encodePart text) : isMark c = false := by
  unfold encodePart at h
  rw [List.mem_flatMap] at h
  obtain ⟨_, _, hbyte⟩ := h
  exact isMark_of_mem_encodeByte hbyte

theorem notMem_encodePart {c : Char} (h : isMark c = true) (text : String) : c ∉ encodePart text := by
  intro hmem
  rw [isMark_of_mem_encodePart hmem] at h
  cases h

theorem cut_encodePair (pair : String × String) :
    Text.cut '=' (encodePair pair) = (encodePart pair.1, encodePart pair.2) := by
  unfold Text.cut encodePair
  rw [Text.cut?_append (notMem_encodePart (by decide) pair.1), Option.getD_some]

theorem encodePair_ne_nil (pair : String × String) : encodePair pair ≠ [] := by
  unfold encodePair
  simp

theorem notMem_encodePair {c : Char} (h : isMark c = true) (hc : c ≠ '=') (pair : String × String) :
    c ∉ encodePair pair := by
  unfold encodePair
  rw [List.mem_append, List.mem_cons]
  rintro (hmem | heq | hmem)
  . exact notMem_encodePart h pair.1 hmem
  . exact hc heq
  . exact notMem_encodePart h pair.2 hmem

theorem decode_encode (pairs : List (String × String)) : decode (encode pairs) = pairs := by
  unfold decode encode
  rw [String.toList_ofList, Text.join_eq_intercalate]
  cases pairs with
  | nil => rfl
  | cons pair pairs =>
    have hamp : ∀ part ∈ (pair :: pairs).map encodePair, '&' ∉ part := by
      rw [List.forall_mem_map]
      intro pair _
      exact notMem_encodePair (by decide) (by decide) pair
    have hnil : ∀ part ∈ (pair :: pairs).map encodePair, decide (part ≠ []) = true := by
      rw [List.forall_mem_map]
      intro pair _
      exact decide_eq_true (encodePair_ne_nil pair)
    rw [Text.pieces_intercalate (by simp) hamp, List.filter_eq_self.mpr hnil, List.map_map]
    rw [List.map_congr_left (g := id), List.map_id]
    intro pair _
    simp only [Function.comp_apply, cut_encodePair, decodePart_encodePart, id]

theorem hash_notMem_encode (pairs : List (String × String)) : '#' ∉ (encode pairs).toList := by
  unfold encode
  rw [String.toList_ofList]
  intro hmem
  rcases Text.mem_join hmem with hmem | ⟨part, hpart, hmem⟩
  . revert hmem
    decide
  . rw [List.mem_map] at hpart
    obtain ⟨pair, _, rfl⟩ := hpart
    exact notMem_encodePair (by decide) (by decide) pair hmem

end Form
end ServiceHost
