import Mathlib.Algebra.Group.Nat.Defs
import ServiceHost.Json.Reader
import ServiceHost.Json.Value

/-!
This module contains what written numbers are read as.
-/

namespace ServiceHost.Json.Reader

def EndsNumber (rest : List Char) : Prop :=
  ∀ c ∈ rest.head?, c.isDigit = false ∧ c ∉ ['.', 'e', 'E']

theorem takeWhile_append {p : Char → Bool} {front rest : List Char} (hfront : ∀ c ∈ front, p c = true)
    (hrest : ∀ c ∈ rest.head?, p c = false) :
    (front ++ rest).takeWhile p = front ∧ (front ++ rest).dropWhile p = rest := by
  rw [List.takeWhile_append_of_pos hfront, List.dropWhile_append_of_pos hfront]
  cases rest with
  | nil => simp
  | cons c rest => simp [hrest c rfl]

/-! Digits. -/

theorem digitsValue_eq (digits : List Char) : digitsValue digits = Nat.ofDigitChars 10 digits 0 := by
  unfold digitsValue
  rw [Nat.ofDigitChars_eq_foldl]
  simp only [Nat.mul_comm]

theorem le_ofDigitChars (n : Nat) (digits : List Char) : n ≤ Nat.ofDigitChars 10 digits n := by
  rw [Nat.ofDigitChars_eq_ofDigitChars_zero]
  exact Nat.le_trans (Nat.le_mul_of_pos_left n (Nat.pow_pos (by decide))) (Nat.le_add_right _ _)

theorem appendDigits_of_lt {n : Nat} {digits : List Char} (h : Nat.ofDigitChars 10 digits n < UInt64.size) :
    appendDigits n digits = (Nat.ofDigitChars 10 digits n, []) := by
  induction digits generalizing n with
  | nil => rfl
  | cons c digits ih =>
    rw [Nat.ofDigitChars_cons] at h ⊢
    have hnext : n * 10 + (c.toNat - '0'.toNat) < UInt64.size := by
      rw [Nat.mul_comm]
      exact Nat.lt_of_le_of_lt (le_ofDigitChars _ _) h
    unfold appendDigits
    dsimp only
    rw [if_pos hnext, Nat.mul_comm n 10, ih h]

theorem length_appendDigits_le (n : Nat) (digits : List Char) :
    (appendDigits n digits).2.length ≤ digits.length := by
  fun_induction appendDigits n digits with
  | case1 => exact Nat.le_refl _
  | case2 _ _ _ _ _ ih => exact Nat.le_succ_of_le ih
  | case3 => exact Nat.le_refl _

theorem length_appendDigits_lt {n : Nat} {c : Char} {digits : List Char}
    (h : n * 10 + (c.toNat - '0'.toNat) < UInt64.size) :
    (appendDigits n (c :: digits)).2.length < (c :: digits).length := by
  unfold appendDigits
  dsimp only
  rw [if_pos h]
  exact Nat.lt_succ_of_le (length_appendDigits_le _ _)

theorem toNat_le_of_isDigit {c : Char} (h : c.isDigit = true) : c.toNat - '0'.toNat ≤ 9 := by
  have hle : c.toNat ≤ 57 := by
    rw [Char.isDigit, Bool.and_eq_true, decide_eq_true_eq, decide_eq_true_eq] at h
    exact h.2
  have hzero : '0'.toNat = 48 := rfl
  omega

theorem ofDigitChars_lt {digits : List Char} (h : ∀ c ∈ digits, c.isDigit = true) :
    Nat.ofDigitChars 10 digits 0 < 10 ^ digits.length := by
  induction digits with
  | nil => exact Nat.one_pos
  | cons c digits ih =>
    rw [List.forall_mem_cons] at h
    have hc := toNat_le_of_isDigit h.1
    have hrest := ih h.2
    rw [Nat.ofDigitChars_cons, Nat.mul_zero, Nat.zero_add, Nat.ofDigitChars_eq_ofDigitChars_zero, List.length_cons,
      Nat.pow_succ]
    have hmul := Nat.mul_le_mul_left (10 ^ digits.length) hc
    omega

theorem head?_toDigits_ne {n : Nat} (h : n ≠ 0) : (Nat.toDigits 10 n).head? ≠ some '0' := by
  induction n using Nat.strongRecOn with
  | ind n ih =>
    rw [Nat.toDigits_eq_if (by decide)]
    split
    . simpa using h
    . have hrest := ih (n / 10) (by omega) (by omega)
      rwa [List.head?_append, Option.or_of_isSome (List.isSome_head?.mpr Nat.toDigits_ne_nil)]

/-! The parts of a number. -/

theorem fraction?_none {rest : List Char} (h : EndsNumber rest) : fraction? rest = some (none, rest) := by
  unfold fraction?
  split
  . next tail => exact absurd (h '.' rfl).2 (by decide)
  . rfl

theorem fraction?_digits {digits rest : List Char} (hne : digits ≠ []) (hdigits : ∀ c ∈ digits, c.isDigit = true)
    (hrest : ∀ c ∈ rest.head?, c.isDigit = false) :
    fraction? ('.' :: (digits ++ rest)) = some (some digits, rest) := by
  obtain ⟨htake, hdrop⟩ := takeWhile_append hdigits hrest
  rw [fraction?, htake, hdrop]
  exact if_neg hne

theorem exponent?_none {rest : List Char} (h : EndsNumber rest) : exponent? rest = some (none, rest) := by
  unfold exponent?
  split
  . next c tail =>
    rw [if_neg]
    rintro (rfl | rfl) <;> exact absurd (h _ rfl).2 (by decide)
  . rfl

theorem exponent?_digits {digits rest : List Char} (hne : digits ≠ []) (hdigits : ∀ c ∈ digits, c.isDigit = true)
    (hrest : EndsNumber rest) :
    exponent? ('e' :: '-' :: (digits ++ rest)) = some (some (-(digitsValue digits : Int)), rest)
      ∧
    exponent? ('e' :: '+' :: (digits ++ rest)) = some (some (digitsValue digits : Int), rest) := by
  obtain ⟨htake, hdrop⟩ := takeWhile_append hdigits fun c hc => (hrest c hc).1
  constructor
  . rw [exponent?, if_pos (.inl rfl)]
    dsimp only
    rw [htake, hdrop, if_neg hne]
    rfl
  . rw [exponent?, if_pos (.inl rfl)]
    dsimp only
    rw [htake, hdrop, if_neg hne]
    rfl

/-- Digits that can stand in front of a number: there is no zero in front of others. -/
structure Leads (digits : List Char) : Prop where
  nonempty : digits ≠ []
  isDigit : ∀ c ∈ digits, c.isDigit = true
  zero : digits.length ≠ 1 → digits.head? ≠ some '0'

theorem leads_toDigits (n : Nat) : Leads (Nat.toDigits 10 n) where
  nonempty := Nat.toDigits_ne_nil
  isDigit := fun _ hc => Nat.isDigit_of_mem_toDigits (by decide) (by decide) hc
  zero := by
    intro hlength
    apply head?_toDigits_ne
    rintro rfl
    exact hlength rfl

theorem Leads.not_malformed {digits : List Char} (h : Leads digits) :
    ¬(digits = [] ∨ (digits.length ≠ 1 ∧ digits.head? = some '0')) := by
  rintro (hnil | ⟨hlength, hzero⟩)
  . exact h.nonempty hnil
  . exact h.zero hlength hzero

theorem number?_integer {digits rest : List Char} {whole : Nat} {negative : Bool} (h : Leads digits)
    (hrest : EndsNumber rest) (hwhole : appendDigits 0 digits = (whole, []))
    (hfits : negative = true → whole ≠ 0 ∧ whole ≤ UInt64.size / 2) :
    number? negative (digits ++ rest) = some (.integer (if negative then -(whole : Int) else whole), rest) := by
  obtain ⟨htake, hdrop⟩ := takeWhile_append h.isDigit fun c hc => (hrest c hc).1
  unfold number?
  rw [htake, hdrop, if_neg h.not_malformed, fraction?_none hrest]
  simp only [Option.bind_eq_bind, Option.bind_some, exponent?_none hrest, hwhole]
  rw [if_pos]
  . rfl
  . refine ⟨rfl, rfl, trivial, ?_⟩
    cases negative with
    | false => exact .inl rfl
    | true => exact .inr (hfits rfl)

theorem number?_float {digits tail rest₁ rest : List Char} {whole : Nat} {exponent : Option Int}
    (negative : Bool) (fraction : Option (List Char)) (h : Leads digits)
    (htail : ∀ c ∈ tail.head?, c.isDigit = false) (hfraction : fraction? tail = some (fraction, rest₁))
    (hexponent : exponent? rest₁ = some (exponent, rest)) (hpart : fraction ≠ none ∨ exponent ≠ none)
    (hwhole : appendDigits 0 digits = (whole, [])) {x : Float}
    (hx : decimalFloat? (appendDigits whole (fraction.getD [])).1
        (exponent.getD 0
          - ((fraction.getD []).length - (appendDigits whole (fraction.getD [])).2.length : Nat)) = some x) :
    number? negative (digits ++ tail) = some (.float (if negative then -x else x), rest) := by
  obtain ⟨htake, hdrop⟩ := takeWhile_append h.isDigit htail
  unfold number?
  rw [htake, hdrop, if_neg h.not_malformed, hfraction]
  simp only [Option.bind_eq_bind, Option.bind_some, hexponent, hwhole]
  rw [if_neg]
  . simp only [List.length_nil, Int.natCast_zero, Int.add_zero, hx, Option.bind_some]
    rfl
  . rintro ⟨hnone, hnone', -⟩
    rw [Option.isNone_iff_eq_none] at hnone hnone'
    exact hpart.elim (absurd hnone) (absurd hnone')

theorem decimalFloat?_of_neg (mantissa : Nat) (exponent : Int) (h : exponent < 0) :
    ∃ x, decimalFloat? mantissa exponent = some x := by
  unfold decimalFloat?
  have hpower : ¬ (maxPower : Int) < exponent := by
    unfold maxPower
    omega
  by_cases hmantissa : mantissa = 0
  . exact ⟨0, if_pos hmantissa⟩
  . dsimp only
    rw [if_neg hmantissa, if_neg hpower, if_neg (by omega)]
    split
    . exact ⟨_, rfl⟩
    . split <;> exact ⟨_, rfl⟩

theorem number?_point {digits decimals rest : List Char} (negative : Bool) (h : Leads digits)
    (hlength : digits.length ≤ 16) (hne : decimals ≠ []) (hdecimals : ∀ c ∈ decimals, c.isDigit = true)
    (hrest : EndsNumber rest) :
    ∃ x, number? negative (digits ++ '.' :: decimals ++ rest) = some (.float x, rest) := by
  have hvalue : Nat.ofDigitChars 10 digits 0 < 10 ^ 16 :=
    Nat.lt_of_lt_of_le (ofDigitChars_lt h.isDigit) (Nat.pow_le_pow_right (by decide) hlength)
  have hwhole : appendDigits 0 digits = (Nat.ofDigitChars 10 digits 0, []) :=
    appendDigits_of_lt (Nat.lt_trans hvalue (by decide))
  have hfraction := fraction?_digits hne hdecimals fun c hc => (hrest c hc).1
  -- at least one of the digits behind the point counts, so the exponent is negative
  have hcounts : (appendDigits (Nat.ofDigitChars 10 digits 0) decimals).2.length < decimals.length := by
    obtain ⟨c, others, rfl⟩ := List.exists_cons_of_ne_nil hne
    apply length_appendDigits_lt
    have hc := toNat_le_of_isDigit (hdecimals c List.mem_cons_self)
    unfold UInt64.size
    omega
  obtain ⟨x, hx⟩ := decimalFloat?_of_neg (appendDigits (Nat.ofDigitChars 10 digits 0) decimals).1
    (0 - (decimals.length - (appendDigits (Nat.ofDigitChars 10 digits 0) decimals).2.length : Nat)) (by omega)
  rw [List.append_assoc, List.cons_append]
  exact ⟨_, number?_float negative (some decimals) h (by rintro c ⟨⟩; rfl) hfraction (exponent?_none hrest)
    (.inl nofun) hwhole hx⟩

open Decimal (Style)

theorem number?_positional {d : Nat} {whole : Int} (negative : Bool) (hwhole : whole ≤ 16)
    (hzero : d = 0 → whole ≤ 1) {rest : List Char} (hrest : EndsNumber rest) :
    ∃ x, number? negative (Style.positional (Nat.toDigits 10 d) whole ++ rest) = some (.float x, rest) := by
  have hleads := leads_toDigits d
  have hzeros (n : Nat) : ∀ c ∈ List.replicate n '0', c.isDigit = true := by
    intro c hc
    rw [List.eq_of_mem_replicate hc]
    rfl
  unfold Style.positional
  split
  . have hdigits := List.forall_mem_append.mpr ⟨hzeros (-whole).toNat, hleads.isDigit⟩
    exact number?_point negative (leads_toDigits 0) (by decide) (by simp) hdigits hrest
  split
  . have hfilled : Leads (Nat.toDigits 10 d ++ List.replicate (whole.toNat - (Nat.toDigits 10 d).length) '0') := by
      constructor
      case nonempty => simp
      case isDigit => exact List.forall_mem_append.mpr ⟨hleads.isDigit, hzeros _⟩
      case zero =>
        intro hlength
        rw [List.head?_append, Option.or_of_isSome (List.isSome_head?.mpr Nat.toDigits_ne_nil)]
        apply head?_toDigits_ne
        rintro rfl
        apply hlength
        have := hzero rfl
        simp
        omega
    have hlength : (Nat.toDigits 10 d ++ List.replicate (whole.toNat - (Nat.toDigits 10 d).length) '0').length ≤ 16 := by
      rw [List.length_append, List.length_replicate]
      omega
    exact number?_point negative hfilled hlength (List.cons_ne_nil '0' []) (by simp) hrest
  . have hfront : Leads ((Nat.toDigits 10 d).take whole.toNat) := by
      constructor
      case nonempty =>
        rw [Ne, List.take_eq_nil_iff, not_or]
        exact ⟨by omega, Nat.toDigits_ne_nil⟩
      case isDigit => exact fun c hc => hleads.isDigit c (List.mem_of_mem_take hc)
      case zero =>
        intro _
        rw [List.head?_take, if_neg (by omega)]
        apply hleads.zero
        omega
    refine number?_point negative hfront (by rw [List.length_take]; omega) ?_ ?_ hrest
    . rw [Ne, List.drop_eq_nil_iff]
      omega
    . exact fun c hc => hleads.isDigit c (List.mem_of_mem_drop hc)

def exponentText (power : Int) : List Char :=
  'e' :: (if power < 0 then ['-'] else Decimal.jsonStyle.exponentSign) ++ Nat.toDigits 10 power.natAbs

theorem exponent?_exponentText (power : Int) {rest : List Char} (hrest : EndsNumber rest) :
    exponent? (exponentText power ++ rest) = some (some power, rest) := by
  have hleads := leads_toDigits power.natAbs
  obtain ⟨hminus, hplus⟩ := exponent?_digits hleads.nonempty hleads.isDigit hrest
  rw [digitsValue_eq, Nat.ofDigitChars_ten_toDigits] at hminus hplus
  unfold exponentText
  split
  . refine hminus.trans ?_
    rw [show -(power.natAbs : Int) = power by omega]
  . refine hplus.trans ?_
    rw [show (power.natAbs : Int) = power by omega]

theorem leads_singleton {c : Char} (h : c.isDigit = true) : Leads [c] where
  nonempty := List.cons_ne_nil c []
  isDigit := by simpa using h
  zero := fun hlength => absurd rfl hlength

theorem number?_exponentText {c : Char} {digits : List Char} (negative : Bool) (power : Int)
    (hc : c.isDigit = true) (hdigits : ∀ c ∈ digits, c.isDigit = true)
    (hlt : Nat.ofDigitChars 10 (c :: digits) 0 < UInt64.size) {x : Float}
    (hx : decimalFloat? (Nat.ofDigitChars 10 (c :: digits) 0) (power - digits.length) = some x)
    {rest : List Char} (hrest : EndsNumber rest) :
    number? negative
        ([c] ++ ((if digits = [] then [] else '.' :: digits) ++ (exponentText power ++ rest)))
      =
    some (.float (if negative then -x else x), rest) := by
  have hle := toNat_le_of_isDigit hc
  have hexponent := exponent?_exponentText power hrest
  have hwhole : appendDigits 0 [c] = (10 * 0 + (c.toNat - '0'.toNat), []) := by
    apply appendDigits_of_lt
    simp only [Nat.ofDigitChars_cons, Nat.ofDigitChars_nil, UInt64.size]
    omega
  have hall : appendDigits (10 * 0 + (c.toNat - '0'.toNat)) digits = (Nat.ofDigitChars 10 (c :: digits) 0, []) := by
    rw [Nat.ofDigitChars_cons] at hlt ⊢
    exact appendDigits_of_lt hlt
  split
  . next hnil =>
    subst hnil
    apply number?_float negative none (leads_singleton hc) (by rintro c ⟨⟩; rfl) rfl hexponent (.inr nofun) hwhole
    rw [← hx]
    rfl
  . next hne =>
    have hfraction : fraction? ('.' :: digits ++ (exponentText power ++ rest))
        =
        some (some digits, exponentText power ++ rest) :=
      fraction?_digits hne hdigits (by rintro c ⟨⟩; rfl)
    apply number?_float negative (some digits) (leads_singleton hc) (by rintro c ⟨⟩; rfl) hfraction hexponent
      (.inl nofun) hwhole
    rw [← hx, Option.getD_some, hall]
    rfl

theorem scientific_append {c : Char} {digits : List Char} (power : Int) (rest : List Char) :
    Decimal.jsonStyle.scientific (c :: digits) power ++ rest
      =
    [c] ++ ((if digits = [] then [] else '.' :: digits) ++ (exponentText power ++ rest)) := by
  unfold Style.scientific exponentText
  cases digits <;> simp

theorem number?_decimal {d : Decimal} (negative : Bool) (hdigits : d.digits < UInt64.size)
    (hzero : d.digits = 0 → d.exponent = 0) (hx : ∃ x, decimalFloat? d.digits d.exponent = some x)
    {rest : List Char} (hrest : EndsNumber rest) :
    ∃ x, number? negative (Decimal.jsonStyle.decimal d ++ rest) = some (.float x, rest) := by
  have hlength : d.digits = 0 → (Nat.toDigits 10 d.digits).length = 1 := by
    intro h
    rw [h]
    rfl
  unfold Style.decimal
  dsimp only
  split
  . next hpositional =>
    apply number?_positional negative _ _ hrest
    . have hmost : Decimal.jsonStyle.most = 16 := rfl
      omega
    . intro h
      have := hlength h
      have := hzero h
      omega
  . obtain ⟨x, hx⟩ := hx
    have hleads := leads_toDigits d.digits
    have hvalue : Nat.ofDigitChars 10 (Nat.toDigits 10 d.digits) 0 = d.digits := Nat.ofDigitChars_ten_toDigits
    obtain ⟨c, digits, heq⟩ := List.exists_cons_of_ne_nil hleads.nonempty
    rw [heq] at hleads hvalue ⊢
    obtain ⟨hc, hothers⟩ := List.forall_mem_cons.mp hleads.isDigit
    have hpower : d.exponent + ((c :: digits).length : Int) - 1 - digits.length = d.exponent := by
      rw [List.length_cons]
      omega
    rw [← hvalue, ← hpower] at hx
    rw [← hvalue] at hdigits
    rw [scientific_append]
    exact ⟨_, number?_exponentText negative _ hc hothers hdigits hx hrest⟩

end ServiceHost.Json.Reader
