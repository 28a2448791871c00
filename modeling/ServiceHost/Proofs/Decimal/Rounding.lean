import Mathlib.Algebra.Order.Field.Power
import Mathlib.Data.Rat.Cast.Order
import Mathlib.Tactic.GCongr
import Mathlib.Tactic.Linarith
import Mathlib.Tactic.NormNum
import Mathlib.Tactic.Positivity
import Mathlib.Tactic.Ring

/-!
This module contains how far a rounded double is from the number that was rounded, and when there is none.
-/

namespace ServiceHost.Decimal

open Float.Model Float.Model.UnpackedFloat

/-! Shifts. -/

theorem shift_succ (em : ExtendedMantissa) (k : Nat) : em >>> (k + 1) = (em >>> k).shiftRightOne :=
  rfl

theorem shift_mantissa (em : ExtendedMantissa) (k : Nat) : (em >>> k).mantissa = em.mantissa / 2 ^ k := by
  induction k with
  | zero => exact (Nat.div_one _).symm
  | succ k ih =>
    rw [shift_succ, ExtendedMantissa.shiftRightOne, ih, Nat.div_div_eq_div_mul, Nat.pow_succ]

theorem shift_roundBit (m k : Nat) (h : ((⟨m, false, false⟩ : ExtendedMantissa) >>> k).roundBit = true) :
    2 ^ k ≤ 2 * (m % 2 ^ k) := by
  cases k with
  | zero => cases h
  | succ k =>
    rw [shift_succ, ExtendedMantissa.shiftRightOne, shift_mantissa, bne_iff_ne] at h
    dsimp only at h
    have hbit : m / 2 ^ k % 2 = 1 := by omega
    rw [Nat.pow_succ, Nat.mod_mul, hbit]
    omega

theorem le_roundedMantissa (em : ExtendedMantissa) : em.mantissa ≤ em.roundedMantissa := by
  obtain ⟨m, _ | _, _ | _⟩ := em
  . exact Nat.le_refl m
  . exact Nat.le_refl m
  . exact Nat.le_add_right m (m % 2)
  . exact Nat.le_succ m

theorem roundedMantissa_le (em : ExtendedMantissa) : em.roundedMantissa ≤ em.mantissa + em.roundBit.toNat := by
  obtain ⟨m, _ | _, _ | _⟩ := em
  . exact Nat.le_refl m
  . exact Nat.le_refl m
  . exact Nat.add_le_add_left (Nat.le_of_lt_succ (Nat.mod_lt m (by decide))) m
  . exact Nat.le_refl (m + 1)

theorem roundedMantissa_shift_le (m k : Nat) :
    2 * (((⟨m, false, false⟩ : ExtendedMantissa) >>> k).roundedMantissa * 2 ^ k) ≤ 2 * m + 2 ^ k := by
  have hle := roundedMantissa_le ((⟨m, false, false⟩ : ExtendedMantissa) >>> k)
  rw [shift_mantissa] at hle
  dsimp only at hle
  have hdiv := Nat.div_add_mod' m (2 ^ k)
  have hmul := Nat.mul_le_mul_right (2 ^ k) hle
  rw [Nat.add_mul] at hmul
  cases hbit : ((⟨m, false, false⟩ : ExtendedMantissa) >>> k).roundBit with
  | false =>
    rw [hbit, Bool.toNat_false, Nat.zero_mul] at hmul
    omega
  | true =>
    have hhalf := shift_roundBit m k hbit
    rw [hbit, Bool.toNat_true, Nat.one_mul] at hmul
    omega

/-! Rounding to 53 bits. -/

variable {m : Nat} {e : Int}

theorem le_log2 (hm : 2 ^ 52 ≤ m) : 52 ≤ m.log2 :=
  (Nat.le_log2 (by omega)).mpr hm

theorem shiftToTargetExponent_eq (hm : 2 ^ 52 ≤ m) (he : -1074 ≤ e) :
    shiftToTargetExponent .binary64 m e .exact
      =
    ((⟨m, false, false⟩ : ExtendedMantissa) >>> (m.log2 - 52), e + (m.log2 - 52 : Nat)) := by
  have hlog := le_log2 hm
  have htarget : Format.binary64.targetExponent (totalExponent m e) = e + (m.log2 - 52 : Nat) := by
    have hbits : Format.binary64.mantissaBits = 53 := rfl
    have hleast : Format.binary64.minExponent = -1074 := rfl
    rw [Format.targetExponent, totalExponent, hbits, hleast]
    omega
  have hamount : (e + ((m.log2 - 52 : Nat) : Int) - e).toNat = m.log2 - 52 := by omega
  unfold shiftToTargetExponent
  dsimp only
  rw [htarget, shiftToExponent, hamount]
  rfl

theorem shiftToTargetExponent_rounded (hm : 2 ^ 52 ≤ m) (hle : m ≤ 2 ^ 53) (he : -1074 ≤ e) :
    ∃ m' e', (shiftToTargetExponent .binary64 m e .exact).1.mantissa = m'
      ∧
    (shiftToTargetExponent .binary64 m e .exact).2 = e'
      ∧
    m'.log2 = 52 ∧ e ≤ e' ∧ (m' : ℚ) * 2 ^ e' = m * 2 ^ e := by
  rw [shiftToTargetExponent_eq hm he]
  dsimp only
  rw [shift_mantissa]
  refine ⟨_, _, rfl, rfl, ?_⟩
  dsimp only
  rcases Nat.lt_or_eq_of_le hle with hlt | rfl
  . have hlog : m.log2 = 52 := (Nat.log2_eq_iff (by omega)).mpr ⟨hm, hlt⟩
    rw [hlog, Nat.sub_self, Nat.pow_zero, Nat.div_one]
    exact ⟨hlog, by omega, by rw [Int.natCast_zero, Int.add_zero]⟩
  . rw [Nat.log2_two_pow, show 2 ^ 53 / 2 ^ (53 - 52) = 2 ^ 52 from rfl]
    refine ⟨Nat.log2_two_pow, by omega, ?_⟩
    rw [zpow_add₀ two_ne_zero]
    push_cast
    ring

theorem roundWithAccuracy_eq (sign : Sign) (hm : 2 ^ 52 ≤ m) (he : -1074 ≤ e) :
    ∃ m' e' positive, roundWithAccuracy .binary64 sign m e .exact = .finite sign m' e' positive
      ∧
    m'.log2 = 52 ∧ e ≤ e' ∧ (m' : ℚ) * 2 ^ e' ≤ m * 2 ^ e + 2 ^ (m.log2 + e - 53) := by
  have hlog := le_log2 hm
  have hne : m ≠ 0 := by omega
  obtain ⟨k, hk⟩ : ∃ k, m.log2 = 52 + k := ⟨m.log2 - 52, by omega⟩
  have hpos : 0 < 2 ^ k := Nat.two_pow_pos k
  -- the mantissa that is left after the shift has 53 bits
  have hlower : 2 ^ 52 ≤ m / 2 ^ k := by
    rw [Nat.le_div_iff_mul_le hpos, ← Nat.pow_add, ← hk]
    exact Nat.log2_self_le hne
  have hupper : m / 2 ^ k < 2 ^ 53 := by
    rw [Nat.div_lt_iff_lt_mul hpos, ← Nat.pow_add, show 53 + k = m.log2 + 1 by omega]
    exact Nat.lt_log2_self
  obtain ⟨em, hem⟩ : ∃ em, (⟨m, false, false⟩ : ExtendedMantissa) >>> k = em := ⟨_, rfl⟩
  have hmantissa : em.mantissa = m / 2 ^ k := hem ▸ shift_mantissa _ _
  have hrounded := le_roundedMantissa em
  have hrounded' := roundedMantissa_le em
  have hbit : em.roundBit.toNat ≤ 1 := Bool.toNat_le _
  have hhalf : 2 * (em.roundedMantissa * 2 ^ k) ≤ 2 * m + 2 ^ k := hem ▸ roundedMantissa_shift_le m k
  obtain ⟨m', e', hm', he', hlog', hle', hvalue⟩ := @shiftToTargetExponent_rounded em.roundedMantissa (e + k)
    (by omega) (by omega) (by omega)
  have hshift : shiftToTargetExponent .binary64 m e .exact = (em, e + k) := by
    rw [shiftToTargetExponent_eq hm he, show m.log2 - 52 = k by omega, hem]
  have hpositive : m' ≠ 0 := by
    rintro rfl
    cases hlog'
  refine ⟨m', e', Nat.pos_of_ne_zero hpositive, ?_, hlog', by omega, ?_⟩
  . unfold roundWithAccuracy
    rw [hshift]
    subst hm' he'
    exact dif_neg hpositive
  . have hexponent : (m.log2 : Int) + e - 53 = e + k - 1 := by omega
    rw [hvalue, hexponent, zpow_sub_one₀ two_ne_zero, zpow_add₀ two_ne_zero, zpow_natCast]
    have hcast : 2 * ((em.roundedMantissa : ℚ) * 2 ^ k) ≤ 2 * m + 2 ^ k := by exact_mod_cast hhalf
    have hscale := mul_le_mul_of_nonneg_right hcast (zpow_nonneg (zero_le_two (α := ℚ)) e)
    linarith

/-! Packing. -/

theorem toNat_append_implicit {m : Nat} (hm : m.log2 = 52) : (1#1 ++ BitVec.ofNat 52 m).toNat = m := by
  obtain ⟨hlower, hupper⟩ := (Nat.log2_eq_iff (by rintro rfl; cases hm)).mp hm
  rw [BitVec.toNat_append, ← Nat.shiftLeft_add_eq_or_of_lt (BitVec.isLt _), BitVec.toNat_ofNat, Nat.shiftLeft_eq]
  change 1 * 2 ^ 52 + m % 2 ^ 52 = m
  omega

theorem unpack_packComponents (sign : Sign) {exponent : BitVec 11} {mantissa : BitVec 52} (positive : 0 < m)
    (hones : exponent ≠ -1#11) (hzero : exponent ≠ 0#11) (hm : (1#1 ++ mantissa).toNat = m)
    (he : (exponent.toNat : Int) - ((1023 : Nat) + (52 : Nat)) = e) :
    ∃ sign', UnpackedFloat.unpack .binary64 (packComponents .binary64 sign exponent mantissa)
      =
    .finite sign' m e positive := by
  obtain ⟨b, hb⟩ : ∃ b, packComponents .binary64 sign exponent mantissa = b := ⟨_, rfl⟩
  have hexponent : unpackExponent b = exponent := hb ▸ unpackExponent_packComponents
  have hmantissa : unpackMantissa b = mantissa := hb ▸ unpackMantissa_packComponents
  subst hexponent hmantissa hm he
  rw [hb]
  exact ⟨_, (if_neg hones).trans (if_neg hzero)⟩

theorem unpack_pack {sign : Sign} {positive : 0 < m} (hm : m.log2 = 52) (hlower : -1074 ≤ e) (hupper : e ≤ 971) :
    ∃ sign', (Float.Model.pack (.finite sign m e positive)).unpack = .finite sign' m e positive := by
  obtain ⟨b, hb⟩ : ∃ b : Nat, (b : Int) = e + 1075 := ⟨(e + 1075).toNat, by omega⟩
  have hbiased : (e + (1023 : Nat) + (52 : Nat)).toNat = b := by omega
  have hpack : UnpackedFloat.pack .binary64 (.finite sign m e positive)
      = packComponents .binary64 sign (BitVec.ofNat 11 b) (BitVec.ofNat 52 m) := by
    unfold UnpackedFloat.pack
    dsimp only
    rw [show Format.binary64.exponentBias = 1023 from rfl, hbiased, if_neg (by omega), if_pos (by rw [hm]; rfl)]
  have hexponent : (BitVec.ofNat 11 b).toNat = b := Nat.mod_eq_of_lt (by omega)
  have hones : BitVec.ofNat 11 b ≠ -1#11 := by
    intro h
    rw [← BitVec.toNat_inj, hexponent, show (-1#11).toNat = 2047 from rfl] at h
    omega
  have hzero : BitVec.ofNat 11 b ≠ 0#11 := by
    intro h
    rw [← BitVec.toNat_inj, hexponent, BitVec.toNat_zero] at h
    omega
  have hexponent' : ((BitVec.ofNat 11 b).toNat : Int) - ((1023 : Nat) + (52 : Nat)) = e := by
    rw [hexponent]
    omega
  unfold Float.Model.unpack Float.Model.pack
  dsimp only
  rw [hpack]
  exact unpack_packComponents sign positive hones hzero (toNat_append_implicit hm) hexponent'

/-! Doubles that stand for a rounded number. -/

/-- The least number that is rounded to no double: half way from the largest double to the next power of two. -/
def overflow : ℚ :=
  (2 ^ 54 - 1) * 2 ^ (970 : Int)

theorem overflow_add : overflow + 2 ^ (970 : Int) = 2 ^ (1024 : Int) := by
  rw [show (1024 : Int) = 54 + 970 from rfl, zpow_add₀ two_ne_zero, overflow]
  norm_num only
  ring

theorem overflow_lt : overflow < 2 ^ (1024 : Int) := by
  rw [← overflow_add]
  exact lt_add_of_pos_right _ (zpow_pos two_pos 970)

/-- A double that stands for a number of at most `bound`; its mantissa is full. -/
def AtMost (x : Float.Model) (bound : ℚ) : Prop :=
  ∃ sign mantissa exponent positive, x.unpack = .finite sign mantissa exponent positive
    ∧
  mantissa.log2 = 52 ∧ -537 ≤ exponent ∧ (mantissa : ℚ) * 2 ^ exponent ≤ bound

theorem two_zpow_log2_le (hm : m ≠ 0) (e : Int) : (2 : ℚ) ^ ((m.log2 : Int) + e) ≤ m * 2 ^ e := by
  rw [zpow_add₀ two_ne_zero, zpow_natCast]
  have hle : (2 : ℚ) ^ m.log2 ≤ m := by exact_mod_cast Nat.log2_self_le hm
  exact mul_le_mul_of_nonneg_right hle (zpow_nonneg zero_le_two e)

theorem unpack_roundWithAccuracy (sign : Sign) (hm : 2 ^ 52 ≤ m) (he : -1074 ≤ e) (hlt : (m : ℚ) * 2 ^ e < overflow) :
    ∃ sign' m' e' positive,
      (Float.Model.pack (roundWithAccuracy .binary64 sign m e .exact)).unpack = .finite sign' m' e' positive
        ∧
      m'.log2 = 52 ∧ e ≤ e' ∧ (m' : ℚ) * 2 ^ e' ≤ m * 2 ^ e * (1 + 2 ^ (-53 : Int)) := by
  obtain ⟨m', e', positive, hround, hlog, hle, hvalue⟩ := roundWithAccuracy_eq sign hm he
  have hscale := two_zpow_log2_le (show m ≠ 0 by omega) e
  rw [sub_eq_add_neg, zpow_add₀ two_ne_zero] at hvalue
  have hhalf : (0 : ℚ) < 2 ^ (-53 : Int) := by norm_num
  have hrelative := mul_le_mul_of_nonneg_right hscale (le_of_lt hhalf)
  -- a number below 2 ^ 1024 is moved up by at most 2 ^ 970
  have hexponent : (m.log2 : Int) + e ≤ 1023 := by
    have hpower := lt_trans (lt_of_le_of_lt hscale hlt) overflow_lt
    have := (zpow_lt_zpow_iff_right₀ one_lt_two).mp hpower
    omega
  have hmoved : (2 : ℚ) ^ ((m.log2 : Int) + e) * 2 ^ (-53 : Int) ≤ 2 ^ (970 : Int) := by
    rw [← zpow_add₀ two_ne_zero]
    exact zpow_le_zpow_right₀ one_le_two (by omega)
  have hupper : e' ≤ 971 := by
    have hpower : (2 : ℚ) ^ ((m'.log2 : Int) + e') < 2 ^ (1024 : Int) := by
      calc (2 : ℚ) ^ ((m'.log2 : Int) + e')
        _ ≤ m' * 2 ^ e' := two_zpow_log2_le (Nat.ne_of_gt positive) e'
        _ ≤ m * 2 ^ e + 2 ^ ((m.log2 : Int) + e) * 2 ^ (-53 : Int) := hvalue
        _ < overflow + 2 ^ (970 : Int) := add_lt_add_of_lt_of_le hlt hmoved
        _ = 2 ^ (1024 : Int) := overflow_add
    rw [hlog] at hpower
    have := (zpow_lt_zpow_iff_right₀ one_lt_two).mp hpower
    omega
  obtain ⟨sign', hunpack⟩ := @unpack_pack m' e' sign positive hlog (by omega) hupper
  refine ⟨sign', m', e', positive, ?_, hlog, hle, ?_⟩
  . rw [hround, hunpack]
  . linarith

theorem atMost_round (sign : Sign) (hm : 2 ^ 52 ≤ m) (he : -537 ≤ e) (hlt : (m : ℚ) * 2 ^ e < overflow) :
    AtMost (.pack (roundWithAccuracy .binary64 sign m e .exact)) (m * 2 ^ e * (1 + 2 ^ (-53 : Int))) := by
  obtain ⟨sign', m', e', positive, hunpack, hlog, hle, hvalue⟩ := unpack_roundWithAccuracy sign hm (by omega) hlt
  exact ⟨sign', m', e', positive, hunpack, hlog, by omega, hvalue⟩

theorem lt_overflow {n k : Nat} (hk : k ≤ 308) (h : n ≤ 10 ^ k) : (n : ℚ) < overflow := by
  have hpower : ∀ k < 309, 10 ^ k < (2 ^ 54 - 1) * 2 ^ 970 := by decide +kernel
  have hlt := Nat.lt_of_le_of_lt h (hpower k (Nat.lt_succ_of_le hk))
  rw [← @Nat.cast_lt ℚ, Nat.cast_mul, Nat.cast_pow 2 970] at hlt
  norm_num only at hlt
  unfold overflow
  norm_num only
  exact hlt

theorem atMost_ofUInt64 {n : UInt64} (hn : n ≠ 0) :
    AtMost (.ofUInt64 n) (n.toNat * (1 + 2 ^ (-53 : Int))) := by
  have hne : n.toNat ≠ 0 := by
    intro h
    exact hn (UInt64.toNat_inj.mp h)
  have hlog := Nat.log2_self_le hne
  obtain ⟨k, hk⟩ : ∃ k, k = 52 - n.toNat.log2 := ⟨_, rfl⟩
  have hround : UnpackedFloat.ofUInt64 .binary64 n
      = roundWithAccuracy .binary64 .positive (n.toNat <<< k) (0 - (k : Int)) .exact := by
    have htarget : (0 - Format.binary64.targetExponent (totalExponent n.toNat 0)).toNat = k := by
      have hbits : Format.binary64.mantissaBits = 53 := rfl
      have hleast : Format.binary64.minExponent = -1074 := rfl
      rw [Format.targetExponent, totalExponent, hbits, hleast]
      omega
    have hcompare : compare (n.toNat : Int) 0 = .gt := Int.compare_eq_gt.mpr (by omega)
    unfold UnpackedFloat.ofUInt64 UnpackedFloat.ofNat UnpackedFloat.ofInt UnpackedFloat.normalize
    rw [hcompare]
    unfold UnpackedFloat.round decreaseExponent
    dsimp only
    rw [Int.toNat_natCast, htarget]
  have hfull : 2 ^ 52 ≤ n.toNat <<< k := by
    rw [Nat.shiftLeft_eq]
    have hmul := Nat.mul_le_mul_right (2 ^ k) hlog
    rw [← Nat.pow_add] at hmul
    exact Nat.le_trans (Nat.pow_le_pow_right (by decide) (by omega)) hmul
  have hvalue : ((n.toNat <<< k : Nat) : ℚ) * 2 ^ (0 - (k : Int)) = n.toNat := by
    rw [Nat.shiftLeft_eq, zero_sub, zpow_neg, zpow_natCast]
    push_cast
    rw [mul_assoc, mul_inv_cancel₀ (by positivity), mul_one]
  have hlt : (n.toNat : ℚ) < overflow := @lt_overflow _ 20 (by decide) (Nat.le_of_lt (Nat.lt_trans n.toNat_lt (by decide)))
  have hatMost := @atMost_round (n.toNat <<< k) (0 - (k : Int)) .positive hfull (by omega) (hvalue ▸ hlt)
  rw [hvalue, ← hround] at hatMost
  exact hatMost

theorem atMost_ofScientific {n : Nat} (hn : n ≤ 308) :
    AtMost (.ofScientific 1 n) (10 ^ n * (1 + 2 ^ (-53 : Int))) := by
  have hpos : 0 < 10 ^ n := Nat.pow_pos (by decide)
  have hround : UnpackedFloat.ofScientific .binary64 1 n
      = roundWithAccuracy .binary64 .positive (1 <<< 53 * 10 ^ n) (-53) .exact := by
    unfold UnpackedFloat.ofScientific
    rw [dif_neg (by decide), if_neg (by change ¬ (n : Int) > 2 ^ 11; omega),
      if_neg (by change ¬ (n : Int) < -(2 ^ 11 + 0); omega), if_pos (Int.natCast_nonneg n)]
    rfl
  have hfull : 2 ^ 52 ≤ 1 <<< 53 * 10 ^ n := by
    have hshift : 1 <<< 53 = 2 ^ 53 := rfl
    omega
  have hvalue : ((1 <<< 53 * 10 ^ n : Nat) : ℚ) * 2 ^ (-53 : Int) = (10 ^ n : Nat) := by
    rw [show 1 <<< 53 = 2 ^ 53 from rfl, Nat.cast_mul, mul_right_comm, zpow_neg]
    norm_num
  have hlt : ((10 ^ n : Nat) : ℚ) < overflow := lt_overflow hn (Nat.le_refl _)
  have hatMost := @atMost_round (1 <<< 53 * 10 ^ n) (-53) .positive hfull (by decide) (hvalue ▸ hlt)
  rw [hvalue, ← hround, Nat.cast_pow, Nat.cast_ofNat] at hatMost
  exact hatMost

theorem isInf_mul {x y : Float} {a b : ℚ} (hx : AtMost x.toModel a) (hy : AtMost y.toModel b) (hlt : a * b < overflow) :
    (x * y).isInf = false := by
  obtain ⟨s₁, m₁, e₁, positive₁, hunpack₁, hlog₁, hle₁, hvalue₁⟩ := hx
  obtain ⟨s₂, m₂, e₂, positive₂, hunpack₂, hlog₂, hle₂, hvalue₂⟩ := hy
  have hm₁ : 2 ^ 52 ≤ m₁ := (Nat.le_log2 (by omega)).mp (Nat.le_of_eq hlog₁.symm)
  have hm : 2 ^ 52 ≤ m₁ * m₂ := Nat.le_trans hm₁ (Nat.le_mul_of_pos_right m₁ positive₂)
  have hvalue : ((m₁ * m₂ : Nat) : ℚ) * 2 ^ (e₁ + e₂) ≤ a * b := by
    calc ((m₁ * m₂ : Nat) : ℚ) * 2 ^ (e₁ + e₂)
      _ = m₁ * 2 ^ e₁ * (m₂ * 2 ^ e₂) := by rw [zpow_add₀ two_ne_zero, Nat.cast_mul]; ring
      _ ≤ a * b := by gcongr; exact le_trans (by positivity) hvalue₁
  obtain ⟨s, m, e, positive, hunpack, -⟩ := @unpack_roundWithAccuracy (m₁ * m₂) (e₁ + e₂) (s₁ * s₂) hm (by omega)
    (lt_of_le_of_lt hvalue hlt)
  change (Float.Model.pack (UnpackedFloat.mul .binary64 x.toModel.unpack y.toModel.unpack)).unpack.isInf = false
  rw [hunpack₁, hunpack₂]
  change (Float.Model.pack (roundWithAccuracy .binary64 (s₁ * s₂) (m₁ * m₂) (e₁ + e₂) .exact)).unpack.isInf = false
  rw [hunpack]
  rfl

end ServiceHost.Decimal
