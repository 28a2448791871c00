import Mathlib.Algebra.Order.Field.Power
import Mathlib.Data.Nat.Cast.Order.Field
import Mathlib.Data.Rat.Cast.Order
import Mathlib.Tactic.FieldSimp
import Mathlib.Tactic.GCongr
import Mathlib.Tactic.NormNum
import Mathlib.Tactic.Positivity
import Mathlib.Tactic.Ring
import ServiceHost.Decimal.Shortest

/-!
This module contains the bounds of shortest decimals: they have at most seventeen digits or the digits of a power
of ten, and lie no higher than half way to the next double.
-/

namespace ServiceHost.Decimal

namespace Ratio

def value (x : Ratio) : ℚ :=
  x.num / x.den

theorem den_scaled_pos {base : Nat} (hbase : 0 < base) (n : Nat) (exponent : Int) :
    0 < (scaled n base exponent).den := by
  unfold scaled
  split
  . exact Nat.one_pos
  . exact Nat.pow_pos hbase

theorem num_scaled_pos {n base : Nat} (hbase : 0 < base) (hn : 0 < n) (exponent : Int) :
    0 < (scaled n base exponent).num := by
  unfold scaled
  split
  . exact Nat.mul_pos hn (Nat.pow_pos hbase)
  . exact hn

theorem value_scaled (n base : Nat) (exponent : Int) :
    (scaled n base exponent).value = n * (base : ℚ) ^ exponent := by
  unfold scaled value
  split
  . next h =>
    obtain ⟨k, rfl⟩ := Int.eq_ofNat_of_zero_le h
    change ((n * base ^ k : Nat) : ℚ) / (1 : Nat) = n * (base : ℚ) ^ (k : Int)
    rw [Nat.cast_mul, Nat.cast_pow, Nat.cast_one, div_one, zpow_natCast]
  . next h =>
    obtain ⟨k, hk⟩ : ∃ k : Nat, exponent = -(k : Int) := ⟨(-exponent).toNat, by omega⟩
    subst hk
    rw [Int.neg_neg, Int.toNat_natCast]
    change (n : ℚ) / ((base ^ k : Nat) : ℚ) = n * (base : ℚ) ^ (-(k : Int))
    rw [Nat.cast_pow, zpow_neg, zpow_natCast, div_eq_mul_inv]

theorem le_iff {a b : Ratio} (ha : 0 < a.den) (hb : 0 < b.den) : a.le b = true ↔ a.value ≤ b.value := by
  have ha' : (0 : ℚ) < a.den := Nat.cast_pos.mpr ha
  have hb' : (0 : ℚ) < b.den := Nat.cast_pos.mpr hb
  unfold le value
  rw [decide_eq_true_eq, div_le_div_iff₀ ha' hb', ← Nat.cast_mul, ← Nat.cast_mul, Nat.cast_le]

theorem lt_iff {a b : Ratio} (ha : 0 < a.den) (hb : 0 < b.den) : a.lt b = true ↔ a.value < b.value := by
  have ha' : (0 : ℚ) < a.den := Nat.cast_pos.mpr ha
  have hb' : (0 : ℚ) < b.den := Nat.cast_pos.mpr hb
  unfold lt value
  rw [decide_eq_true_eq, div_lt_div_iff₀ ha' hb', ← Nat.cast_mul, ← Nat.cast_mul, Nat.cast_lt]

theorem lt_ten_pow_length (n : Nat) : n < 10 ^ (Nat.toDigits 10 n).length :=
  (Nat.length_toDigits_le_iff (by decide) Nat.length_toDigits_pos).mp (Nat.le_refl _)

theorem ten_pow_length_le {n : Nat} (h : 0 < n) : 10 ^ ((Nat.toDigits 10 n).length - 1) ≤ n := by
  by_cases hone : (Nat.toDigits 10 n).length = 1
  . rw [hone]
    exact h
  . have hpos : 0 < (Nat.toDigits 10 n).length := Nat.length_toDigits_pos
    apply Nat.le_of_not_lt
    intro hlt
    have hle := (Nat.length_toDigits_le_iff (by decide) (by omega)).mpr hlt
    omega

theorem lt_ten_zpow_neg_mul {n m k : Nat} (h : n * 10 ^ k < m) : (n : ℚ) < 10 ^ (-(k : Int)) * m := by
  have hcast : (n : ℚ) * 10 ^ k < m := by exact_mod_cast h
  rwa [zpow_neg, zpow_natCast, lt_inv_mul_iff₀' (by positivity)]

theorem value_lt_magnitude {x : Ratio} (hnum : 0 < x.num) (hden : 0 < x.den) : x.value < 10 ^ x.magnitude := by
  have hden' : (0 : ℚ) < x.den := Nat.cast_pos.mpr hden
  unfold value magnitude
  rw [div_lt_iff₀ hden']
  split
  . have hdigits := lt_ten_pow_length (x.num / x.den)
    rw [Nat.div_lt_iff_lt_mul hden] at hdigits
    rw [zpow_natCast]
    exact_mod_cast hdigits
  next hlt =>
  have hquotient : 0 < x.den / x.num := Nat.div_pos (by omega) hnum
  have hdigits := Nat.mul_le_of_le_div _ _ _ (ten_pow_length_le hquotient)
  obtain ⟨d, hd⟩ : ∃ d, (Nat.toDigits 10 (x.den / x.num)).length = d + 1 :=
    Nat.exists_eq_add_one.mpr Nat.length_toDigits_pos
  rw [hd, Nat.add_sub_cancel] at hdigits
  dsimp only
  rw [hd, Nat.add_sub_cancel]
  split
  . next hle =>
    change x.den ≤ x.num * 10 ^ d at hle
    -- the fraction is less than one, so there is a digit to spare
    obtain ⟨k, rfl⟩ : ∃ k, d = k + 1 := by
      apply Nat.exists_eq_add_one.mpr
      apply Nat.pos_of_ne_zero
      rintro rfl
      omega
    have hstep : x.num * 10 ^ k < 10 ^ (k + 1) * x.num := by
      rw [Nat.pow_succ, Nat.mul_comm (10 ^ k * 10), ← Nat.mul_assoc]
      have hpos : 0 < x.num * 10 ^ k := Nat.mul_pos hnum (Nat.pow_pos (by decide))
      omega
    rw [show 2 - ((k + 1 + 1 : Nat) : Int) = -(k : Int) by omega]
    exact lt_ten_zpow_neg_mul (Nat.lt_of_lt_of_le hstep hdigits)
  . next hle =>
    rw [show 1 - ((d + 1 : Nat) : Int) = -(d : Int) by omega]
    exact lt_ten_zpow_neg_mul (Nat.lt_of_not_le hle)

end Ratio

def value (d : Decimal) : ℚ :=
  d.digits * 10 ^ d.exponent

namespace Binary

variable {b : Binary}

theorem value_upper (b : Binary) : b.upper.value = (2 * b.mantissa + 1) * 2 ^ (b.exponent - 1) := by
  unfold upper
  rw [Ratio.value_scaled]
  push_cast
  rfl

theorem lower_pos (hb : 0 < b.mantissa) : 0 < b.lower.value := by
  unfold lower
  split
  . rw [Ratio.value_scaled]
    have hpos : (0 : ℚ) < (4 * b.mantissa - 1 : Nat) := Nat.cast_pos.mpr (by omega)
    positivity
  . rw [Ratio.value_scaled]
    have hpos : (0 : ℚ) < (2 * b.mantissa - 1 : Nat) := Nat.cast_pos.mpr (by omega)
    positivity

theorem den_lower_pos (b : Binary) : 0 < b.lower.den := by
  unfold lower
  split <;> exact Ratio.den_scaled_pos (by decide) _ _

theorem bounds_of_reads {d : Decimal} (h : b.reads d = true) : b.lower.value ≤ d.value ∧ d.value ≤ b.upper.value := by
  have hlower := den_lower_pos b
  have hupper : 0 < b.upper.den := Ratio.den_scaled_pos (by decide) _ _
  have hd : 0 < (Ratio.scaled d.digits 10 d.exponent).den := Ratio.den_scaled_pos (by decide) _ _
  have hvalue : (Ratio.scaled d.digits 10 d.exponent).value = d.value := Ratio.value_scaled d.digits 10 d.exponent
  unfold reads at h
  dsimp only at h
  split at h
  . rw [Bool.and_eq_true, Ratio.le_iff hlower hd, Ratio.le_iff hd hupper, hvalue] at h
    exact h
  . rw [Bool.and_eq_true, Ratio.lt_iff hlower hd, Ratio.lt_iff hd hupper, hvalue] at h
    exact ⟨le_of_lt h.1, le_of_lt h.2⟩

theorem onGrid?_eq_some {exponent : Int} {d : Decimal} (h : b.onGrid? exponent = some d) :
    b.reads d = true
      ∧
    (d = (b.neighbours exponent).1 ∨ d = (b.neighbours exponent).2) := by
  unfold onGrid? at h
  dsimp only at h
  split at h
  . next hbelow habove =>
    cases h
    split
    . exact ⟨habove, .inr rfl⟩
    . exact ⟨hbelow, .inl rfl⟩
  . next hbelow _ =>
    cases h
    exact ⟨hbelow, .inl rfl⟩
  . next _ habove =>
    cases h
    exact ⟨habove, .inr rfl⟩
  . cases h

theorem digits_neighbours_lt {exponent : Int} {k : Nat} (h : b.value.value < 10 ^ (exponent + k)) :
    (b.neighbours exponent).1.digits < 10 ^ k := by
  have hstep : (Ratio.scaled 1 10 exponent).value = 10 ^ exponent := by
    rw [Ratio.value_scaled, Nat.cast_one, one_mul, Nat.cast_ofNat]
  have hpos : (0 : ℚ) < 10 ^ exponent := zpow_pos (by decide) exponent
  have hfloor : ((b.neighbours exponent).1.digits : ℚ) ≤ b.value.value / 10 ^ exponent := by
    rw [← hstep]
    unfold Ratio.value
    rw [div_div_div_eq, ← Nat.cast_mul, ← Nat.cast_mul]
    exact Nat.cast_div_le
  rw [le_div_iff₀ hpos] at hfloor
  have hlt := lt_of_le_of_lt hfloor h
  rw [add_comm, zpow_add₀ (by decide), mul_lt_mul_iff_left₀ hpos, zpow_natCast] at hlt
  exact_mod_cast hlt

theorem stripZeros_spec (fuel : Nat) (d : Decimal) :
    (stripZeros fuel d).value = d.value
      ∧
    (stripZeros fuel d).digits ≤ d.digits
      ∧
    ((stripZeros fuel d).digits = 0 → stripZeros fuel d = d) := by
  induction fuel generalizing d with
  | zero => exact ⟨rfl, Nat.le_refl _, fun _ => rfl⟩
  | succ fuel ih =>
    unfold stripZeros
    split
    . next h =>
      obtain ⟨hne, htens⟩ := h
      obtain ⟨hvalue, hdigits, hzero⟩ := ih ⟨d.digits / 10, d.exponent + 1⟩
      refine ⟨hvalue.trans ?_, Nat.le_trans hdigits (Nat.div_le_self _ _), ?_⟩
      . have hten : d.digits = d.digits / 10 * 10 := by omega
        have hcast : (d.digits : ℚ) = (d.digits / 10 : Nat) * 10 := by exact_mod_cast hten
        unfold Decimal.value
        dsimp only
        rw [hcast, zpow_add_one₀ (by decide)]
        ring
      . intro hresult
        have hkept := hzero hresult
        rw [hkept] at hresult
        dsimp only at hresult
        omega
    . exact ⟨rfl, Nat.le_refl _, fun _ => rfl⟩

theorem onGrid?_spec {exponent : Int} {k : Nat} {d : Decimal} (hb : 0 < b.mantissa)
    (hlt : b.value.value < 10 ^ (exponent + k)) (h : b.onGrid? exponent = some d) :
    0 < d.digits ∧ d.digits ≤ 10 ^ k ∧ d.value ≤ b.upper.value := by
  obtain ⟨hreads, hneighbour⟩ := onGrid?_eq_some h
  obtain ⟨hlower, hupper⟩ := bounds_of_reads hreads
  have hbelow := digits_neighbours_lt hlt
  refine ⟨?_, ?_, hupper⟩
  . apply Nat.pos_of_ne_zero
    intro hzero
    unfold Decimal.value at hlower
    rw [hzero, Nat.cast_zero, zero_mul] at hlower
    exact absurd (lower_pos hb) (not_lt_of_ge hlower)
  . cases hneighbour with
    | inl hd =>
      rw [hd]
      exact Nat.le_of_lt hbelow
    | inr hd =>
      rw [hd]
      exact hbelow

theorem shortest_spec (hb : 0 < b.mantissa) :
    b.shortest = ⟨0, 0⟩
      ∨
    (0 < b.shortest.digits ∧ b.shortest.digits ≤ 10 ^ 17 ∧ b.shortest.value ≤ b.upper.value) := by
  have hbelow : b.value.value < 10 ^ b.value.magnitude :=
    Ratio.value_lt_magnitude (Ratio.num_scaled_pos (by decide) hb _) (Ratio.den_scaled_pos (by decide) _ _)
  unfold shortest
  dsimp only
  obtain ⟨hvalue, hdigits, hzero⟩ := stripZeros_spec 17
    ((((List.range 17).map fun k : Nat => b.onGrid? (b.value.magnitude - (k + 1))).findSome? id).getD ⟨0, 0⟩)
  generalize hfound : ((List.range 17).map fun k : Nat => b.onGrid? (b.value.magnitude - (k + 1))).findSome? id
    = found at hvalue hdigits hzero ⊢
  cases found with
  | none =>
    left
    apply hzero
    exact Nat.le_zero.mp hdigits
  | some d =>
    right
    obtain ⟨grid, hmem, hgrid⟩ := List.exists_of_findSome?_eq_some hfound
    obtain ⟨k, hk, rfl⟩ := List.mem_map.mp hmem
    rw [List.mem_range] at hk
    have hlt : b.value.value < 10 ^ (b.value.magnitude - (k + 1) + (k + 1 : Nat)) := by
      rw [Int.natCast_succ, Int.sub_add_cancel]
      exact hbelow
    obtain ⟨hpos, hle, hupper⟩ := onGrid?_spec hb hlt hgrid
    rw [Option.getD_some] at hvalue hdigits hzero ⊢
    refine ⟨?_, ?_, ?_⟩
    . apply Nat.pos_of_ne_zero
      intro hnone
      have hkept := hzero hnone
      rw [hkept] at hnone
      exact absurd hnone (Nat.ne_of_gt hpos)
    . exact Nat.le_trans hdigits (Nat.le_trans hle (Nat.pow_le_pow_right (by decide) hk))
    . rw [hvalue]
      exact hupper

end Binary

theorem bounds_of_classify {x : Float} {negative : Bool} {b : Binary} (h : classify x = .finite negative b) :
    0 < b.mantissa ∧ b.mantissa < 2 ^ 53 ∧ b.exponent ≤ 971 := by
  unfold classify at h
  dsimp only at h
  have hfraction : x.toBits.toNat % 1 <<< 52 < 2 ^ 52 := Nat.mod_lt _ (by decide)
  have hexponent : (x.toBits.toNat >>> 52) % 2048 < 2048 := Nat.mod_lt _ (by decide)
  have hshift : 1 <<< 52 = 2 ^ 52 := rfl
  split at h
  . split at h <;> cases h
  split at h
  . split at h
    . cases h
    . cases h
      dsimp only
      omega
  . cases h
    dsimp only
    omega

end ServiceHost.Decimal
