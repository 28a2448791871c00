import ServiceHost.Proofs.Decimal.Rounding
import ServiceHost.Proofs.Decimal.Shortest
import ServiceHost.Proofs.Json.Numbers

/-!
This module contains what written doubles are read as: the reader multiplies the digits of a shortest decimal by a
power of ten, and no double is lost in that.
-/

namespace ServiceHost.Json.Reader

open Decimal

theorem power_toModel (n : Nat) : (power n).toModel = Float.Model.ofScientific 1 n := by
  -- the smaller powers are taken from a table
  have htable : ∀ n < 23, (power n).toModel = Float.Model.ofScientific 1 n := by decide +kernel
  by_cases hn : n < 23
  . exact htable n hn
  . unfold power Float.ofScientific
    rw [dif_neg (by omega)]
    rfl

theorem decimalFloat?_of_le {mantissa exponent : Nat} (hpos : 0 < mantissa) (hsize : mantissa < UInt64.size)
    (hle : (mantissa : ℚ) * 10 ^ exponent ≤ (2 ^ 54 - 5) * 2 ^ (970 : Int)) :
    ∃ x, decimalFloat? mantissa exponent = some x := by
  have hexponent : exponent ≤ maxPower := by
    have hlimit : (2 ^ 54 - 5) * 2 ^ 970 < 10 ^ (maxPower + 1) := by decide +kernel
    have hnat : mantissa * 10 ^ exponent ≤ (2 ^ 54 - 5) * 2 ^ 970 := by
      rw [← @Nat.cast_le ℚ, Nat.cast_mul, Nat.cast_mul, Nat.cast_pow, Nat.cast_pow 2 970]
      norm_num only at hle ⊢
      exact hle
    apply Nat.le_of_lt_succ
    apply (@Nat.pow_lt_pow_iff_right 10 exponent (maxPower + 1) (by decide)).mp
    exact Nat.lt_of_le_of_lt (Nat.le_trans (Nat.le_mul_of_pos_left _ hpos) hnat) hlimit
  have hmantissa : AtMost (UInt64.ofNat mantissa).toFloat.toModel (mantissa * (1 + 2 ^ (-53 : Int))) := by
    have hne : UInt64.ofNat mantissa ≠ 0 := by
      rw [Ne, ← UInt64.toNat_inj, UInt64.toNat_ofNat_of_lt' hsize]
      exact Nat.ne_of_gt hpos
    have hatMost := atMost_ofUInt64 hne
    rw [UInt64.toNat_ofNat_of_lt' hsize] at hatMost
    exact hatMost
  have hpower : AtMost (power exponent).toModel (10 ^ exponent * (1 + 2 ^ (-53 : Int))) := by
    rw [power_toModel]
    exact atMost_ofScientific hexponent
  have hlt : (mantissa : ℚ) * (1 + 2 ^ (-53 : Int)) * (10 ^ exponent * (1 + 2 ^ (-53 : Int))) < overflow := by
    calc (mantissa : ℚ) * (1 + 2 ^ (-53 : Int)) * (10 ^ exponent * (1 + 2 ^ (-53 : Int)))
      _ = mantissa * 10 ^ exponent * (1 + 2 ^ (-53 : Int)) ^ 2 := by ring
      _ ≤ (2 ^ 54 - 5) * 2 ^ (970 : Int) * (1 + 2 ^ (-53 : Int)) ^ 2 := by gcongr
      _ < overflow := by
        unfold overflow
        rw [mul_right_comm]
        apply mul_lt_mul_of_pos_right _ (zpow_pos two_pos 970)
        norm_num
  have hfinite := isInf_mul hmantissa hpower hlt
  unfold decimalFloat?
  dsimp only
  rw [if_neg (Nat.ne_of_gt hpos), if_neg (by omega), if_pos (Int.natCast_nonneg _), Int.toNat_natCast, hfinite]
  exact ⟨_, rfl⟩

theorem value_upper_le {b : Binary} (hmantissa : b.mantissa < 2 ^ 53) (hexponent : b.exponent ≤ 971)
    (hlargest : b.exponent = 971 → b.mantissa ≤ 2 ^ 53 - 3) :
    b.upper.value ≤ (2 ^ 54 - 5) * 2 ^ (970 : Int) := by
  rw [Binary.value_upper]
  by_cases htop : b.exponent = 971
  . have hle : 2 * b.mantissa + 1 + 5 ≤ 2 ^ 54 := by omega
    rw [htop]
    apply mul_le_mul_of_nonneg_right _ (zpow_nonneg zero_le_two _)
    rw [le_sub_iff_add_le]
    exact_mod_cast hle
  . have hle : 2 * b.mantissa + 1 + 5 * 2 ≤ 2 ^ 54 * 2 := by omega
    have hpower : (2 : ℚ) ^ (b.exponent - 1) ≤ 2 ^ (969 : Int) := zpow_le_zpow_right₀ one_le_two (by omega)
    rw [show (970 : Int) = 1 + 969 from rfl, zpow_add₀ two_ne_zero, ← mul_assoc]
    apply mul_le_mul _ hpower (zpow_nonneg zero_le_two _) (by norm_num)
    rw [zpow_one, sub_mul, le_sub_iff_add_le]
    exact_mod_cast hle

theorem decimalFloat?_shortest {b : Binary} (hpos : 0 < b.mantissa) (hmantissa : b.mantissa < 2 ^ 53)
    (hexponent : b.exponent ≤ 971) :
    ∃ x, decimalFloat? b.shortest.digits b.shortest.exponent = some x := by
  -- the shortest decimals of the two largest doubles lie where only a closer look at the roundings helps
  have hlargest : ∀ m ∈ [2 ^ 53 - 1, 2 ^ 53 - 2],
      (decimalFloat? (Binary.mk m 971).shortest.digits (Binary.mk m 971).shortest.exponent).isSome = true := by
    decide +kernel
  by_cases htop : b.exponent = 971 ∧ 2 ^ 53 - 3 < b.mantissa
  . obtain ⟨m, e⟩ := b
    obtain ⟨rfl, hm⟩ := htop
    dsimp only at hmantissa hm
    apply Option.isSome_iff_exists.mp
    apply hlargest
    rw [List.mem_pair]
    omega
  . have hupper := value_upper_le hmantissa hexponent (by omega)
    rcases Binary.shortest_spec hpos with hzero | ⟨hdigits, hle, hvalue⟩
    . rw [hzero]
      exact ⟨0, rfl⟩
    . by_cases hnegative : b.shortest.exponent < 0
      . exact decimalFloat?_of_neg _ _ hnegative
      . obtain ⟨exponent, hexp⟩ := Int.eq_ofNat_of_zero_le (Int.not_lt.mp hnegative)
        have hbound := le_trans hvalue hupper
        unfold Decimal.value at hbound
        rw [hexp, zpow_natCast] at hbound
        rw [hexp]
        exact decimalFloat?_of_le hdigits (Nat.lt_of_le_of_lt hle (by decide)) hbound

theorem number?_write {x : Float} {negative : Bool} {b : Binary} (h : classify x = .finite negative b)
    (sign : Bool) {rest : List Char} (hrest : EndsNumber rest) :
    ∃ y, number? sign (jsonStyle.decimal b.shortest ++ rest) = some (.float y, rest) := by
  obtain ⟨hpos, hmantissa, hexponent⟩ := bounds_of_classify h
  apply number?_decimal sign _ _ (decimalFloat?_shortest hpos hmantissa hexponent) hrest
  . rcases Binary.shortest_spec hpos with hzero | ⟨-, hle, -⟩
    . rw [hzero]
      decide
    . exact Nat.lt_of_le_of_lt hle (by decide)
  . rcases Binary.shortest_spec hpos with hzero | ⟨hdigits, -, -⟩
    . rw [hzero]
      exact fun _ => rfl
    . intro hnone
      exact absurd hnone (Nat.ne_of_gt hdigits)

end ServiceHost.Json.Reader
