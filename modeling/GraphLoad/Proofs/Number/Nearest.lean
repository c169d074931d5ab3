import GraphLoad.Proofs.Number.Rounding

/-!
# The nearest number

Rounding gives the number of 64-bit floating point that is nearest to a fraction, of two equally near the
even one (`isNearest_nearest`): on the grid of the fraction by `roundEven_near`, and a number between two
points of the grid lies below all of its 53 bits.
-/

namespace GraphLoad.Binary64

/-- A number of 53 bits whose last bit is not below the least exponent. -/
def IsLong (x : Binary64) : Prop :=
  x.mantissa < 2 ^ 53 ∧ minExponent ≤ x.exponent

/-- No number of 64-bit floating point is nearer to the fraction, and one that is as near is the same or
has an odd mantissa. -/
structure IsNearest (x : Binary64) (q : ℚ) : Prop where
  isLong : x.IsLong
  exponent_le : x.exponent ≤ maxExponent
  le : ∀ y : Binary64, y.IsLong → y.exponent ≤ maxExponent → |x.value - q| ≤ |y.value - q|
  even : ∀ y : Binary64, y.IsLong → y.exponent ≤ maxExponent → |x.value - q| = |y.value - q| →
    y.value ≠ x.value → x.mantissa % 2 = 0

variable {num den : Nat} {y : Binary64}

/-! ## On the grid -/

/-- No whole number is nearer than the one that is rounded to. -/
theorem roundEven_nearest (n : Nat) {d : Nat} (hd : 0 < d) (k : Int) :
    |(roundEven n d : ℚ) - n / d| ≤ |(k : ℚ) - n / d| ∧
      (|(roundEven n d : ℚ) - n / d| = |(k : ℚ) - n / d| → k ≠ roundEven n d →
        roundEven n d % 2 = 0) := by
  obtain ⟨hlow, hhigh, htie⟩ := roundEven_near n hd
  have hhalf : |(roundEven n d : ℚ) - n / d| ≤ 1 / 2 := abs_le.mpr ⟨by linarith, by linarith⟩
  rcases eq_or_ne k (roundEven n d) with rfl | hne
  · exact ⟨le_rfl, fun _ h => absurd rfl h⟩
  have hapart : (1 : ℚ) ≤ |(k : ℚ) - roundEven n d| := by
    exact_mod_cast Int.one_le_abs (sub_ne_zero.mpr hne)
  have hsum : |(k : ℚ) - roundEven n d| ≤ |(k : ℚ) - n / d| + |(roundEven n d : ℚ) - n / d| := by
    rw [abs_sub_comm (roundEven n d : ℚ)]
    exact abs_sub_le _ _ _
  refine ⟨by linarith, fun heq _ => htie ?_⟩
  rcases abs_cases ((roundEven n d : ℚ) - n / d) with ⟨habs, -⟩ | ⟨habs, -⟩
  · exact .inl (by linarith)
  · exact .inr (by linarith)

/-- A number with a finer last bit than the grid lies below the 53 bits of the fraction. -/
theorem exists_on_grid (hnum : 0 < num) (hden : 0 < den) (hy : y.IsLong) :
    (∃ k : Int, y.value = k * 2 ^ lastBit num den) ∨
      y.value < 2 ^ 52 * 2 ^ lastBit num den ∧ (2 ^ 52 * 2 ^ lastBit num den : ℚ) ≤ num / den := by
  obtain ⟨hmantissa, hexponent⟩ := hy
  rcases le_or_gt (lastBit num den) y.exponent with h | h
  · obtain ⟨shift, hshift⟩ := Int.eq_ofNat_of_zero_le (sub_nonneg.mpr h)
    refine .inl ⟨y.mantissa * 2 ^ shift, ?_⟩
    rw [value, show y.exponent = shift + lastBit num den by omega, zpow_add₀ two_ne_zero, zpow_natCast]
    push_cast
    ring
  · obtain ⟨exact, heq, hlow, -⟩ := exists_lastBit_eq hnum hden
    obtain rfl : lastBit num den = exact := by omega
    refine .inr ⟨?_, hlow⟩
    have hpow : (2 ^ y.exponent : ℚ) ≤ 2 ^ (lastBit num den - 1) :=
      zpow_le_zpow_right₀ one_le_two (by omega)
    calc y.value
      _ < 2 ^ 53 * 2 ^ y.exponent :=
        mul_lt_mul_of_pos_right (by exact_mod_cast hmantissa) (zpow_pos two_pos _)
      _ ≤ 2 ^ 53 * 2 ^ (lastBit num den - 1) := mul_le_mul_of_nonneg_left hpow (by positivity)
      _ = 2 ^ 52 * 2 ^ lastBit num den := by
        rw [zpow_sub_one₀ two_ne_zero]
        ring

theorem abs_mul_sub_mul (a t : ℚ) (e : Int) : |a * 2 ^ e - t * 2 ^ e| = |a - t| * 2 ^ e := by
  rw [← sub_mul, abs_mul, abs_of_pos (zpow_pos (two_pos (α := ℚ)) e)]

/-- Whatever the greatest exponent, no number is nearer than the rounded one. -/
theorem rounded_nearest (hden : 0 < den) (hy : y.IsLong) :
    |(rounded num den).value - num / den| ≤ |y.value - num / den| ∧
      (|(rounded num den).value - num / den| = |y.value - num / den| →
        y.value ≠ (rounded num den).value → (rounded num den).mantissa % 2 = 0) := by
  rcases Nat.eq_zero_or_pos num with rfl | hnum
  · rw [value_rounded_zero, Nat.cast_zero, zero_div, sub_zero, abs_zero]
    exact ⟨abs_nonneg _, fun _ _ => by rw [rounded, if_pos rfl]; rfl⟩
  have hpow : (0 : ℚ) < 2 ^ lastBit num den := zpow_pos two_pos _
  have hgrid : (num / den : ℚ) = num / den / 2 ^ lastBit num den * 2 ^ lastBit num den :=
    (div_mul_cancel₀ _ hpow.ne').symm
  have hnear := roundEven_nearest (scale num den (lastBit num den)).1
    (@scale_snd_pos num den hden (lastBit num den))
  rw [scale_eq_div] at hnear
  have heven : onGrid num den % 2 = 0 → (rounded num den).mantissa % 2 = 0 := by
    intro h
    rw [rounded_eq hnum]
    split
    · show 2 ^ 52 % 2 = 0
      norm_num
    · exact h
  rw [value_rounded hnum]
  rcases exists_on_grid hnum hden hy with ⟨k, hk⟩ | ⟨hbelow, habove⟩
  · obtain ⟨hle, htie⟩ := hnear k
    rw [hk, hgrid, abs_mul_sub_mul, abs_mul_sub_mul]
    refine ⟨mul_le_mul_of_nonneg_right hle hpow.le, fun heq hne => heven (htie ?_ ?_)⟩
    · exact mul_right_cancel₀ hpow.ne' heq
    · rintro rfl
      exact hne (by rw [onGrid, Int.cast_natCast])
  · have hlt : |(onGrid num den : ℚ) * 2 ^ lastBit num den - num / den| < |y.value - num / den| := by
      have hcast : ((2 ^ 52 : Int) : ℚ) = 2 ^ 52 := by norm_num
      have hle := mul_le_mul_of_nonneg_right (hnear (2 ^ 52)).1 hpow.le
      rw [← abs_mul_sub_mul, ← abs_mul_sub_mul, ← hgrid, hcast] at hle
      rw [abs_of_nonpos (by linarith : y.value - num / den ≤ 0)]
      rw [abs_of_nonpos (by linarith : (2 ^ 52 * 2 ^ lastBit num den - num / den : ℚ) ≤ 0)] at hle
      exact hle.trans_lt (by linarith)
    exact ⟨hlt.le, fun heq _ => absurd heq hlt.ne⟩

/-! ## Up to the greatest number -/

theorem isLong_rounded (hden : 0 < den) : (rounded num den).IsLong := by
  refine ⟨mantissa_rounded_lt hden, ?_⟩
  rcases Nat.eq_zero_or_pos num with rfl | hnum
  · rw [rounded, if_pos rfl]
    decide
  obtain ⟨exact, heq, -⟩ := exists_lastBit_eq hnum hden
  rw [rounded_eq hnum]
  split
  · show minExponent ≤ lastBit num den + 1
    omega
  · show minExponent ≤ lastBit num den
    omega

theorem value_le_greatest (hy : y.IsLong) (hexponent : y.exponent ≤ maxExponent) :
    y.value ≤ greatest.value := by
  have hmantissa : (y.mantissa : ℚ) + 1 ≤ 2 ^ 53 := by exact_mod_cast hy.1
  rw [value_greatest]
  exact mul_le_mul (by linarith) (zpow_le_zpow_right₀ one_le_two hexponent) (zpow_pos two_pos _).le
    (by norm_num)

/-- A fraction is rounded to the number nearest to it. -/
theorem isNearest_nearest (num : Nat) (hden : 0 < den) : IsNearest (nearest num den) (num / den) := by
  rw [nearest, nearest?]
  split
  · rename_i h
    -- The fraction lies beyond the greatest number: else that would be nearer than the rounded one.
    have hbeyond : greatest.value < (num / den : ℚ) := by
      have hlt := value_greatest_lt hden h
      have hle := (@rounded_nearest num den greatest hden ⟨by decide, by decide⟩).1
      by_contra hnot
      rw [abs_of_nonneg (by linarith), abs_of_nonneg (by linarith)] at hle
      linarith
    have hfar : ∀ y : Binary64, y.IsLong → y.exponent ≤ maxExponent →
        |greatest.value - num / den| = num / den - greatest.value ∧
          |y.value - num / den| = num / den - y.value := by
      intro y hy hexponent
      have hle := value_le_greatest hy hexponent
      rw [abs_of_neg (by linarith), abs_of_neg (by linarith), neg_sub, neg_sub]
      exact ⟨rfl, rfl⟩
    refine ⟨⟨by decide, by decide⟩, by decide, fun y hy hexponent => ?_, fun y hy hexponent heq hne => ?_⟩
    · obtain ⟨hx, hy'⟩ := hfar y hy hexponent
      rw [Option.getD_none, hx, hy']
      linarith [value_le_greatest hy hexponent]
    · obtain ⟨hx, hy'⟩ := hfar y hy hexponent
      rw [Option.getD_none] at heq hne
      rw [hx, hy'] at heq
      exact absurd (by linarith) hne
  · rename_i h
    exact ⟨isLong_rounded hden, not_lt.mp h, fun y hy _ => (rounded_nearest hden hy).1,
      fun y hy _ => (rounded_nearest hden hy).2⟩

end GraphLoad.Binary64
