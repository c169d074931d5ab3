import GraphLoad.Number.Binary64
import Mathlib.Algebra.Order.Field.Basic
import Mathlib.Algebra.Order.Field.Power
import Mathlib.Algebra.Order.Ring.Rat
import Mathlib.Tactic.FieldSimp
import Mathlib.Tactic.Linarith
import Mathlib.Tactic.NormNum
import Mathlib.Tactic.Positivity
import Mathlib.Tactic.Ring

/-!
# Rounding keeps the order

The number nearest to a fraction grows with the fraction (`value_nearest_le`), and with it products,
quotients and what is rounded to whole numbers. Rounding to 53 bits is rounding to whole numbers on a
grid whose width (`lastBit`) grows with the fraction: on one grid the order is kept by
`roundEven_le_roundEven`, and between two grids lies the least number of 53 bits of the wider one.
-/

namespace GraphLoad.Binary64

/-- The number as a rational. -/
def value (x : Binary64) : ℚ :=
  x.mantissa * 2 ^ x.exponent

theorem value_nonneg (x : Binary64) : 0 ≤ x.value :=
  mul_nonneg (Nat.cast_nonneg _) (zpow_nonneg (by norm_num) _)

/-! ## Fractions -/

private theorem cast_pow_toNat {e : Int} (h : 0 ≤ e) : ((Nat.pow 2 e.toNat : Nat) : ℚ) = 2 ^ e := by
  obtain ⟨k, rfl⟩ := Int.eq_ofNat_of_zero_le h
  exact (Nat.cast_pow 2 k).trans (zpow_natCast 2 k).symm

private theorem cast_pow_neg_toNat {e : Int} (h : ¬0 ≤ e) :
    ((Nat.pow 2 (-e).toNat : Nat) : ℚ) = (2 ^ e)⁻¹ := by
  rw [cast_pow_toNat (by omega), zpow_neg]

theorem fraction_snd_pos (x : Binary64) : 0 < x.fraction.2 := by
  rw [fraction]
  split
  · exact Nat.one_pos
  · exact Nat.pow_pos (by decide)

theorem fraction_eq_value (x : Binary64) : (x.fraction.1 : ℚ) / x.fraction.2 = x.value := by
  rw [fraction, value]
  split
  · rename_i h
    rw [Nat.cast_one, div_one, Nat.cast_mul, cast_pow_toNat h]
  · rename_i h
    rw [cast_pow_neg_toNat h, div_inv_eq_mul]

theorem scale_snd_pos {num den : Nat} (hden : 0 < den) (e : Int) : 0 < (scale num den e).2 := by
  rw [scale]
  split
  · exact Nat.mul_pos hden (Nat.pow_pos (by decide))
  · exact hden

theorem scale_eq_div (num den : Nat) (e : Int) :
    ((scale num den e).1 : ℚ) / (scale num den e).2 = num / den / 2 ^ e := by
  rw [scale]
  split
  · rename_i h
    rw [Nat.cast_mul, cast_pow_toNat h, div_div]
  · rename_i h
    rw [Nat.cast_mul, cast_pow_neg_toNat h, div_eq_mul_inv (num / den : ℚ), mul_div_right_comm]

/-! ## Whole numbers -/

/-- The whole number is at most a half away, and even if it is just that. -/
theorem roundEven_near (n : Nat) {d : Nat} (hd : 0 < d) :
    (roundEven n d : ℚ) - 1 / 2 ≤ n / d ∧ (n / d : ℚ) ≤ roundEven n d + 1 / 2 ∧
      ((n / d : ℚ) = roundEven n d - 1 / 2 ∨ (n / d : ℚ) = roundEven n d + 1 / 2 →
        roundEven n d % 2 = 0) := by
  have hd' : (0 : ℚ) < d := Nat.cast_pos.mpr hd
  have hdiv : (n : ℚ) = d * (n / d : Nat) + (n % d : Nat) := by
    exact_mod_cast (Nat.div_add_mod n d).symm
  have hq : (n / d : ℚ) = (n / d : Nat) + (n % d : Nat) / d := by
    rw [hdiv]
    field_simp
  have hmod : ((n % d : Nat) : ℚ) / d < 1 := (div_lt_one hd').mpr (Nat.cast_lt.mpr (Nat.mod_lt n hd))
  have hnonneg : 0 ≤ ((n % d : Nat) : ℚ) / d := by positivity
  have hlt : 2 * (n % d) < d ↔ ((n % d : Nat) : ℚ) / d < 1 / 2 := by
    rw [div_lt_iff₀ hd', ← Nat.cast_lt (α := ℚ)]
    push_cast
    constructor <;> intro h <;> linarith
  have hgt : d < 2 * (n % d) ↔ 1 / 2 < ((n % d : Nat) : ℚ) / d := by
    rw [lt_div_iff₀ hd', ← Nat.cast_lt (α := ℚ)]
    push_cast
    constructor <;> intro h <;> linarith
  rw [roundEven, hq]
  split_ifs with hbelow habove heven
  · rw [hlt] at hbelow
    exact ⟨by linarith, by linarith, fun h => by rcases h with h | h <;> linarith⟩
  · rw [hgt] at habove
    push_cast
    exact ⟨by linarith, by linarith, fun h => by rcases h with h | h <;> linarith⟩
  · rw [hlt, not_lt] at hbelow
    rw [hgt, not_lt] at habove
    exact ⟨by linarith, by linarith, fun _ => heven⟩
  · rw [hlt, not_lt] at hbelow
    rw [hgt, not_lt] at habove
    push_cast
    exact ⟨by linarith, by linarith, fun _ => by omega⟩

theorem roundEven_le_roundEven {n d n' d' : Nat} (hd : 0 < d) (hd' : 0 < d')
    (h : (n / d : ℚ) ≤ n' / d') : roundEven n d ≤ roundEven n' d' := by
  by_contra hlt
  obtain ⟨hlow, -, htie⟩ := roundEven_near n hd
  obtain ⟨-, hhigh, htie'⟩ := roundEven_near n' hd'
  have hsucc : (roundEven n' d' : ℚ) + 1 ≤ roundEven n d := by exact_mod_cast Nat.not_le.mp hlt
  -- The two fractions are one, halfway between two neighbours, which would both be even.
  have heven := htie (.inl (by linarith))
  have heven' := htie' (.inr (by linarith))
  have hnext : (roundEven n d : ℚ) = roundEven n' d' + 1 := by linarith
  have hnext : roundEven n d = roundEven n' d' + 1 := by exact_mod_cast hnext
  omega

theorem roundEven_one (n : Nat) : roundEven n 1 = n := by
  simp [roundEven, Nat.mod_one]

theorem roundEven_le {n d k : Nat} (hd : 0 < d) (h : (n / d : ℚ) ≤ k) : roundEven n d ≤ k :=
  (roundEven_le_roundEven hd Nat.one_pos (by simpa using h)).trans_eq (roundEven_one k)

theorem le_roundEven {n d k : Nat} (hd : 0 < d) (h : (k : ℚ) ≤ n / d) : k ≤ roundEven n d :=
  (roundEven_one k).symm.trans_le (roundEven_le_roundEven Nat.one_pos hd (by simpa using h))

theorem roundUp_le_roundUp {n d n' d' : Nat} (hd : 0 < d) (hd' : 0 < d')
    (h : (n / d : ℚ) ≤ n' / d') : roundUp n d ≤ roundUp n' d' := by
  rw [div_le_div_iff₀ (Nat.cast_pos.mpr hd) (Nat.cast_pos.mpr hd')] at h
  have hcross : n * d' ≤ n' * d := by exact_mod_cast h
  rw [roundUp, roundUp, Nat.le_div_iff_mul_le (by omega)]
  have hle : (2 * n + d) / (2 * d) * (2 * d) ≤ 2 * n + d := Nat.div_mul_le_self _ _
  generalize (2 * n + d) / (2 * d) = k at hle
  nlinarith [Nat.mul_le_mul_right d' hle]

/-! ## The grid -/

theorem scale_lt_iff (num : Nat) {den : Nat} (hden : 0 < den) (k : Nat) (e : Int) :
    (scale num den e).1 < k * (scale num den e).2 ↔ (num / den : ℚ) < k * 2 ^ e := by
  have hpos : (0 : ℚ) < 2 ^ e := zpow_pos two_pos _
  rw [← div_lt_iff₀ hpos, ← scale_eq_div, div_lt_iff₀ (Nat.cast_pos.mpr (scale_snd_pos hden e)),
    ← Nat.cast_lt (α := ℚ), Nat.cast_mul]

/-- By the lengths of its two numbers a fraction is known up to a factor of two, either way. -/
theorem div_bounds {num den : Nat} (hnum : 0 < num) (hden : 0 < den) {guess : Int}
    (hguess : guess = (num.log2 : Int) - den.log2 - 52) :
    (2 ^ 51 * 2 ^ guess : ℚ) ≤ num / den ∧ (num / den : ℚ) < 2 ^ 53 * 2 ^ guess := by
  have hden' : (0 : ℚ) < den := Nat.cast_pos.mpr hden
  have hnumLow : (2 ^ num.log2 : ℚ) ≤ num := by exact_mod_cast Nat.log2_self_le hnum.ne'
  have hnumHigh : (num : ℚ) < 2 * 2 ^ num.log2 := by
    rw [← pow_succ']
    exact_mod_cast Nat.lt_log2_self
  have hdenLow : (2 ^ den.log2 : ℚ) ≤ den := by exact_mod_cast Nat.log2_self_le hden.ne'
  have hdenHigh : (den : ℚ) < 2 * 2 ^ den.log2 := by
    rw [← pow_succ']
    exact_mod_cast Nat.lt_log2_self
  have hgrid : (2 ^ guess : ℚ) = 2 ^ num.log2 / 2 ^ den.log2 / 2 ^ 52 := by
    rw [hguess, zpow_sub₀ two_ne_zero, zpow_sub₀ two_ne_zero, zpow_natCast, zpow_natCast]
    rfl
  have hpow := pow_pos (two_pos (α := ℚ)) den.log2
  constructor
  · rw [hgrid, le_div_iff₀ hden']
    field_simp
    nlinarith
  · rw [hgrid, div_lt_iff₀ hden']
    field_simp
    nlinarith

/-- The grid is such that the fraction has 53 bits on it, if the least exponent allows. -/
theorem exists_lastBit_eq {num den : Nat} (hnum : 0 < num) (hden : 0 < den) :
    ∃ exact : Int, lastBit num den = max exact minExponent ∧
      (2 ^ 52 * 2 ^ exact : ℚ) ≤ num / den ∧ (num / den : ℚ) < 2 ^ 53 * 2 ^ exact := by
  obtain ⟨guess, hguess⟩ : ∃ guess : Int, guess = (num.log2 : Int) - den.log2 - 52 := ⟨_, rfl⟩
  obtain ⟨hlow, hhigh⟩ := div_bounds hnum hden hguess
  have hsmall := scale_lt_iff num hden (Nat.pow 2 52) guess
  have hcast : ((Nat.pow 2 52 : Nat) : ℚ) = 2 ^ 52 := Nat.cast_pow 2 52
  rw [hcast] at hsmall
  by_cases h : (num / den : ℚ) < 2 ^ 52 * 2 ^ guess
  · have hhalf : (2 ^ (guess - 1) : ℚ) = 2 ^ guess / 2 := by
      rw [zpow_sub₀ two_ne_zero, zpow_one]
    refine ⟨guess - 1, ?_, ?_, ?_⟩
    · rw [lastBit, ← hguess]
      exact congrArg (max · minExponent) (if_pos (hsmall.mpr h))
    · rw [hhalf]
      linarith
    · rw [hhalf]
      linarith
  · refine ⟨guess, ?_, not_lt.mp h, hhigh⟩
    rw [lastBit, ← hguess]
    exact congrArg (max · minExponent) (if_neg (mt hsmall.mp h))

theorem num_pos_of_le {num den num' den' : Nat} (hnum : 0 < num) (hden : 0 < den) (hden' : 0 < den')
    (h : (num / den : ℚ) ≤ num' / den') : 0 < num' := by
  have hpos : (0 : ℚ) < num' / den' := lt_of_lt_of_le (by positivity) h
  exact Nat.cast_pos.mp ((div_pos_iff_of_pos_right (Nat.cast_pos.mpr hden')).mp hpos)

theorem lastBit_le_lastBit {num den num' den' : Nat} (hnum : 0 < num) (hden : 0 < den)
    (hden' : 0 < den') (h : (num / den : ℚ) ≤ num' / den') : lastBit num den ≤ lastBit num' den' := by
  obtain ⟨exact, heq, hlow, -⟩ := exists_lastBit_eq hnum hden
  obtain ⟨exact', heq', -, hhigh⟩ := exists_lastBit_eq (num_pos_of_le hnum hden hden' h) hden'
  have hpow : (2 ^ exact : ℚ) < 2 ^ (exact' + 1) := by
    rw [zpow_add_one₀ two_ne_zero]
    linarith
  have := (zpow_lt_zpow_iff_right₀ one_lt_two).mp hpow
  omega

/-- The fraction as a whole number on its grid. -/
def onGrid (num den : Nat) : Nat :=
  roundEven (scale num den (lastBit num den)).1 (scale num den (lastBit num den)).2

theorem onGrid_le {num den : Nat} (hnum : 0 < num) (hden : 0 < den) : onGrid num den ≤ 2 ^ 53 := by
  obtain ⟨exact, heq, -, hhigh⟩ := exists_lastBit_eq hnum hden
  have hwide : (2 ^ exact : ℚ) ≤ 2 ^ lastBit num den :=
    zpow_le_zpow_right₀ one_le_two (by omega)
  refine roundEven_le (scale_snd_pos hden _) ?_
  rw [scale_eq_div, div_le_iff₀ (zpow_pos two_pos _)]
  push_cast
  linarith

theorem le_onGrid {num den : Nat} (hnum : 0 < num) (hden : 0 < den)
    (h : minExponent < lastBit num den) : 2 ^ 52 ≤ onGrid num den := by
  obtain ⟨exact, heq, hlow, -⟩ := exists_lastBit_eq hnum hden
  obtain rfl : lastBit num den = exact := by omega
  refine le_roundEven (scale_snd_pos hden _) ?_
  rw [scale_eq_div, le_div_iff₀ (zpow_pos two_pos _)]
  exact_mod_cast hlow

/-! ## Numbers of 53 bits -/

theorem rounded_eq {num : Nat} (hnum : 0 < num) (den : Nat) :
    rounded num den = if onGrid num den = 2 ^ 53 then ⟨2 ^ 52, lastBit num den + 1⟩
      else ⟨onGrid num den, lastBit num den⟩ :=
  if_neg hnum.ne'

theorem value_rounded {num : Nat} (hnum : 0 < num) (den : Nat) :
    (rounded num den).value = onGrid num den * 2 ^ lastBit num den := by
  rw [rounded_eq hnum]
  split
  · rename_i h
    rw [h, value, zpow_add_one₀ two_ne_zero]
    push_cast
    ring
  · rfl

theorem value_rounded_zero (den : Nat) : (rounded 0 den).value = 0 := by
  rw [rounded, if_pos rfl, value, zero, Nat.cast_zero, zero_mul]

theorem value_rounded_le_value_rounded {num den num' den' : Nat} (hden : 0 < den) (hden' : 0 < den')
    (h : (num / den : ℚ) ≤ num' / den') : (rounded num den).value ≤ (rounded num' den').value := by
  rcases Nat.eq_zero_or_pos num with rfl | hnum
  · exact (value_rounded_zero den).trans_le (value_nonneg _)
  have hnum' := num_pos_of_le hnum hden hden' h
  rw [value_rounded hnum, value_rounded hnum']
  rcases (lastBit_le_lastBit hnum hden hden' h).eq_or_lt with heq | hlt
  · have hpow : (0 : ℚ) < 2 ^ lastBit num' den' := zpow_pos two_pos _
    rw [onGrid, onGrid, heq]
    refine mul_le_mul_of_nonneg_right (Nat.cast_le.mpr ?_) hpow.le
    refine roundEven_le_roundEven (scale_snd_pos hden _) (scale_snd_pos hden' _) ?_
    rw [scale_eq_div, scale_eq_div]
    exact div_le_div_of_nonneg_right h hpow.le
  · -- The narrower grid ends where the 53 bits of the wider one start.
    have hleast : minExponent < lastBit num' den' := by
      obtain ⟨exact, heq, -⟩ := exists_lastBit_eq hnum hden
      omega
    calc (onGrid num den : ℚ) * 2 ^ lastBit num den
      _ ≤ 2 ^ 53 * 2 ^ lastBit num den := by
        refine mul_le_mul_of_nonneg_right ?_ (zpow_pos two_pos _).le
        exact_mod_cast onGrid_le hnum hden
      _ = 2 ^ 52 * 2 ^ (lastBit num den + 1) := by
        rw [zpow_add_one₀ two_ne_zero]
        ring
      _ ≤ 2 ^ 52 * 2 ^ lastBit num' den' := by
        refine mul_le_mul_of_nonneg_left ?_ (by positivity)
        exact zpow_le_zpow_right₀ one_le_two hlt
      _ ≤ onGrid num' den' * 2 ^ lastBit num' den' := by
        refine mul_le_mul_of_nonneg_right ?_ (zpow_pos two_pos _).le
        exact_mod_cast le_onGrid hnum' hden' hleast

theorem mantissa_rounded_lt {num den : Nat} (hden : 0 < den) : (rounded num den).mantissa < 2 ^ 53 := by
  rcases Nat.eq_zero_or_pos num with rfl | hnum
  · rw [rounded, if_pos rfl]
    decide
  rw [rounded_eq hnum]
  split
  · exact Nat.pow_lt_pow_right one_lt_two (by decide)
  · rename_i h
    exact (onGrid_le hnum hden).lt_of_ne h

theorem le_mantissa_rounded {num den : Nat} (hden : 0 < den)
    (h : maxExponent < (rounded num den).exponent) : 2 ^ 52 ≤ (rounded num den).mantissa := by
  rcases Nat.eq_zero_or_pos num with rfl | hnum
  · rw [rounded, if_pos rfl] at h
    exact absurd h (by decide)
  rw [rounded_eq hnum] at h ⊢
  split at h
  · rw [if_pos (by assumption)]
  · rw [if_neg (by assumption)]
    exact le_onGrid hnum hden (lt_trans (by decide) h)

theorem value_greatest : greatest.value = (2 ^ 53 - 1) * 2 ^ maxExponent := by
  have h : Nat.pow 2 53 = 2 ^ 53 := rfl
  rw [greatest, value, h, Nat.cast_sub (by decide)]
  push_cast
  rfl

theorem value_greatest_lt {num den : Nat} (hden : 0 < den)
    (h : maxExponent < (rounded num den).exponent) : greatest.value < (rounded num den).value := by
  have hpow : (2 ^ (maxExponent + 1) : ℚ) ≤ 2 ^ (rounded num den).exponent :=
    zpow_le_zpow_right₀ one_le_two h
  have hmantissa : (2 ^ 52 : ℚ) ≤ (rounded num den).mantissa := by
    exact_mod_cast le_mantissa_rounded hden h
  rw [value_greatest]
  calc ((2 ^ 53 - 1) * 2 ^ maxExponent : ℚ)
    _ < 2 ^ 52 * 2 ^ (maxExponent + 1) := by
      rw [zpow_add_one₀ two_ne_zero]
      linarith [zpow_pos (two_pos (α := ℚ)) maxExponent]
    _ ≤ (rounded num den).mantissa * 2 ^ (rounded num den).exponent :=
      mul_le_mul hmantissa hpow (zpow_pos two_pos _).le (Nat.cast_nonneg _)

/-- Rounding stops at the greatest number. -/
theorem value_nearest {num den : Nat} (hden : 0 < den) :
    (nearest num den).value = min (rounded num den).value greatest.value := by
  rw [nearest, nearest?]
  split
  · rename_i h
    rw [Option.getD_none, min_eq_right (value_greatest_lt hden h).le]
  · rename_i h
    rw [Option.getD_some, value_greatest, min_eq_left]
    have hmantissa : ((rounded num den).mantissa : ℚ) + 1 ≤ 2 ^ 53 := by
      exact_mod_cast mantissa_rounded_lt hden
    refine mul_le_mul (by linarith) (zpow_le_zpow_right₀ one_le_two (not_lt.mp h))
      (zpow_pos two_pos _).le (by norm_num)

/-- The greater the fraction, the greater the number nearest to it. -/
theorem value_nearest_le {num den num' den' : Nat} (hden : 0 < den) (hden' : 0 < den')
    (h : (num / den : ℚ) ≤ num' / den') : (nearest num den).value ≤ (nearest num' den').value := by
  rw [value_nearest hden, value_nearest hden']
  exact min_le_min_right _ (value_rounded_le_value_rounded hden hden' h)

/-! ## Operations -/

variable {x x' y y' : Binary64}

theorem value_ofNat_le_value_ofNat {m n : Nat} (h : m ≤ n) : (ofNat m).value ≤ (ofNat n).value := by
  refine value_nearest_le Nat.one_pos Nat.one_pos ?_
  rw [Nat.cast_one, div_one, div_one]
  exact Nat.cast_le.mpr h

theorem cast_mul_div (x y : Binary64) :
    ((x.fraction.1 * y.fraction.1 : Nat) : ℚ) / (x.fraction.2 * y.fraction.2 : Nat) =
      x.value * y.value := by
  rw [← fraction_eq_value, ← fraction_eq_value, div_mul_div_comm, Nat.cast_mul, Nat.cast_mul]

theorem cast_div_div (x y : Binary64) :
    ((x.fraction.1 * y.fraction.2 : Nat) : ℚ) / (x.fraction.2 * y.fraction.1 : Nat) =
      x.value / y.value := by
  rw [← fraction_eq_value, ← fraction_eq_value, div_div_div_eq, Nat.cast_mul, Nat.cast_mul]

theorem mul_snd_pos (x y : Binary64) : 0 < x.fraction.2 * y.fraction.2 :=
  Nat.mul_pos x.fraction_snd_pos y.fraction_snd_pos

theorem div_snd_pos (x : Binary64) (hy : 0 < y.value) : 0 < x.fraction.2 * y.fraction.1 := by
  rw [← fraction_eq_value, div_pos_iff_of_pos_right (Nat.cast_pos.mpr y.fraction_snd_pos)] at hy
  exact Nat.mul_pos x.fraction_snd_pos (Nat.cast_pos.mp hy)

theorem value_mul_le_value_mul (h : x.value ≤ x'.value) (y : Binary64) :
    (x.mul y).value ≤ (x'.mul y).value := by
  refine value_nearest_le (mul_snd_pos x y) (mul_snd_pos x' y) ?_
  rw [cast_mul_div, cast_mul_div]
  exact mul_le_mul_of_nonneg_right h y.value_nonneg

theorem value_div_le_value_div (hy : 0 < y.value) (hy' : 0 < y'.value)
    (h : x.value / y.value ≤ x'.value / y'.value) : (x.div y).value ≤ (x'.div y').value := by
  refine value_nearest_le (div_snd_pos x hy) (div_snd_pos x' hy') ?_
  rwa [cast_div_div, cast_div_div]

theorem round_le_round (h : x.value ≤ x'.value) : x.round ≤ x'.round := by
  refine roundUp_le_roundUp x.fraction_snd_pos x'.fraction_snd_pos ?_
  rwa [fraction_eq_value, fraction_eq_value]

end GraphLoad.Binary64
