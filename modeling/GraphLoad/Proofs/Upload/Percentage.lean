import GraphLoad.Proofs.Number.Nearest
import GraphLoad.Upload.Result

/-!
# The percentage of an upload

While statements succeed, the percentage of an upload does not fall (`percent_le_percent`), it stays
within a hundred (`percent_le_hundred`), and it is less than one off (`near_percent`), although it is
rounded several times on its way.
-/

namespace GraphLoad

open Binary64

namespace Binary64

/-- Natural numbers below `2 ^ 53` are numbers of 64-bit floating point. -/
theorem value_ofNat {n : Nat} (h : n < 2 ^ 53) : (ofNat n).value = n := by
  have hself : (⟨n, 0⟩ : Binary64).value = n := by rw [value, zpow_zero, mul_one]
  have hlow : minExponent ≤ 0 := by decide
  have hhigh : 0 ≤ maxExponent := by decide
  have hnear := (isNearest_nearest n Nat.one_pos).le ⟨n, 0⟩ ⟨h, hlow⟩ hhigh
  rw [hself, Nat.cast_one, div_one, sub_self, abs_zero] at hnear
  exact sub_eq_zero.mp (abs_nonpos_iff.mp hnear)

theorem value_ofNat_pos {n : Nat} (h : 0 < n) : 0 < (ofNat n).value := by
  have hone : (ofNat 1).value = 1 := (value_ofNat (by decide)).trans Nat.cast_one
  exact (hone.trans_gt one_pos).trans_le (value_ofNat_le_value_ofNat h)

/-- The number of hundredths that a part is of a whole. -/
def hundredths (part whole : Nat) : Nat :=
  (((ofNat part).div (ofNat whole)).mul (ofNat 100)).round

variable {part part' whole whole' : Nat}

theorem hundredths_le_hundredths (hwhole : 0 < whole) (hwhole' : 0 < whole')
    (h : (ofNat part).value / (ofNat whole).value ≤ (ofNat part').value / (ofNat whole').value) :
    hundredths part whole ≤ hundredths part' whole' :=
  round_le_round (value_mul_le_value_mul
    (value_div_le_value_div (value_ofNat_pos hwhole) (value_ofNat_pos hwhole') h) _)

/-- Hundredths in hundredths. -/
theorem hundredths_hundred {n : Nat} (h : n ≤ 100) : hundredths n 100 = n := by
  have hall : ∀ n < 101, hundredths n 100 = n := by decide +kernel
  exact hall n (Nat.lt_succ_of_le h)

theorem hundredths_mono (hwhole : 0 < whole) (h : part ≤ part') :
    hundredths part whole ≤ hundredths part' whole :=
  hundredths_le_hundredths hwhole hwhole
    (div_le_div_of_nonneg_right (value_ofNat_le_value_ofNat h) (value_nonneg _))

theorem hundredths_le_hundred (hwhole : 0 < whole) (h : part ≤ whole) : hundredths part whole ≤ 100 := by
  have hall : (ofNat 100).value / (ofNat 100).value = 1 := div_self (value_ofNat_pos (by decide)).ne'
  have hle : (ofNat part).value / (ofNat whole).value ≤ 1 :=
    div_le_one_of_le₀ (value_ofNat_le_value_ofNat h) (value_nonneg _)
  exact (hundredths_le_hundredths hwhole (by decide) (hle.trans_eq hall.symm)).trans_eq
    (hundredths_hundred (Nat.le_refl 100))

end Binary64

namespace UploadResult

variable {r r' : UploadResult}

theorem percent_of_recordsTotal_eq_zero (h : r.recordsTotal = 0) : r.percent = 0 := by
  rw [percent, fractionCompleted, if_pos h]
  decide

/-- What is rounded to hundredths stays as it is when it is rounded again. -/
theorem percent_eq_hundredths (hpos : 0 < r.recordsTotal) (h : r.recordsCompleted ≤ r.recordsTotal) :
    r.percent = hundredths r.recordsCompleted r.recordsTotal := by
  rw [percent, fractionCompleted, if_neg hpos.ne']
  exact hundredths_hundred (hundredths_le_hundred hpos h)

theorem percent_le_hundred (h : r.recordsCompleted ≤ r.recordsTotal) : r.percent ≤ 100 := by
  rcases Nat.eq_zero_or_pos r.recordsTotal with hzero | hpos
  · rw [percent_of_recordsTotal_eq_zero hzero]
    exact Nat.zero_le 100
  · rw [percent_eq_hundredths hpos h]
    exact hundredths_le_hundred hpos h

theorem percent_le_percent (htotal : r.recordsTotal = r'.recordsTotal)
    (hle : r'.recordsCompleted ≤ r'.recordsTotal) (h : r.recordsCompleted ≤ r'.recordsCompleted) :
    r.percent ≤ r'.percent := by
  rcases Nat.eq_zero_or_pos r'.recordsTotal with hzero | hpos
  · rw [percent_of_recordsTotal_eq_zero (htotal.trans hzero)]
    exact Nat.zero_le _
  · rw [percent_eq_hundredths hpos hle,
      percent_eq_hundredths (htotal ▸ hpos) (h.trans (hle.trans_eq htotal.symm)), htotal]
    exact hundredths_mono hpos h

/-- The percentage is less than one off. -/
def Near (percent : Nat) (r : UploadResult) : Prop :=
  100 * r.recordsCompleted < (percent + 1) * r.recordsTotal ∧
    percent * r.recordsTotal < 100 * r.recordsCompleted + r.recordsTotal

/-- As long as the total is a number of 64-bit floating point, the percentage of an account is less than
one off. -/
theorem near_percent (hpos : 0 < r.recordsTotal) (hle : r.recordsCompleted ≤ r.recordsTotal)
    (hexact : r.recordsTotal < 2 ^ 53) : Near r.percent r := by
  have hpart := value_ofNat (hle.trans_lt hexact)
  have hwhole := value_ofNat hexact
  have hhundred : (ofNat 100).value = (100 : Nat) := value_ofNat (by decide)
  have hlow : ∀ n ≤ 100, n * r.recordsTotal ≤ 100 * r.recordsCompleted → n ≤ r.percent := by
    intro n hn h
    have hvalue : (ofNat n).value = n := value_ofNat (by omega)
    rw [percent_eq_hundredths hpos hle, ← hundredths_hundred hn]
    refine hundredths_le_hundredths (by decide) hpos ?_
    rw [hpart, hwhole, hhundred, hvalue, div_le_div_iff₀ (by norm_num) (by exact_mod_cast hpos)]
    exact_mod_cast h.trans_eq (Nat.mul_comm _ _)
  have hhigh : ∀ n ≤ 100, 100 * r.recordsCompleted ≤ n * r.recordsTotal → r.percent ≤ n := by
    intro n hn h
    have hvalue : (ofNat n).value = n := value_ofNat (by omega)
    rw [percent_eq_hundredths hpos hle, ← hundredths_hundred hn]
    refine hundredths_le_hundredths hpos (by decide) ?_
    rw [hpart, hwhole, hhundred, hvalue, div_le_div_iff₀ (by exact_mod_cast hpos) (by norm_num)]
    exact_mod_cast (Nat.mul_comm _ _).trans_le h
  have hbound := percent_le_hundred hle
  constructor
  · by_contra hnot
    rcases Nat.lt_or_ge r.percent 100 with hlt | hge
    · exact absurd (hlow (r.percent + 1) hlt (not_lt.mp hnot)) (by omega)
    · nlinarith
  · by_contra hnot
    obtain ⟨n, hn⟩ : ∃ n, r.percent = n + 1 := Nat.exists_eq_succ_of_ne_zero fun hzero => by
      rw [hzero, Nat.zero_mul] at hnot
      omega
    rw [hn, Nat.succ_mul] at hnot
    have hle' := hhigh n (by omega) (by omega)
    omega

end UploadResult
end GraphLoad
