import Mathlib.Data.Int.Log
import Mathlib.Data.Rat.Floor
import Mathlib.Tactic.Linarith
import Mathlib.Tactic.NormNum
import Mathlib.Tactic.Positivity

/-!
# Rounding to double precision

A `double` result is the exact result rounded to 53 significant binary digits,
to the nearest value and to the even one of two that are equally near.  The
exponent range is left out: the results this is used for are between `2^-32`
and `2^32` in magnitude.
-/

namespace BoxTrials
namespace Foundation

def roundHalfEven (q : ℚ) : ℤ :=
  if q - ⌊q⌋ < 1 / 2 then
    ⌊q⌋
  else if 1 / 2 < q - ⌊q⌋ then
    ⌊q⌋ + 1
  else if ⌊q⌋ % 2 = 0 then
    ⌊q⌋
  else
    ⌊q⌋ + 1

def ulp (x : ℚ) : ℚ :=
  2 ^ (Int.log 2 |x| - 52)

/-- The double nearest to an exact result. -/
def toDouble (x : ℚ) : ℚ :=
  roundHalfEven (x / ulp x) * ulp x

/-- Conversion of a floating-point value to an integer type. -/
def truncate (x : ℚ) : ℤ :=
  if 0 ≤ x then
    ⌊x⌋
  else
    ⌈x⌉

theorem roundHalfEven_error (q : ℚ) : |(roundHalfEven q : ℚ) - q| ≤ 1 / 2 := by
  have hlo := Int.floor_le q
  have hhi := Int.lt_floor_add_one q
  unfold roundHalfEven
  rw [abs_le]
  split
  · constructor <;> linarith
  · split
    · push_cast
      constructor <;> linarith
    · split
      · constructor <;> linarith
      · push_cast
        constructor <;> linarith

theorem ulp_pos (x : ℚ) : 0 < ulp x :=
  zpow_pos (by norm_num) _

theorem ulp_le {x : ℚ} (hx : x ≠ 0) : ulp x ≤ |x| / 2 ^ 52 := by
  have hlog : (2 : ℚ) ^ Int.log 2 |x| ≤ |x| := by
    exact_mod_cast Int.zpow_log_le_self (b := 2) (by decide) (abs_pos.mpr hx)
  have hsplit : ulp x = (2 : ℚ) ^ Int.log 2 |x| / 2 ^ 52 := by
    rw [ulp, zpow_sub₀ (by norm_num)]
    norm_num
  rw [hsplit]
  exact div_le_div_of_nonneg_right hlog (by positivity)

theorem toDouble_error (x : ℚ) : |toDouble x - x| ≤ |x| / 2 ^ 53 := by
  by_cases hx : x = 0
  · subst hx
    simp [toDouble, roundHalfEven]
  · have hpos := ulp_pos x
    have hround := roundHalfEven_error (x / ulp x)
    have hscale : toDouble x - x =
        ((roundHalfEven (x / ulp x) : ℚ) - x / ulp x) * ulp x := by
      rw [toDouble, sub_mul, div_mul_cancel₀ x (ne_of_gt hpos)]
    calc
      |toDouble x - x|
          = |(roundHalfEven (x / ulp x) : ℚ) - x / ulp x| * ulp x := by
            rw [hscale, abs_mul, abs_of_pos hpos]
      _ ≤ 1 / 2 * ulp x := mul_le_mul_of_nonneg_right hround (le_of_lt hpos)
      _ ≤ 1 / 2 * (|x| / 2 ^ 52) :=
          mul_le_mul_of_nonneg_left (ulp_le hx) (by norm_num)
      _ = |x| / 2 ^ 53 := by ring

theorem truncate_of_close {z : ℚ} {c n : ℕ} (hn : 0 < n) (hdvd : ¬ n ∣ c)
    (hclose : |z - (c : ℚ) / n| < 1 / n) : truncate z = ((c / n : ℕ) : ℤ) := by
  have hnq : (0 : ℚ) < n := by exact_mod_cast hn
  have hsplit := Nat.div_add_mod c n
  have hlt := Nat.mod_lt c hn
  have hrem : 1 ≤ c % n := by
    have hne : c % n ≠ 0 := fun h => hdvd (Nat.dvd_of_mod_eq_zero h)
    omega
  have hquot : (c : ℚ) / n = ((c / n : ℕ) : ℚ) + ((c % n : ℕ) : ℚ) / n := by
    rw [div_eq_iff (ne_of_gt hnq), add_mul, div_mul_cancel₀ _ (ne_of_gt hnq)]
    exact_mod_cast (by rw [Nat.mul_comm]; exact hsplit.symm)
  have hlow : (1 : ℚ) / n ≤ ((c % n : ℕ) : ℚ) / n := by
    apply div_le_div_of_nonneg_right _ (le_of_lt hnq)
    exact_mod_cast hrem
  have hhigh : ((c % n : ℕ) : ℚ) / n + 1 / n ≤ 1 := by
    rw [← add_div, div_le_one hnq]
    exact_mod_cast hlt
  rw [hquot, abs_lt] at hclose
  have hlower : ((c / n : ℕ) : ℚ) ≤ z := by linarith [hclose.left]
  have hupper : z < ((c / n : ℕ) : ℚ) + 1 := by linarith [hclose.right]
  have hnonneg : (0 : ℚ) ≤ z := le_trans (Nat.cast_nonneg _) hlower
  rw [truncate, if_pos hnonneg, Int.floor_eq_iff]
  exact ⟨by exact_mod_cast hlower, by exact_mod_cast hupper⟩

theorem toDouble_recip_mul_close {c n : ℕ} (hn : 0 < n) (hc : c < 2 ^ 51) :
    |toDouble (toDouble (1 / n) * c) - (c : ℚ) / n| < 1 / n := by
  have hnq : (0 : ℚ) < n := by exact_mod_cast hn
  have hcq : (c : ℚ) < 2 ^ 51 := by exact_mod_cast hc
  have hc0 : (0 : ℚ) ≤ c := Nat.cast_nonneg c
  have hrecip : (0 : ℚ) < 1 / n := one_div_pos.mpr hnq
  generalize hr : (1 : ℚ) / n = r at hrecip
  have hcr : (c : ℚ) / n = c * r := by
    rw [← hr]
    ring
  have h1 := toDouble_error r
  rw [abs_of_pos hrecip] at h1
  generalize toDouble r = d at h1 ⊢
  have h2 := toDouble_error (d * c)
  rw [hcr]
  rw [abs_le] at h1
  have hd : |d * c| ≤ 2 * (c * r) := by
    rw [abs_le]
    constructor <;> nlinarith
  have hprod : |d * c - c * r| ≤ c * r / 2 ^ 53 := by
    rw [abs_le]
    constructor <;> nlinarith
  have htotal : |toDouble (d * c) - c * r| ≤ 3 * (c * r) / 2 ^ 53 := by
    calc
      |toDouble (d * c) - c * r|
          ≤ |toDouble (d * c) - d * c| + |d * c - c * r| :=
            abs_sub_le _ _ _
      _ ≤ |d * c| / 2 ^ 53 + c * r / 2 ^ 53 := add_le_add h2 hprod
      _ ≤ 2 * (c * r) / 2 ^ 53 + c * r / 2 ^ 53 := by
          gcongr
      _ = 3 * (c * r) / 2 ^ 53 := by ring
  have hsmall : 3 * ((c : ℚ) * r) / 2 ^ 53 < r := by
    rw [div_lt_iff₀ (by positivity)]
    nlinarith
  exact lt_of_le_of_lt htotal hsmall

end Foundation
end BoxTrials
