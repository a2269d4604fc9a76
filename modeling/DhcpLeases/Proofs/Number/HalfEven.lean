import DhcpLeases.Number
import Mathlib.Algebra.Order.Field.Basic
import Mathlib.Data.Rat.Cast.Order
import Mathlib.Tactic.FieldSimp
import Mathlib.Tactic.Linarith
import Mathlib.Tactic.Ring

namespace DhcpLeases.Number

/-- The whole number nearest to a rational number, the even one of two. -/
structure IsNearestEven (n : Nat) (q : ℚ) : Prop where
  nearest : ∀ k : ℤ, |q - n| ≤ |q - k|
  even : ∀ k : ℤ, k ≠ n → |q - k| = |q - n| → n % 2 = 0

variable {n m num den : Nat} {q y δ : ℚ}

theorem one_le_abs_sub {k : ℤ} (h : k ≠ n) : 1 ≤ |(k : ℚ) - n| := by
  have hint : 1 ≤ |k - (n : ℤ)| := Int.one_le_abs (sub_ne_zero.2 h)
  exact_mod_cast hint

theorem IsNearestEven.le_half (h : IsNearestEven n q) : |q - n| ≤ 1 / 2 := by
  have habove := sq_le_sq.2 (h.nearest (n + 1))
  have hbelow := sq_le_sq.2 (h.nearest (n - 1))
  push_cast at habove hbelow
  rw [abs_le]
  constructor
  · nlinarith
  · nlinarith

theorem isNearestEven_iff :
    IsNearestEven n q ↔ |q - n| ≤ 1 / 2 ∧ (|q - n| = 1 / 2 → n % 2 = 0) := by
  constructor
  · intro h
    refine ⟨h.le_half, fun htie => ?_⟩
    rcases eq_or_eq_neg_of_abs_eq htie with hd | hd
    · apply h.even (n + 1) (by omega)
      have hother : q - ((n + 1 : ℤ) : ℚ) = -(1 / 2) := by push_cast; linarith
      rw [hother, htie, abs_neg, abs_of_pos (by norm_num)]
    · apply h.even (n - 1) (by omega)
      have hother : q - ((n - 1 : ℤ) : ℚ) = 1 / 2 := by push_cast; linarith
      rw [hother, htie, abs_of_pos (by norm_num)]
  · rintro ⟨hle, heven⟩
    have hother {k : ℤ} (hk : k ≠ n) : 1 - |q - n| ≤ |q - k| := by
      have htriangle := abs_sub_le (k : ℚ) q n
      rw [abs_sub_comm (k : ℚ) q] at htriangle
      linarith [one_le_abs_sub hk]
    constructor
    · intro k
      by_cases hk : k = n
      · rw [hk, Int.cast_natCast]
      · linarith [hother hk]
    · intro k hk htie
      apply heven
      linarith [hother hk]

theorem isNearestEven_of_lt (h : |q - n| < 1 / 2) : IsNearestEven n q :=
  isNearestEven_iff.2 ⟨h.le, fun htie => absurd htie h.ne⟩

theorem IsNearestEven.unique (hn : IsNearestEven n q) (hm : IsNearestEven m q) : n = m := by
  by_contra hne
  have htriangle := abs_sub_le (n : ℚ) q m
  rw [abs_sub_comm (n : ℚ) q] at htriangle
  have hclose : |(n : ℚ) - m| ≤ 1 := by linarith [hn.le_half, hm.le_half]
  have hint : |(n : ℤ) - m| ≤ 1 := by exact_mod_cast hclose
  have hsame : |q - n| = |q - m| := le_antisymm (hn.nearest m) (hm.nearest n)
  have hneven := hn.even m (by omega) hsame.symm
  have hmeven := hm.even n (by omega) hsame
  rw [abs_le] at hint
  omega

/-- The way from an even number to the whole number nearest to what is off it by `t`. -/
def drift (t : ℚ) : ℚ :=
  if 1 / 2 < t then 1 else if t < -(1 / 2) then -1 else 0

theorem drift_of_gt {t : ℚ} (h : 1 / 2 < t) : drift t = 1 :=
  if_pos h

theorem drift_of_lt {t : ℚ} (h : t < -(1 / 2)) : drift t = -1 := by
  rw [drift, if_neg (by linarith), if_pos h]

theorem drift_of_le {t : ℚ} (h : |t| ≤ 1 / 2) : drift t = 0 := by
  obtain ⟨hlow, hhigh⟩ := abs_le.1 h
  rw [drift, if_neg (by linarith), if_neg (by linarith)]

theorem abs_drift_le (t : ℚ) : |drift t| ≤ 1 := by
  unfold drift
  split
  · norm_num
  split
  · norm_num
  · norm_num

theorem IsNearestEven.eq_add_drift {t : ℚ} (h : IsNearestEven n (m + t)) (hpos : 0 < m)
    (heven : m % 2 = 0) (ht : |t| < 1) : (n : ℚ) = m + drift t := by
  obtain ⟨hlow, hhigh⟩ := abs_lt.1 ht
  by_cases hup : 1 / 2 < t
  · have hnext : IsNearestEven (m + 1) (m + t) := by
      apply isNearestEven_of_lt
      rw [abs_lt]
      push_cast
      constructor <;> linarith
    rw [h.unique hnext, drift_of_gt hup]
    push_cast
    rfl
  by_cases hdown : t < -(1 / 2)
  · have hprevious : IsNearestEven (m - 1) (m + t) := by
      apply isNearestEven_of_lt
      rw [abs_lt, Nat.cast_sub hpos]
      push_cast
      constructor <;> linarith
    rw [h.unique hprevious, Nat.cast_sub hpos, drift_of_lt hdown]
    push_cast
    ring
  · have hsmall : |t| ≤ 1 / 2 := abs_le.2 ⟨by linarith, by linarith⟩
    have hsame : IsNearestEven m (m + t) := by
      rw [isNearestEven_iff, add_sub_cancel_left]
      exact ⟨hsmall, fun _ => heven⟩
    rw [h.unique hsame, drift_of_le hsmall, add_zero]

/-- Two numbers round alike if no half is as near to one of them as the other is. -/
theorem IsNearestEven.of_close (h : IsNearestEven n q) (hclose : |y - q| ≤ δ)
    (hhalf : ∀ k : ℤ, δ < |q - (k + 1 / 2)|) : IsNearestEven n y := by
  have hle := abs_le.1 h.le_half
  have habove := hhalf n
  have hbelow := hhalf (n - 1)
  push_cast at habove hbelow
  rw [abs_of_nonpos (by linarith)] at habove
  rw [abs_of_nonneg (by linarith)] at hbelow
  obtain ⟨hge, hle'⟩ := abs_le.1 hclose
  exact isNearestEven_of_lt (abs_lt.2 ⟨by linarith, by linarith⟩)

theorem quotient_eq_add_rest (num : Nat) (hden : 0 < den) :
    (num / den : ℚ) = (num / den : ℕ) + (num % den : ℕ) / den := by
  have hpos : (0 : ℚ) < den := by exact_mod_cast hden
  have hnum : (num : ℚ) = den * (num / den : ℕ) + (num % den : ℕ) := by
    exact_mod_cast (Nat.div_add_mod num den).symm
  rw [hnum]
  field_simp

theorem isNearestEven_roundHalfEven (num : Nat) (hden : 0 < den) :
    IsNearestEven (roundHalfEven num den) (num / den) := by
  have hpos : (0 : ℚ) < den := by exact_mod_cast hden
  have hrest : (num % den : ℕ) < (den : ℚ) := by exact_mod_cast Nat.mod_lt num hden
  rw [isNearestEven_iff, quotient_eq_add_rest num hden, roundHalfEven]
  generalize num / den = k at *
  generalize num % den = r at *
  have hle : (r : ℚ) / den ≤ 1 / 2 ↔ 2 * r ≤ den := by
    rw [div_le_div_iff₀ hpos two_pos, one_mul, mul_comm]
    exact_mod_cast Iff.rfl
  have heq : (r : ℚ) / den = 1 / 2 ↔ 2 * r = den := by
    rw [div_eq_div_iff hpos.ne' two_ne_zero, one_mul, mul_comm]
    exact_mod_cast Iff.rfl
  have hnonneg : 0 ≤ (r : ℚ) / den := by positivity
  have hlt : (r : ℚ) / den < 1 := (div_lt_one hpos).2 hrest
  split
  · next hdown =>
    rw [add_sub_cancel_left, abs_of_nonneg hnonneg, hle, heq]
    omega
  · next hup =>
    have hdistance : |(k : ℚ) + r / den - (k + 1 : ℕ)| = 1 - r / den := by
      rw [abs_of_nonpos (by push_cast; linarith)]
      push_cast
      ring
    rw [hdistance]
    constructor
    · by_contra hbelow
      have hdown : 2 * r ≤ den := hle.1 (by linarith)
      have hnot : ¬2 * r = den := fun h => hbelow (by linarith [heq.2 h])
      omega
    · intro htie
      have hhalf : 2 * r = den := heq.1 (by linarith)
      omega

end DhcpLeases.Number
