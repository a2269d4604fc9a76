import DhcpLeases.Proofs.Number.HalfEven
import Mathlib.Algebra.Order.Field.Power
import Mathlib.Tactic.Positivity

namespace DhcpLeases.Number.Binary64

def value (x : Binary64) : ℚ :=
  x.significand * 2 ^ x.exponent

/-- The double nearest to a positive rational number: the exponent brings the number to 53 bits before the
point, and these are the nearest ones. -/
structure Rounds (q : ℚ) (x : Binary64) : Prop where
  ge : 2 ^ 52 ≤ q / 2 ^ x.exponent
  lt : q / 2 ^ x.exponent < 2 ^ 53
  nearest : IsNearestEven x.significand (q / 2 ^ x.exponent)

variable {num den num' den' n : Nat} {q : ℚ} {x y x' y' : Binary64}

theorem scaled_pos (num : Nat) (hden : 0 < den) (e : ℤ) : 0 < (scaled num den e).2 := by
  unfold scaled
  split
  · exact hden
  · exact Nat.mul_pos hden (Nat.pow_pos two_pos)

theorem scaled_div (num den : Nat) (e : ℤ) :
    ((scaled num den e).1 : ℚ) / (scaled num den e).2 = num / den / 2 ^ e := by
  unfold scaled
  split
  · next hneg =>
    obtain ⟨k, rfl⟩ : ∃ k : ℕ, e = -k := ⟨(-e).toNat, by omega⟩
    rw [neg_neg, Int.toNat_natCast, Nat.pow_eq, zpow_neg, zpow_natCast, div_inv_eq_mul]
    push_cast
    ring
  · next hnonneg =>
    obtain ⟨k, rfl⟩ : ∃ k : ℕ, e = k := ⟨e.toNat, by omega⟩
    rw [Int.toNat_natCast, Nat.pow_eq, zpow_natCast, div_div]
    push_cast
    rfl

theorem toRatio_pos (x : Binary64) : 0 < x.toRatio.2 :=
  scaled_pos _ one_pos _

theorem toRatio_div (x : Binary64) : (x.toRatio.1 : ℚ) / x.toRatio.2 = x.value := by
  rw [toRatio, scaled_div, Nat.cast_one, div_one, zpow_neg, div_inv_eq_mul, value]

theorem two_zpow_pos (e : ℤ) : (0 : ℚ) < 2 ^ e :=
  zpow_pos two_pos e

/-- The logarithms place a quotient within a factor of two. -/
theorem quotient_bounds (hnum : 0 < num) (hden : 0 < den) :
    2 ^ 52 ≤ (num / den : ℚ) / 2 ^ ((num.log2 : ℤ) - den.log2 - 53) ∧
      (num / den : ℚ) / 2 ^ ((num.log2 : ℤ) - den.log2 - 53) < 2 ^ 54 := by
  have hnumGe : (2 : ℚ) ^ num.log2 ≤ num := by exact_mod_cast Nat.log2_self_le hnum.ne'
  have hnumLt : (num : ℚ) < 2 ^ (num.log2 + 1) := by exact_mod_cast Nat.lt_log2_self
  have hdenGe : (2 : ℚ) ^ den.log2 ≤ den := by exact_mod_cast Nat.log2_self_le hden.ne'
  have hdenLt : (den : ℚ) < 2 ^ (den.log2 + 1) := by exact_mod_cast Nat.lt_log2_self
  have hden' : (0 : ℚ) < den := by exact_mod_cast hden
  have hscale : (2 : ℚ) ^ ((num.log2 : ℤ) - den.log2 - 53) = 2 ^ num.log2 / 2 ^ den.log2 / 2 ^ 53 := by
    rw [zpow_sub₀ two_ne_zero, zpow_sub₀ two_ne_zero, zpow_natCast, zpow_natCast]
    rfl
  rw [le_div_iff₀ (two_zpow_pos _), le_div_iff₀ hden', div_lt_iff₀ (two_zpow_pos _),
    div_lt_iff₀ hden', hscale]
  constructor
  · calc (2 : ℚ) ^ 52 * (2 ^ num.log2 / 2 ^ den.log2 / 2 ^ 53) * den
        ≤ 2 ^ 52 * (2 ^ num.log2 / 2 ^ den.log2 / 2 ^ 53) * 2 ^ (den.log2 + 1) := by gcongr
      _ = 2 ^ num.log2 := by field_simp; ring
      _ ≤ num := hnumGe
  · calc (num : ℚ) < 2 ^ (num.log2 + 1) := hnumLt
      _ = 2 ^ 54 * (2 ^ num.log2 / 2 ^ den.log2 / 2 ^ 53) * 2 ^ den.log2 := by field_simp; ring
      _ ≤ 2 ^ 54 * (2 ^ num.log2 / 2 ^ den.log2 / 2 ^ 53) * den := by gcongr

theorem rounds_ofRatio (hnum : 0 < num) (hden : 0 < den) :
    Rounds (num / den) (ofRatio num den) := by
  obtain ⟨hge, hlt⟩ := quotient_bounds hnum hden
  rw [ofRatio, if_neg hnum.ne']
  generalize (num.log2 : ℤ) - den.log2 - 53 = low at hge hlt ⊢
  have hnearest (e : ℤ) : IsNearestEven (roundHalfEven (scaled num den e).1 (scaled num den e).2)
      (num / den / 2 ^ e) := by
    rw [← scaled_div]
    exact isNearestEven_roundHalfEven _ (scaled_pos num hden e)
  have htest : 0x20000000000000 ≤ (scaled num den low).1 / (scaled num den low).2 ↔
      2 ^ 53 ≤ (num / den : ℚ) / 2 ^ low := by
    have hpos := scaled_pos num hden low
    rw [← scaled_div, Nat.le_div_iff_mul_le hpos, le_div_iff₀ (by exact_mod_cast hpos)]
    norm_cast
  have hhalf : (num / den : ℚ) / 2 ^ (low + 1) = num / den / 2 ^ low / 2 := by
    rw [zpow_add_one₀ two_ne_zero, div_div _ _ (2 : ℚ)]
  by_cases hwide : 2 ^ 53 ≤ (num / den : ℚ) / 2 ^ low
  · simp only [if_pos (htest.2 hwide)]
    constructor
    · rw [hhalf]
      linarith
    · rw [hhalf]
      linarith
    · exact hnearest _
  · simp only [if_neg (mt htest.1 hwide)]
    exact ⟨hge, lt_of_not_ge hwide, hnearest _⟩

theorem Rounds.pos (h : Rounds q x) : 0 < q := by
  have hge := (le_div_iff₀ (two_zpow_pos _)).1 h.ge
  have hpos := two_zpow_pos x.exponent
  nlinarith

/-- A greater exponent would leave fewer than 53 bits. -/
theorem exponent_le {e f : ℤ} (hlt : q / 2 ^ e < 2 ^ 53) (hge : 2 ^ 52 ≤ q / 2 ^ f) : f ≤ e := by
  by_contra hgreater
  have hscale : (2 : ℚ) ^ (e + 1) ≤ 2 ^ f := zpow_le_zpow_right₀ one_le_two (by omega)
  rw [div_lt_iff₀ (two_zpow_pos _)] at hlt
  rw [le_div_iff₀ (two_zpow_pos _)] at hge
  rw [zpow_add_one₀ two_ne_zero] at hscale
  nlinarith

theorem Rounds.exponent_eq (h : Rounds q x) {e : ℤ} (hge : 2 ^ 52 ≤ q / 2 ^ e)
    (hlt : q / 2 ^ e < 2 ^ 53) : x.exponent = e :=
  le_antisymm (exponent_le hlt h.ge) (exponent_le h.lt hge)

theorem Rounds.unique (hx : Rounds q x) (hy : Rounds q y) : x = y := by
  have hexponent := hy.exponent_eq hx.ge hx.lt
  have hnearest := hy.nearest
  rw [hexponent] at hnearest
  have hsignificand := hx.nearest.unique hnearest
  cases x
  cases y
  cases hexponent
  cases hsignificand
  rfl

theorem ofRatio_congr (hden : 0 < den) (hden' : 0 < den')
    (h : (num / den : ℚ) = num' / den') : ofRatio num den = ofRatio num' den' := by
  have hpos : (0 : ℚ) < den := by exact_mod_cast hden
  have hpos' : (0 : ℚ) < den' := by exact_mod_cast hden'
  have hzero : num = 0 ↔ num' = 0 := by
    rw [div_eq_div_iff hpos.ne' hpos'.ne'] at h
    constructor
    · rintro rfl
      simpa [hpos.ne'] using h
    · rintro rfl
      simpa [hpos'.ne'] using h
  by_cases hnum : num = 0
  · rw [hnum, hzero.1 hnum]
    rfl
  · have hrounds := rounds_ofRatio (Nat.pos_of_ne_zero hnum) hden
    rw [h] at hrounds
    exact hrounds.unique (rounds_ofRatio (Nat.pos_of_ne_zero (mt hzero.2 hnum)) hden')

theorem Rounds.error (h : Rounds q x) : |x.value - q| ≤ q / 2 ^ 53 := by
  have hpos := two_zpow_pos x.exponent
  have hge := (le_div_iff₀ hpos).1 h.ge
  have hscaled : x.value - q = -(q / 2 ^ x.exponent - x.significand) * 2 ^ x.exponent := by
    rw [value, neg_sub, sub_mul, div_mul_cancel₀ _ hpos.ne']
  calc |x.value - q| = |q / 2 ^ x.exponent - x.significand| * 2 ^ x.exponent := by
        rw [hscaled, abs_mul, abs_neg, abs_of_pos hpos]
    _ ≤ 1 / 2 * 2 ^ x.exponent := by gcongr; exact h.nearest.le_half
    _ ≤ q / 2 ^ 53 := by linarith

theorem Rounds.value_pos (h : Rounds q x) : 0 < x.value := by
  have hpos := h.pos
  have herror := (abs_le.1 h.error).1
  linarith

/-- A rounded quotient is the quotient up to a factor that differs from one by at most 2^-53. -/
theorem exists_factor (num : Nat) (hden : 0 < den) :
    ∃ f : ℚ, |f - 1| ≤ 1 / 2 ^ 53 ∧ (ofRatio num den).value = num / den * f := by
  rcases Nat.eq_zero_or_pos num with rfl | hnum
  · refine ⟨1, by norm_num, ?_⟩
    have hvalue : (ofRatio 0 den).value = 0 := by simp [ofRatio, value]
    rw [hvalue, Nat.cast_zero, zero_div, zero_mul]
  · have hrounds := rounds_ofRatio hnum hden
    have hpos := hrounds.pos
    refine ⟨(ofRatio num den).value / (num / den), ?_, (mul_div_cancel₀ _ hpos.ne').symm⟩
    rw [div_sub_one hpos.ne', abs_div, abs_of_pos hpos, div_le_iff₀ hpos]
    linarith [hrounds.error]

theorem div_zpow_neg (q : ℚ) (k : ℕ) : q / 2 ^ (-(k : ℤ)) = q * 2 ^ k := by
  rw [zpow_neg, zpow_natCast, div_inv_eq_mul]

theorem isNearestEven_natCast (n : Nat) : IsNearestEven n (n : ℚ) := by
  rw [isNearestEven_iff, sub_self, abs_zero]
  norm_num

theorem value_ofNat (h : n < 2 ^ 53) : (ofNat n).value = n := by
  rcases Nat.eq_zero_or_pos n with rfl | hpos
  · simp [ofNat, ofRatio, value]
  have hrounds : Rounds n (ofNat n) := by
    simpa [ofNat] using rounds_ofRatio hpos one_pos
  have hexponent : (ofNat n).exponent ≤ 0 := by
    by_contra hlarge
    have hscale : (2 : ℚ) ^ (1 : ℤ) ≤ 2 ^ (ofNat n).exponent :=
      zpow_le_zpow_right₀ one_le_two (by omega)
    have hge := (le_div_iff₀ (two_zpow_pos _)).1 hrounds.ge
    have hlt : (n : ℚ) < 2 ^ 53 := by exact_mod_cast h
    rw [zpow_one] at hscale
    nlinarith
  obtain ⟨k, hk⟩ : ∃ k : ℕ, (ofNat n).exponent = -k := ⟨(-(ofNat n).exponent).toNat, by omega⟩
  have hnearest := hrounds.nearest
  have hwhole : (n : ℚ) / 2 ^ (-(k : ℤ)) = (n * 2 ^ k : ℕ) := by
    rw [div_zpow_neg]
    push_cast
    rfl
  rw [hk, hwhole] at hnearest
  rw [value, hk, hnearest.unique (isNearestEven_natCast _), ← hwhole,
    div_mul_cancel₀ _ (two_zpow_pos _).ne']

theorem exists_factor_ofNat (n : Nat) :
    ∃ f : ℚ, |f - 1| ≤ 1 / 2 ^ 53 ∧ (ofNat n).value = n * f := by
  simpa [ofNat] using exists_factor n one_pos

theorem mul_ratio (x y : Binary64) :
    (((x.toRatio.1 * y.toRatio.1 : ℕ) : ℚ) / (x.toRatio.2 * y.toRatio.2 : ℕ)) =
      x.value * y.value := by
  rw [← toRatio_div, ← toRatio_div, div_mul_div_comm]
  push_cast
  rfl

theorem div_ratio (x y : Binary64) :
    (((x.toRatio.1 * y.toRatio.2 : ℕ) : ℚ) / (x.toRatio.2 * y.toRatio.1 : ℕ)) =
      x.value / y.value := by
  rw [← toRatio_div, ← toRatio_div, div_div_div_eq]
  push_cast
  rfl

theorem mul_ratio_pos (x y : Binary64) : 0 < x.toRatio.2 * y.toRatio.2 :=
  Nat.mul_pos x.toRatio_pos y.toRatio_pos

theorem numerator_pos (h : 0 < x.value) : 0 < x.toRatio.1 := by
  apply Nat.pos_of_ne_zero
  intro hzero
  rw [← toRatio_div, hzero, Nat.cast_zero, zero_div] at h
  exact lt_irrefl _ h

theorem div_ratio_pos (x : Binary64) (hy : 0 < y.value) : 0 < x.toRatio.2 * y.toRatio.1 :=
  Nat.mul_pos x.toRatio_pos (numerator_pos hy)

theorem rounds_mul (hx : 0 < x.value) (hy : 0 < y.value) : Rounds (x.value * y.value) (x.mul y) := by
  rw [← mul_ratio]
  exact rounds_ofRatio (Nat.mul_pos (numerator_pos hx) (numerator_pos hy)) (mul_ratio_pos x y)

theorem rounds_div (hx : 0 < x.value) (hy : 0 < y.value) : Rounds (x.value / y.value) (x.div y) := by
  rw [← div_ratio]
  exact rounds_ofRatio (Nat.mul_pos (numerator_pos hx) y.toRatio_pos) (div_ratio_pos x hy)

theorem exists_factor_mul (x y : Binary64) :
    ∃ f : ℚ, |f - 1| ≤ 1 / 2 ^ 53 ∧ (x.mul y).value = x.value * y.value * f := by
  rw [mul, ← mul_ratio]
  exact exists_factor _ (mul_ratio_pos x y)

theorem exists_factor_div (x : Binary64) (hy : 0 < y.value) :
    ∃ f : ℚ, |f - 1| ≤ 1 / 2 ^ 53 ∧ (x.div y).value = x.value / y.value * f := by
  rw [div, ← div_ratio]
  exact exists_factor _ (div_ratio_pos x hy)

theorem div_congr (hy : 0 < y.value) (hy' : 0 < y'.value)
    (h : x.value / y.value = x'.value / y'.value) : x.div y = x'.div y' := by
  apply ofRatio_congr (div_ratio_pos x hy) (div_ratio_pos x' hy')
  rw [div_ratio, div_ratio, h]

theorem isNearestEven_round (x : Binary64) : IsNearestEven x.round x.value := by
  rw [← toRatio_div]
  exact isNearestEven_roundHalfEven _ x.toRatio_pos

/-- A number that is off by `t` units from a double with an even significand. -/
theorem Rounds.value_eq {m : ℕ} {e : ℤ} {t : ℚ} (h : Rounds ((m + t) * 2 ^ e) x) (heven : m % 2 = 0)
    (hge : 2 ^ 52 < m) (hlt : m < 2 ^ 53) (ht : |t| < 1) : x.value = (m + drift t) * 2 ^ e := by
  have hscaled : (m + t) * 2 ^ e / 2 ^ e = m + t := mul_div_cancel_right₀ _ (two_zpow_pos e).ne'
  have hge' : (2 ^ 52 + 1 : ℚ) ≤ m := by exact_mod_cast hge
  have hlt' : (m + 1 : ℚ) ≤ 2 ^ 53 := by exact_mod_cast hlt
  obtain ⟨hlow, hhigh⟩ := abs_lt.1 ht
  have hexponent : x.exponent = e := by
    apply h.exponent_eq
    · rw [hscaled]
      linarith
    · rw [hscaled]
      linarith
  have hnearest := h.nearest
  rw [hexponent, hscaled] at hnearest
  rw [value, hexponent, hnearest.eq_add_drift (by omega) heven ht]

end DhcpLeases.Number.Binary64
