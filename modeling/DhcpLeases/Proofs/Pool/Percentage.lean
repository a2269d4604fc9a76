import DhcpLeases.Pool.Usage
import DhcpLeases.Proofs.Number.Binary64

namespace DhcpLeases

open Number Binary64

namespace PoolUsage

/-- The share of a pool in use, in percent. -/
def share (u : PoolUsage) : ℚ :=
  100 * u.active / u.size

/-- The percentage is `q`, rounded half to even, as far as 64 bits hold it. -/
def Shows (u : PoolUsage) (q : ℚ) : Prop :=
  ∃ n, IsNearestEven n q ∧ u.percentage = min n max64

def IsExact (u : PoolUsage) : Prop :=
  u.Shows u.share

end PoolUsage

variable {pool : String} {capacity active m : Nat}

theorem share_of : (PoolUsage.of pool capacity active).share = 100 * active / capacity :=
  rfl

theorem isNearestEven_share (hcapacity : 0 < capacity) :
    IsNearestEven (roundHalfEven (100 * active) capacity)
      (PoolUsage.of pool capacity active).share := by
  have hround := isNearestEven_roundHalfEven (100 * active) hcapacity
  push_cast at hround
  exact hround

theorem isExact_of_iff (hcapacity : 0 < capacity) :
    (PoolUsage.of pool capacity active).IsExact ↔
      percentage active capacity = min (roundHalfEven (100 * active) capacity) max64 := by
  constructor
  · rintro ⟨n, hn, hpercentage⟩
    rw [← hn.unique (isNearestEven_share hcapacity)]
    exact hpercentage
  · intro hpercentage
    exact ⟨_, isNearestEven_share hcapacity, hpercentage⟩

theorem value_ofNat_pos (hcapacity : 0 < capacity) : 0 < (ofNat capacity).value := by
  obtain ⟨γ, hγ, hvalue⟩ := exists_factor_ofNat capacity
  have hfactor : 0 < γ := by linarith [(abs_le.1 hγ).1]
  have hcast : (0 : ℚ) < capacity := by exact_mod_cast hcapacity
  rw [hvalue]
  positivity

/-- Four errors of 2^-53 come to less than five of them. -/
theorem abs_factor_sub_one_le {α γ ξ η : ℚ} (hα : |α - 1| ≤ 1 / 2 ^ 53) (hγ : |γ - 1| ≤ 1 / 2 ^ 53)
    (hξ : |ξ - 1| ≤ 1 / 2 ^ 53) (hη : |η - 1| ≤ 1 / 2 ^ 53) :
    |α / γ * ξ * η - 1| ≤ 5 / 2 ^ 53 := by
  rw [abs_le] at hα hγ hξ hη
  have hαpos : 0 < α := by linarith
  have hγpos : 0 < γ := by linarith
  have hξpos : 0 < ξ := by linarith
  have hηpos : 0 < η := by linarith
  have hupper : α * ξ * η ≤ (1 + 5 / 2 ^ 53) * γ :=
    calc α * ξ * η ≤ (1 + 1 / 2 ^ 53) * (1 + 1 / 2 ^ 53) * (1 + 1 / 2 ^ 53) := by
          gcongr <;> linarith
      _ ≤ (1 + 5 / 2 ^ 53) * (1 - 1 / 2 ^ 53) := by norm_num
      _ ≤ (1 + 5 / 2 ^ 53) * γ := by gcongr; linarith
  have hlower : (1 - 5 / 2 ^ 53) * γ ≤ α * ξ * η :=
    calc (1 - 5 / 2 ^ 53) * γ ≤ (1 - 5 / 2 ^ 53) * (1 + 1 / 2 ^ 53) := by gcongr; linarith
      _ ≤ (1 - 1 / 2 ^ 53) * (1 - 1 / 2 ^ 53) * (1 - 1 / 2 ^ 53) := by norm_num
      _ ≤ α * ξ * η := by gcongr <;> linarith
  have hquotient : α / γ * ξ * η = α * ξ * η / γ := by ring
  rw [hquotient, abs_le, le_sub_iff_add_le, sub_le_iff_le_add, le_div_iff₀ hγpos, div_le_iff₀ hγpos]
  constructor
  · linarith
  · linarith

/-- What is rounded at last is within five units in the 53rd place of the share. -/
theorem exists_shows_of (pool : String) (active : Nat) (hcapacity : 0 < capacity) :
    ∃ y, |y - (PoolUsage.of pool capacity active).share| ≤
        5 / 2 ^ 53 * (PoolUsage.of pool capacity active).share ∧
      (PoolUsage.of pool capacity active).Shows y := by
  let quotient := (ofNat active).div (.ofNat capacity)
  obtain ⟨α, hα, hactive⟩ := exists_factor_ofNat active
  obtain ⟨γ, hγ, hsize⟩ := exists_factor_ofNat capacity
  obtain ⟨ξ, hξ, hdiv⟩ := exists_factor_div (ofNat active) (value_ofNat_pos hcapacity)
  obtain ⟨η, hη, hmul⟩ := exists_factor_mul quotient (ofNat 100)
  have hhundred : (ofNat 100).value = 100 := value_ofNat (by decide)
  have hvalue : (quotient.mul (ofNat 100)).value =
      (PoolUsage.of pool capacity active).share * (α / γ * ξ * η) := by
    rw [hmul, hdiv, hactive, hsize, hhundred, share_of]
    ring
  have hshare : 0 ≤ (PoolUsage.of pool capacity active).share := by
    rw [share_of]
    positivity
  refine ⟨(quotient.mul (ofNat 100)).value, ?_, (quotient.mul (ofNat 100)).round,
    isNearestEven_round _, if_neg hcapacity.ne'⟩
  calc |(quotient.mul (ofNat 100)).value - (PoolUsage.of pool capacity active).share|
      = |α / γ * ξ * η - 1| * (PoolUsage.of pool capacity active).share := by
        rw [hvalue, ← mul_sub_one, abs_mul, abs_of_nonneg hshare, mul_comm]
    _ ≤ 5 / 2 ^ 53 * (PoolUsage.of pool capacity active).share := by
        gcongr
        exact abs_factor_sub_one_le hα hγ hξ hη

/-- Away from the halves the percentage is exact. -/
theorem isExact_of_far (hcapacity : 0 < capacity)
    (hfar : ∀ k : ℤ, 5 / 2 ^ 53 * (PoolUsage.of pool capacity active).share <
      |(PoolUsage.of pool capacity active).share - (k + 1 / 2)|) :
    (PoolUsage.of pool capacity active).IsExact := by
  obtain ⟨y, hy, n, hn, hpercentage⟩ := exists_shows_of pool active hcapacity
  have hrounded := (isNearestEven_share hcapacity).of_close hy hfar
  rw [hn.unique hrounded] at hpercentage
  exact ⟨_, isNearestEven_share hcapacity, hpercentage⟩

theorem le_abs_share_sub (pool : String) (hcapacity : 0 < capacity)
    (htie : ∀ m, m % 2 = 1 → 200 * active ≠ m * capacity) (k : ℤ) :
    1 / (2 * capacity) ≤ |(PoolUsage.of pool capacity active).share - (k + 1 / 2)| := by
  have hpos : (0 : ℚ) < capacity := by exact_mod_cast hcapacity
  have hne : (200 * active - (2 * k + 1) * capacity : ℤ) ≠ 0 := by
    intro hzero
    obtain ⟨m, hm⟩ : ∃ m : ℕ, 2 * k + 1 = m := by
      refine ⟨(2 * k + 1).toNat, (Int.toNat_of_nonneg ?_).symm⟩
      by_contra hnegative
      nlinarith
    rw [hm] at hzero
    exact htie m (by omega) (by exact_mod_cast sub_eq_zero.1 hzero)
  have hnumerator : 1 ≤ |200 * (active : ℚ) - (2 * k + 1) * capacity| := by
    exact_mod_cast Int.one_le_abs hne
  have hdistance : (100 * active / capacity : ℚ) - (k + 1 / 2) =
      (200 * active - (2 * k + 1) * capacity) / (2 * capacity) := by
    field_simp
    ring
  rw [share_of, hdistance, abs_div, abs_of_pos (mul_pos two_pos hpos)]
  gcongr

theorem isExact_of_no_tie (hcapacity : 0 < capacity) (hactive : 1000 * active < 2 ^ 53)
    (htie : ∀ m, m % 2 = 1 → 200 * active ≠ m * capacity) :
    (PoolUsage.of pool capacity active).IsExact := by
  have hpos : (0 : ℚ) < capacity := by exact_mod_cast hcapacity
  have hsmall : (1000 * active : ℚ) < 2 ^ 53 := by exact_mod_cast hactive
  apply isExact_of_far hcapacity
  intro k
  rw [share_of]
  calc 5 / 2 ^ 53 * (100 * active / capacity : ℚ) = 1000 * active / 2 ^ 53 / (2 * capacity) := by ring
    _ < (1 / (2 * capacity) : ℚ) := by
        gcongr
        exact (div_lt_one (by positivity)).2 hsmall
    _ ≤ |(100 * active / capacity : ℚ) - (k + 1 / 2)| :=
        le_abs_share_sub pool hcapacity htie k

/-- Pools with the same share in use have the same percentage, as long as the counts are doubles. -/
theorem percentage_congr {capacity' active' : Nat} (hcapacity : 0 < capacity) (hcapacity' : 0 < capacity')
    (hlarge : max active capacity < 2 ^ 53) (hlarge' : max active' capacity' < 2 ^ 53)
    (h : active * capacity' = active' * capacity) :
    percentage active capacity = percentage active' capacity' := by
  rw [max_lt_iff] at hlarge hlarge'
  have hpos : (0 : ℚ) < capacity := by exact_mod_cast hcapacity
  have hpos' : (0 : ℚ) < capacity' := by exact_mod_cast hcapacity'
  have hquotient : (ofNat active).value / (ofNat capacity).value =
      (ofNat active').value / (ofNat capacity').value := by
    rw [value_ofNat hlarge.1, value_ofNat hlarge.2, value_ofNat hlarge'.1, value_ofNat hlarge'.2,
      div_eq_div_iff hpos.ne' hpos'.ne']
    exact_mod_cast h
  rw [percentage, percentage, if_neg hcapacity.ne', if_neg hcapacity'.ne',
    div_congr (value_ofNat_pos hcapacity) (value_ofNat_pos hcapacity') hquotient]

theorem isExact_tie_iff (hcapacity : 0 < capacity) (hactive : 1000 * active < 2 ^ 53)
    (hodd : m % 2 = 1) (htie : 200 * active = m * capacity) :
    (PoolUsage.of pool capacity active).IsExact ↔ (PoolUsage.of pool 200 m).IsExact := by
  have hcapacityLe : capacity ≤ m * capacity := Nat.le_mul_of_pos_left _ (by omega)
  have hmLe : m ≤ m * capacity := Nat.le_mul_of_pos_right _ hcapacity
  have hpercentage : percentage active capacity = percentage m 200 :=
    percentage_congr hcapacity (by decide) (by omega) (by omega) (by rw [mul_comm, htie])
  have hshare : (PoolUsage.of pool capacity active).share = (PoolUsage.of pool 200 m).share := by
    have hpos : (0 : ℚ) < capacity := by exact_mod_cast hcapacity
    have hcast : (200 * active : ℚ) = m * capacity := by exact_mod_cast htie
    rw [share_of, share_of, div_eq_div_iff hpos.ne' (by norm_num)]
    push_cast
    linarith
  simp only [PoolUsage.IsExact, PoolUsage.Shows, hshare]
  rw [show (PoolUsage.of pool capacity active).percentage = _ from hpercentage]
  exact Iff.rfl

def tieProduct (m : Nat) : Binary64 :=
  ((ofNat m).div (ofNat 200)).mul (ofNat 100)

theorem rounds_tieQuotient (hpos : 0 < m) (hm : m < 2 ^ 53) :
    Rounds (m / 200) ((ofNat m).div (ofNat 200)) := by
  have hvalue : (ofNat m).value = m := value_ofNat hm
  have htwoHundred : (ofNat 200).value = 200 := value_ofNat (by decide)
  have hrounds := rounds_div (value_ofNat_pos hpos) (value_ofNat_pos (show 0 < 200 by decide))
  rwa [hvalue, htwoHundred] at hrounds

theorem rounds_tieProduct (hpos : 0 < m) (hm : m < 2 ^ 53) :
    Rounds (((ofNat m).div (ofNat 200)).value * 100) (tieProduct m) := by
  have hhundred : (ofNat 100).value = 100 := value_ofNat (by decide)
  have hrounds := rounds_mul (rounds_tieQuotient hpos hm).value_pos
    (value_ofNat_pos (show 0 < 100 by decide))
  rwa [hhundred] at hrounds

/-- The quotient with `k` bits behind the point, which is no tie, since 200 and the scaled number are
multiples of eight. -/
theorem value_tieQuotient {k : ℕ} (hpos : 0 < m) (hm : m < 2 ^ 53) (hk : 3 ≤ k)
    (hge : 200 * 2 ^ 52 ≤ m * 2 ^ k) (hlt : m * 2 ^ k < 200 * 2 ^ 53) :
    ((ofNat m).div (ofNat 200)).value * 100 = m / 2 - (Int.bmod (m * 2 ^ k) 200 : ℤ) / 2 / 2 ^ k := by
  have hrounds := rounds_tieQuotient hpos hm
  generalize (ofNat m).div (ofNat 200) = x at hrounds
  have hge' : (200 * 2 ^ 52 : ℚ) ≤ m * 2 ^ k := by exact_mod_cast hge
  have hlt' : (m * 2 ^ k : ℚ) < 200 * 2 ^ 53 := by exact_mod_cast hlt
  have hexponent : x.exponent = -(k : ℤ) := by
    apply hrounds.exponent_eq
    · rw [div_zpow_neg]
      linarith
    · rw [div_zpow_neg]
      linarith
  have hhalf := hrounds.nearest.le_half
  rw [hexponent, div_zpow_neg] at hhalf
  have hrest : |(m * 2 ^ k : ℤ) - 200 * x.significand| ≤ 100 := by
    have hscaled : ((m * 2 ^ k : ℤ) - 200 * x.significand : ℚ) =
        200 * (m / 200 * 2 ^ k - x.significand) := by
      push_cast
      ring
    have hcast : |((m * 2 ^ k : ℤ) - 200 * x.significand : ℚ)| ≤ 100 := by
      rw [hscaled, abs_mul, abs_of_pos (by norm_num)]
      linarith
    exact_mod_cast hcast
  have hbmod : Int.bmod (m * 2 ^ k) 200 = m * 2 ^ k - 200 * x.significand := by
    obtain ⟨i, rfl⟩ := Nat.exists_eq_add_of_le hk
    have height : (m * 2 ^ (3 + i) : ℤ) = 8 * (m * 2 ^ i) := by ring
    obtain ⟨hlow, hhigh⟩ := abs_le.1 hrest
    rw [Int.bmod_def]
    generalize (m * 2 ^ (3 + i) : ℤ) = scaled at *
    generalize (m * 2 ^ i : ℤ) = eighth at *
    split <;> omega
  have hpow : (2 : ℚ) ^ k ≠ 0 := by positivity
  rw [hbmod, value, hexponent, zpow_neg, zpow_natCast]
  push_cast
  field_simp
  ring

theorem value_tieProduct {j : ℕ} {t : ℚ} (hpos : 0 < m) (hm : m < 2 ^ 53)
    (hge : 2 ^ 51 < m * 2 ^ j) (hlt : m * 2 ^ j < 2 ^ 52) (ht : |t| < 1)
    (hvalue : ((ofNat m).div (ofNat 200)).value * 100 = m / 2 + t / 2 ^ (j + 2)) :
    (tieProduct m).value = m / 2 + drift t / 2 ^ (j + 2) := by
  have hrounds := rounds_tieProduct hpos hm
  have hunits (s : ℚ) : (m / 2 + s / 2 ^ (j + 2) : ℚ) =
      ((2 * (m * 2 ^ j) : ℕ) + s) * 2 ^ (-(j + 2 : ℕ) : ℤ) := by
    rw [zpow_neg, zpow_natCast]
    push_cast
    field_simp
    ring
  rw [hvalue, hunits] at hrounds
  rw [hunits]
  exact hrounds.value_eq (Nat.mul_mod_right _ _) (by omega) (by omega) ht

theorem isExact_iff_of_value {s : ℚ} (hodd : m % 2 = 1) (hm : m < 2 ^ 53)
    (hvalue : (tieProduct m).value = m / 2 + s) (hs : |s| < 1 / 2) :
    (PoolUsage.of pool 200 m).IsExact ↔ s = 0 ∨ 0 < s ∧ m % 4 = 3 ∨ s < 0 ∧ m % 4 = 1 := by
  obtain ⟨c, rfl⟩ : ∃ c, m = 2 * c + 1 := ⟨m / 2, by omega⟩
  have hround := isNearestEven_round (tieProduct (2 * c + 1))
  have hpercentage : percentage (2 * c + 1) 200 = min (tieProduct (2 * c + 1)).round max64 :=
    if_neg (by decide)
  have heven : roundHalfEven (100 * (2 * c + 1)) 200 = if c % 2 = 0 then c else c + 1 := by
    have hquotient : 100 * (2 * c + 1) / 200 = c := by omega
    have hrest : 100 * (2 * c + 1) % 200 = 100 := by omega
    simp [roundHalfEven, hquotient, hrest]
  rw [isExact_of_iff (by decide), hpercentage, heven]
  rw [hvalue] at hround
  obtain ⟨hlow, hhigh⟩ := abs_lt.1 hs
  unfold max64
  rcases lt_trichotomy s 0 with hneg | hzero | hpos
  · have hdown : (tieProduct (2 * c + 1)).round = c := by
      apply hround.unique (isNearestEven_of_lt _)
      rw [abs_lt]
      push_cast
      constructor <;> linarith
    rw [hdown]
    simp only [hneg.ne, hneg, hneg.not_gt, false_and, true_and, false_or]
    split <;> omega
  · have hexact : (tieProduct (2 * c + 1)).round = if c % 2 = 0 then c else c + 1 := by
      have htie := isNearestEven_roundHalfEven (100 * (2 * c + 1)) (show 0 < 200 by decide)
      have hhalf : ((100 * (2 * c + 1) : ℕ) / (200 : ℕ) : ℚ) = (2 * c + 1 : ℕ) / 2 + s := by
        rw [hzero]
        push_cast
        ring
      rw [hhalf, heven] at htie
      exact hround.unique htie
    rw [hexact]
    exact iff_of_true rfl (.inl hzero)
  · have hup : (tieProduct (2 * c + 1)).round = c + 1 := by
      apply hround.unique (isNearestEven_of_lt _)
      rw [abs_lt]
      push_cast
      constructor <;> linarith
    rw [hup]
    simp only [hpos.ne', hpos, hpos.not_gt, false_and, true_and, false_or, or_false]
    split <;> omega

theorem isExact_iff_of_drift {j : ℕ} {t : ℚ} (hodd : m % 2 = 1) (hm : m < 2 ^ 53)
    (hge : 2 ^ 51 < m * 2 ^ j) (hlt : m * 2 ^ j < 2 ^ 52) (ht : |t| < 1)
    (hvalue : ((ofNat m).div (ofNat 200)).value * 100 = m / 2 + t / 2 ^ (j + 2)) :
    (PoolUsage.of pool 200 m).IsExact ↔
      drift t = 0 ∨ 0 < drift t ∧ m % 4 = 3 ∨ drift t < 0 ∧ m % 4 = 1 := by
  have hunit : (0 : ℚ) < 2 ^ (j + 2) := by positivity
  have hsmall : |drift t / 2 ^ (j + 2)| < 1 / 2 := by
    have hfour : (2 : ℚ) ^ 2 ≤ 2 ^ (j + 2) := pow_le_pow_right₀ one_le_two (Nat.le_add_left 2 j)
    rw [abs_div, abs_of_pos hunit, div_lt_iff₀ hunit]
    linarith [abs_drift_le t]
  rw [isExact_iff_of_value hodd hm (value_tieProduct (by omega) hm hge hlt ht hvalue) hsmall,
    div_eq_zero_iff, or_iff_left hunit.ne', div_pos_iff_of_pos_right hunit, div_lt_iff₀ hunit, zero_mul]

/-- A tie of a pool with 200 addresses that the quotient in double precision misses. The quotient is off by
what `m * 2 ^ (59 - log2 m)` leaves of 200. Where the product has the next power of two, from 25 / 16 of the
last one on, this is less than half a unit of the product up to 64. -/
def MissedTie (m : Nat) : Prop :=
  25 * 2 ^ m.log2 ≤ 16 * m ∧
    (m % 4 = 1 ∧ Int.bmod (m * 2 ^ (59 - m.log2)) 200 < -64 ∨
      m % 4 = 3 ∧ 64 < Int.bmod (m * 2 ^ (59 - m.log2)) 200)

instance (m : Nat) : Decidable (MissedTie m) :=
  inferInstanceAs (Decidable (_ ∧ _))

theorem abs_bmod_le (n : ℤ) : |(Int.bmod n 200 : ℚ)| ≤ 100 := by
  have hlow := Int.le_bmod (x := n) (m := 200) (by decide)
  have hhigh := Int.bmod_lt (x := n) (m := 200) (by decide)
  exact_mod_cast abs_le.2 (show -100 ≤ Int.bmod n 200 ∧ Int.bmod n 200 ≤ 100 by omega)

theorem isExact_iff_of_wide {j : ℕ} (hodd : m % 2 = 1) (hm : m < 2 ^ 53)
    (hwide : 25 * 2 ^ 51 ≤ 16 * (m * 2 ^ j)) (hlt : m * 2 ^ j < 2 ^ 52) :
    (PoolUsage.of pool 200 m).IsExact ↔ ¬(m % 4 = 1 ∧ Int.bmod (m * 2 ^ (j + 8)) 200 < -64 ∨
      m % 4 = 3 ∧ 64 < Int.bmod (m * 2 ^ (j + 8)) 200) := by
  have hscaled : m * 2 ^ (j + 8) = 256 * (m * 2 ^ j) := by ring
  have hquotient := value_tieQuotient (m := m) (k := j + 8) (by omega) hm (by omega) (by omega) (by omega)
  obtain ⟨hlow, hhigh⟩ := abs_le.1 (abs_bmod_le (m * 2 ^ (j + 8)))
  generalize Int.bmod (m * 2 ^ (j + 8)) 200 = r at hquotient hlow hhigh ⊢
  have hvalue : ((ofNat m).div (ofNat 200)).value * 100 = m / 2 + (-r / 128 : ℚ) / 2 ^ (j + 2) := by
    rw [hquotient]
    field_simp
    ring
  have hsmall : |(-r / 128 : ℚ)| < 1 := abs_lt.2 ⟨by linarith, by linarith⟩
  rw [isExact_iff_of_drift hodd hm (by omega) hlt hsmall hvalue]
  rcases lt_or_ge r (-64) with hneg | hneg
  · have hneg' : (r : ℚ) ≤ -65 := by exact_mod_cast Int.le_of_lt_add_one (show r < -65 + 1 from hneg)
    rw [drift_of_gt (by linarith)]
    norm_num
    omega
  rcases lt_or_ge 64 r with hpos | hpos
  · have hpos' : (65 : ℚ) ≤ r := by exact_mod_cast hpos
    rw [drift_of_lt (by linarith)]
    norm_num
    omega
  · have hneg' : (-64 : ℚ) ≤ r := by exact_mod_cast hneg
    have hpos' : (r : ℚ) ≤ 64 := by exact_mod_cast hpos
    rw [drift_of_le (abs_le.2 ⟨by linarith, by linarith⟩)]
    exact iff_of_true (.inl rfl) (by omega)

theorem isExact_of_narrow {j : ℕ} (hodd : m % 2 = 1) (hm : m < 2 ^ 53) (hge : 2 ^ 51 < m * 2 ^ j)
    (hnarrow : 16 * (m * 2 ^ j) < 25 * 2 ^ 51) : (PoolUsage.of pool 200 m).IsExact := by
  have hscaled : m * 2 ^ (j + 9) = 512 * (m * 2 ^ j) := by ring
  have hquotient := value_tieQuotient (m := m) (k := j + 9) (by omega) hm (by omega) (by omega) (by omega)
  obtain ⟨hlow, hhigh⟩ := abs_le.1 (abs_bmod_le (m * 2 ^ (j + 9)))
  generalize Int.bmod (m * 2 ^ (j + 9)) 200 = r at hquotient hlow hhigh
  have hvalue : ((ofNat m).div (ofNat 200)).value * 100 = m / 2 + (-r / 256 : ℚ) / 2 ^ (j + 2) := by
    rw [hquotient]
    field_simp
    ring
  have hsmall : |(-r / 256 : ℚ)| ≤ 1 / 2 := abs_le.2 ⟨by linarith, by linarith⟩
  rw [isExact_iff_of_drift hodd hm hge (by omega) (by linarith) hvalue, drift_of_le hsmall]
  exact .inl rfl

theorem isExact_twoHundred_iff (hodd : m % 2 = 1) (hm : m < 2 ^ 51) :
    (PoolUsage.of pool 200 m).IsExact ↔ ¬MissedTie m := by
  by_cases hone : m = 1
  · subst hone
    rw [isExact_of_iff (by decide)]
    decide +kernel
  obtain ⟨j, hj⟩ : ∃ j, m.log2 + j = 51 := by
    have hlog : m.log2 < 51 := (Nat.log2_lt (by omega)).2 hm
    exact ⟨51 - m.log2, by omega⟩
  have hunits : 2 ^ m.log2 * 2 ^ j = 2 ^ 51 := by rw [← pow_add, hj]
  have hpow : 0 < 2 ^ j := Nat.pow_pos two_pos
  have hgreater : 2 ^ m.log2 < m := by
    apply lt_of_le_of_ne (Nat.log2_self_le (by omega))
    intro hpower
    cases hlog : m.log2 with
    | zero => rw [hlog] at hpower; omega
    | succ l => rw [hlog, pow_succ] at hpower; omega
  have hge : 2 ^ 51 < m * 2 ^ j := hunits ▸ Nat.mul_lt_mul_of_pos_right hgreater hpow
  have hlt : m * 2 ^ j < 2 ^ 52 := by
    have hnext := Nat.mul_lt_mul_of_pos_right (Nat.lt_log2_self (n := m)) hpow
    rw [pow_succ, Nat.mul_right_comm] at hnext
    omega
  have hwide : 25 * 2 ^ m.log2 ≤ 16 * m ↔ 25 * 2 ^ 51 ≤ 16 * (m * 2 ^ j) := by
    rw [← Nat.mul_le_mul_right_iff hpow, mul_assoc, hunits, mul_assoc]
  have hexponent : 59 - m.log2 = j + 8 := by omega
  rw [MissedTie, hwide, hexponent]
  by_cases hbroad : 25 * 2 ^ 51 ≤ 16 * (m * 2 ^ j)
  · rw [isExact_iff_of_wide hodd (by omega) hbroad hlt, and_iff_right hbroad]
  · exact iff_of_true (isExact_of_narrow hodd (by omega) hge (by omega)) fun h => hbroad h.1

example : ¬(PoolUsage.of pool 200 203).IsExact := by
  rw [isExact_twoHundred_iff (by decide) (by decide)]
  decide +kernel

theorem not_missedTie_iff (hle : m ≤ 200) (hodd : m % 2 = 1) : ¬MissedTie m ↔ m ≠ 109 ∧ m ≠ 115 := by
  have htable : ∀ n ≤ 200, n % 2 = 1 → (¬MissedTie n ↔ n ≠ 109 ∧ n ≠ 115) := by
    decide +kernel
  exact htable m hle hodd

theorem isExact_iff_ties (hcapacity : 0 < capacity) (hactive : 1000 * active < 2 ^ 53) :
    (PoolUsage.of pool capacity active).IsExact ↔
      ∀ m, m % 2 = 1 → 200 * active = m * capacity → (PoolUsage.of pool 200 m).IsExact := by
  constructor
  · intro hexact m hodd htie
    exact (isExact_tie_iff hcapacity hactive hodd htie).1 hexact
  · intro hexact
    by_cases htie : ∃ m, m % 2 = 1 ∧ 200 * active = m * capacity
    · obtain ⟨m, hodd, htie⟩ := htie
      exact (isExact_tie_iff hcapacity hactive hodd htie).2 (hexact m hodd htie)
    · exact isExact_of_no_tie hcapacity hactive fun m hodd h => htie ⟨m, hodd, h⟩

theorem isExact_iff_not_missedTie (hcapacity : 0 < capacity) (hactive : 1000 * active < 2 ^ 53) :
    (PoolUsage.of pool capacity active).IsExact ↔
      ∀ m, m % 2 = 1 → 200 * active = m * capacity → ¬MissedTie m := by
  have hsmall {m : Nat} (htie : 200 * active = m * capacity) : m < 2 ^ 51 := by
    have hle : m ≤ m * capacity := Nat.le_mul_of_pos_right _ hcapacity
    omega
  rw [isExact_iff_ties hcapacity hactive]
  constructor
  · intro hexact m hodd htie
    exact (isExact_twoHundred_iff hodd (hsmall htie)).1 (hexact m hodd htie)
  · intro hmissed m hodd htie
    exact (isExact_twoHundred_iff hodd (hsmall htie)).2 (hmissed m hodd htie)

theorem isExact_iff_of_le (hcapacity : 0 < capacity) (hactive : 1000 * active < 2 ^ 53)
    (hle : active ≤ capacity) :
    (PoolUsage.of pool capacity active).IsExact ↔
      200 * active ≠ 109 * capacity ∧ 200 * active ≠ 115 * capacity := by
  rw [isExact_iff_not_missedTie hcapacity hactive]
  constructor
  · intro hexact
    constructor
    · intro htie
      exact ((not_missedTie_iff (by decide) (by decide)).1 (hexact 109 (by decide) htie)).1 rfl
    · intro htie
      exact ((not_missedTie_iff (by decide) (by decide)).1 (hexact 115 (by decide) htie)).2 rfl
  · rintro ⟨hfirst, hsecond⟩ m hodd htie
    have hm : m ≤ 200 := Nat.le_of_mul_le_mul_right (by omega) hcapacity
    rw [not_missedTie_iff hm hodd]
    constructor
    · rintro rfl
      exact hfirst htie
    · rintro rfl
      exact hsecond htie

/-- The number that is rounded is within the errors of the share, and away from the halves this makes the
percentage exact. Up to 2^53 / 1000 addresses in use it is exact but for ties that the quotient misses, with
as many addresses as with 200; unless more are in use than there are, these are 54.5 and 57.5 percent. -/
theorem isExact_except_ties (hcapacity : 0 < capacity) :
    (∃ y, |y - (PoolUsage.of pool capacity active).share| ≤
        5 / 2 ^ 53 * (PoolUsage.of pool capacity active).share ∧
      (PoolUsage.of pool capacity active).Shows y) ∧
    ((∀ k : ℤ, 5 / 2 ^ 53 * (PoolUsage.of pool capacity active).share <
        |(PoolUsage.of pool capacity active).share - (k + 1 / 2)|) →
      (PoolUsage.of pool capacity active).IsExact) ∧
    (1000 * active < 2 ^ 53 →
      ((PoolUsage.of pool capacity active).IsExact ↔
        ∀ m, m % 2 = 1 → 200 * active = m * capacity → (PoolUsage.of pool 200 m).IsExact) ∧
      ((PoolUsage.of pool capacity active).IsExact ↔
        ∀ m, m % 2 = 1 → 200 * active = m * capacity → ¬MissedTie m) ∧
      (active ≤ capacity →
        ((PoolUsage.of pool capacity active).IsExact ↔
          200 * active ≠ 109 * capacity ∧ 200 * active ≠ 115 * capacity))) := by
  refine ⟨exists_shows_of pool active hcapacity, isExact_of_far hcapacity,
    fun hactive => ⟨?ties, ?missed, ?notOvercommitted⟩⟩
  case ties => exact isExact_iff_ties hcapacity hactive
  case missed => exact isExact_iff_not_missedTie hcapacity hactive
  case notOvercommitted => exact isExact_iff_of_le hcapacity hactive

theorem isExact_except_ties_samples :
    (∀ k : ℤ, 5 / 2 ^ 53 * (PoolUsage.of "LAN" 12 3).share <
        |(PoolUsage.of "LAN" 12 3).share - (k + 1 / 2)|) ∧
      (PoolUsage.of "LAN" 12 3).IsExact ∧
      1000 * 3 < 2 ^ 53 ∧ 3 ≤ 8 ∧ (PoolUsage.of "LAN" 8 3).IsExact := by
  have hfar : ∀ k : ℤ, 5 / 2 ^ 53 * (PoolUsage.of "LAN" 12 3).share <
      |(PoolUsage.of "LAN" 12 3).share - (k + 1 / 2)| := by
    intro k
    rw [share_of, lt_abs]
    rcases le_or_gt k 24 with hk | hk
    · have hcast : (k : ℚ) ≤ 24 := by exact_mod_cast hk
      left
      norm_num
      linarith
    · have hcast : (25 : ℚ) ≤ k := by exact_mod_cast hk
      right
      norm_num
      linarith
  have htie : (PoolUsage.of "LAN" 8 3).IsExact :=
    (((isExact_except_ties (by decide)).2.2 (by decide)).2.2 (by decide)).2 (by decide)
  exact ⟨hfar, (isExact_except_ties (by decide)).2.1 hfar, by decide, by decide, htie⟩

/-- Of 40 addresses 23 are 57.5 percent, which the quotient in double precision falls short of. -/
theorem not_isExact_missed_tie :
    0 < (PoolUsage.of "LAN" 40 23).size ∧ (PoolUsage.of "LAN" 40 23).percentage = 57 ∧
      IsNearestEven 58 (PoolUsage.of "LAN" 40 23).share ∧ ¬(PoolUsage.of "LAN" 40 23).IsExact := by
  refine ⟨by decide, by decide +kernel, ?_, ?_⟩
  · rw [isNearestEven_iff, share_of]
    norm_num
  · rw [isExact_of_iff (by decide)]
    decide +kernel

end DhcpLeases
