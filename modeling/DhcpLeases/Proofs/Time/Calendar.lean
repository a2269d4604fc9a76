import DhcpLeases.Time.Instant

namespace DhcpLeases.Time

def yearOfEra (d : Nat) : Nat :=
  (d - d / 1460 + d / 36524 - d / 146096) / 365

def daysBeforeYear (y : Nat) : Nat :=
  365 * y + y / 4 - y / 100

/-- A day as the day `v` of the four years `u` of the century `c`. Only the last of the centuries has a leap
day at its end. -/
structure InCentury (d c u v : Nat) : Prop where
  century_le : c ≤ 3
  four_le : u ≤ 24
  day_le : v ≤ 1460
  last : u = 24 → v = 1460 → c = 3
  eq : d = 36524 * c + 1461 * u + v

/-- A day lies in its March year, and is day 365 only of one that ends with a leap day. -/
structure InYear (d y : Nat) : Prop where
  year_lt : y < 400
  ge : daysBeforeYear y ≤ d
  le : d - daysBeforeYear y ≤ 365
  leap : d - daysBeforeYear y = 365 → (y + 1) % 4 = 0 ∧ ((y + 1) % 100 ≠ 0 ∨ y = 399)

variable {d c u v : Nat}

theorem exists_inCentury (h : d < 146097) : ∃ c u v, InCentury d c u v := by
  have hcentury : 36524 * (d / 36524 - d / 146096) ≤ d ∧
      d - 36524 * (d / 36524 - d / 146096) ≤ 36524 := by omega
  generalize hc : d / 36524 - d / 146096 = c at hcentury
  refine ⟨c, (d - 36524 * c) / 1461, (d - 36524 * c) % 1461, ?_, ?_, ?_, ?_, ?_⟩
  · omega
  · omega
  · omega
  · omega
  · omega

theorem InCentury.yearOfEra_eq (h : InCentury d c u v) :
    yearOfEra d = 100 * c + 4 * u + min (v / 365) 3 := by
  obtain ⟨hc, hu, hv, hlast, hd⟩ := h
  have hcentury : d / 36524 - d / 146096 = c := by omega
  have hfour : d / 1460 = 25 * c + u + (24 * c + u + v) / 1460 := by omega
  have hextra : (24 * c + u + v) / 1460 ≤ 1 := by omega
  have hdays : d - d / 1460 + d / 36524 - d / 146096 =
      36500 * c + 1460 * u + (v - (24 * c + u + v) / 1460) := by omega
  rw [yearOfEra, hdays]
  omega

theorem InCentury.inYear (h : InCentury d c u v) : InYear d (100 * c + 4 * u + min (v / 365) 3) := by
  obtain ⟨hc, hu, hv, hlast, rfl⟩ := h
  generalize hk : min (v / 365) 3 = k
  have hk3 : k ≤ 3 := by omega
  have hkv : 365 * k ≤ v := by omega
  have hdays : daysBeforeYear (100 * c + 4 * u + k) = 36524 * c + 1461 * u + 365 * k := by
    rw [daysBeforeYear]
    omega
  have hday : 36524 * c + 1461 * u + v - (36524 * c + 1461 * u + 365 * k) = v - 365 * k := by omega
  constructor
  · omega
  · rw [hdays]
    omega
  · rw [hdays, hday]
    omega
  · rw [hdays, hday]
    intro hlong
    have hend : k = 3 ∧ v = 1460 := by omega
    omega

theorem inYear_yearOfEra (h : d < 146097) : InYear d (yearOfEra d) := by
  obtain ⟨c, u, v, hparts⟩ := exists_inCentury h
  rw [hparts.yearOfEra_eq]
  exact hparts.inYear

def monthOfYear (d : Nat) : Nat :=
  (5 * d + 2) / 153

/-- The days in a month of a March year, the last of which has one more if the year has a day 365. -/
def monthLength (m d : Nat) : Nat :=
  if m = 11 then if d = 365 then 29 else 28
  else if m = 1 ∨ m = 3 ∨ m = 6 ∨ m = 8 then 30
  else 31

theorem monthOfYear_spec : ∀ d < 366, monthOfYear d ≤ 11 ∧ daysBeforeMonth (monthOfYear d) ≤ d ∧
    d - daysBeforeMonth (monthOfYear d) + 1 ≤ monthLength (monthOfYear d) d := by
  decide +kernel

def Date.ofMarchYear (y : Int) (d : Nat) : Date :=
  let m := monthOfYear d
  let month := if m < 10 then m + 3 else m - 9
  { year := if month ≤ 2 then y + 1 else y
    month := month
    day := d - daysBeforeMonth m + 1 }

theorem Date.ofDayNumber_eq (n : Int) :
    ofDayNumber n =
      let day := ((n + 719468) % 146097).toNat
      ofMarchYear ((n + 719468) / 146097 * 400 + yearOfEra day)
        (day - daysBeforeYear (yearOfEra day)) :=
  rfl

theorem Date.dayNumber_ofMarchYear {d : Nat} (hd : d < 366) (y : Int) :
    (ofMarchYear y d).dayNumber = 365 * y + y / 4 - y / 100 + y / 400 + d - 719468 := by
  obtain ⟨hm, hge, -⟩ := monthOfYear_spec d hd
  unfold dayNumber ofMarchYear
  generalize monthOfYear d = m at hm hge ⊢
  by_cases hlate : m < 10
  · have hmonth : ¬m + 3 ≤ 2 := by omega
    have hback : m + 3 - 3 = m := by omega
    simp only [if_pos hlate, if_neg hmonth, hback]
    omega
  · have hmonth : m - 9 ≤ 2 := by omega
    have hback : m - 9 + 9 = m := by omega
    simp only [if_neg hlate, if_pos hmonth, hback]
    omega

theorem daysInMonth_early {m : Nat} (h : m < 10) (y : Int) (d : Nat) :
    daysInMonth y (m + 3) = monthLength m d := by
  have hfebruary : m + 3 ≠ 2 := by omega
  have hlast : m ≠ 11 := by omega
  unfold daysInMonth monthLength
  rw [if_neg hfebruary, if_neg hlast]
  by_cases hshort : m = 1 ∨ m = 3 ∨ m = 6 ∨ m = 8
  · have hmonth : m + 3 = 4 ∨ m + 3 = 6 ∨ m + 3 = 9 ∨ m + 3 = 11 := by omega
    rw [if_pos hshort, if_pos hmonth]
  · have hmonth : ¬(m + 3 = 4 ∨ m + 3 = 6 ∨ m + 3 = 9 ∨ m + 3 = 11) := by omega
    rw [if_neg hshort, if_neg hmonth]

theorem monthLength_le {y : Int} {d : Nat} (hleap : d = 365 → isLeapYear y) :
    monthLength 11 d ≤ daysInMonth y 2 := by
  unfold daysInMonth monthLength
  rw [if_pos rfl, if_pos rfl]
  by_cases hd : d = 365
  · apply Nat.le_of_eq
    rw [if_pos hd, if_pos (hleap hd)]
  · rw [if_neg hd]
    split
    · exact Nat.le_succ 28
    · exact Nat.le_refl 28

theorem Date.isValid_ofMarchYear {d : Nat} (hd : d < 366) {y : Int}
    (hleap : d = 365 → isLeapYear (y + 1)) : (ofMarchYear y d).IsValid := by
  obtain ⟨hm, -, hle⟩ := monthOfYear_spec d hd
  unfold IsValid ofMarchYear
  generalize monthOfYear d = m at hm hle ⊢
  by_cases hlate : m < 10
  · have hmonth : ¬m + 3 ≤ 2 := by omega
    simp only [if_pos hlate, if_neg hmonth, daysInMonth_early hlate y d]
    omega
  · have hmonth : m - 9 ≤ 2 := by omega
    simp only [if_neg hlate, if_pos hmonth]
    by_cases hlast : m = 11
    · subst hlast
      exact ⟨by decide, by decide, Nat.succ_pos _, Nat.le_trans hle (monthLength_le hleap)⟩
    · have hjanuary : m = 10 := by omega
      subst hjanuary
      exact ⟨by decide, by decide, Nat.succ_pos _, hle⟩

/-- The days before a March year, counted from year 0, in a year `y` of the 400 years `e`. -/
theorem daysBefore_era (e : Int) {y : Nat} (hy : y < 400) :
    365 * (e * 400 + y) + (e * 400 + y) / 4 - (e * 400 + y) / 100 + (e * 400 + y) / 400 =
      146097 * e + daysBeforeYear y := by
  have hfour : (e * 400 + y) / 4 = e * 100 + y / 4 := by omega
  have hcentury : (e * 400 + y) / 100 = e * 4 + y / 100 := by omega
  have hera : (e * 400 + y) / 400 = e := by omega
  rw [hfour, hcentury, hera, daysBeforeYear]
  omega

theorem inYear_ofDayNumber (n : Int) :
    ∃ y d, d < 366 ∧ (d = 365 → isLeapYear (y + 1)) ∧ Date.ofDayNumber n = .ofMarchYear y d ∧
      365 * y + y / 4 - y / 100 + y / 400 + d - 719468 = n := by
  have hday : ((n + 719468) % 146097).toNat < 146097 := by omega
  have heq := Date.ofDayNumber_eq n
  have hinYear := inYear_yearOfEra hday
  simp only at heq
  generalize yearOfEra ((n + 719468) % 146097).toNat = y at heq hinYear
  obtain ⟨hlt, hge, hle, hleap⟩ := hinYear
  refine ⟨_, _, ?_, ?_, heq, ?_⟩
  · omega
  · intro hd
    have hyear := hleap hd
    unfold isLeapYear
    omega
  · rw [daysBefore_era _ hlt]
    omega

theorem Date.isValid_ofDayNumber (n : Int) : (ofDayNumber n).IsValid := by
  obtain ⟨y, d, hd, hleap, heq, -⟩ := inYear_ofDayNumber n
  rw [heq]
  exact isValid_ofMarchYear hd hleap

theorem Date.dayNumber_ofDayNumber (n : Int) : (ofDayNumber n).dayNumber = n := by
  obtain ⟨y, d, hd, -, heq, hn⟩ := inYear_ofDayNumber n
  rw [heq, dayNumber_ofMarchYear hd, hn]

end DhcpLeases.Time
