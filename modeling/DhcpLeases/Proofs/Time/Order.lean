import DhcpLeases.Proofs.Text.Order
import DhcpLeases.Proofs.Time.Reading

namespace DhcpLeases.Time

instance : Ord Date where
  compare d e :=
    (compare d.year e.year).then ((compare d.month e.month).then (compare d.day e.day))

instance : Std.TransOrd Date :=
  inferInstanceAs (Std.TransCmp (compareLex (compareOn Date.year)
    (compareLex (compareOn Date.month) (compareOn Date.day))))

instance : Std.LawfulEqOrd Date where
  eq_of_compare {d e} h := by
    obtain ⟨hyear, h⟩ := Ordering.then_eq_eq.1 h
    obtain ⟨hmonth, hday⟩ := Ordering.then_eq_eq.1 h
    cases d
    cases e
    cases Std.LawfulEqOrd.eq_of_compare hyear
    cases Std.LawfulEqOrd.eq_of_compare hmonth
    cases Std.LawfulEqOrd.eq_of_compare hday
    rfl

instance : Ord Reading where
  compare r s :=
    (compare r.date s.date).then ((compare r.hour s.hour).then
      ((compare r.minute s.minute).then (compare r.second s.second)))

/-- Readings are compared part by part, from the year to the second. -/
theorem Reading.compare_eq (r s : Reading) :
    compare r s = (compare r.date.year s.date.year).then ((compare r.date.month s.date.month).then
      ((compare r.date.day s.date.day).then ((compare r.hour s.hour).then
        ((compare r.minute s.minute).then (compare r.second s.second))))) := by
  have hdate : compare r.date s.date = (compare r.date.year s.date.year).then
      ((compare r.date.month s.date.month).then (compare r.date.day s.date.day)) := rfl
  have hreading : compare r s = (compare r.date s.date).then ((compare r.hour s.hour).then
      ((compare r.minute s.minute).then (compare r.second s.second))) := rfl
  rw [hreading, hdate, Ordering.then_assoc, Ordering.then_assoc]

def daysBeforeMarch (y : Int) : Int :=
  365 * y + y / 4 - y / 100 + y / 400

/-- A March year ends with the February of the next calendar year. -/
theorem daysBeforeMarch_succ (y : Int) :
    daysBeforeMarch (y + 1) = daysBeforeMarch y + daysBeforeMonth 11 + daysInMonth (y + 1) 2 := by
  unfold daysBeforeMarch daysBeforeMonth daysInMonth
  rw [if_pos rfl]
  by_cases hleap : isLeapYear (y + 1)
  · rw [if_pos hleap]
    unfold isLeapYear at hleap
    omega
  · rw [if_neg hleap]
    unfold isLeapYear at hleap
    omega

theorem daysBeforeMarch_le {y z : Int} (h : y < z) : daysBeforeMarch (y + 1) ≤ daysBeforeMarch z := by
  unfold daysBeforeMarch
  omega

theorem daysBeforeMonth_le {m k : Nat} (h : m ≤ k) : daysBeforeMonth m ≤ daysBeforeMonth k := by
  unfold daysBeforeMonth
  omega

theorem monthLength_le_next : ∀ m < 10, daysBeforeMonth m + monthLength m 0 ≤ daysBeforeMonth (m + 1) := by
  decide

namespace Date

variable {d e : Date}

/-- A day in a month of a March year, March being month 0: it comes before the next month and before the
next March year. -/
structure InMarchYear (d : Date) (y : Int) (m : Nat) : Prop where
  number : d.dayNumber = daysBeforeMarch y + daysBeforeMonth m + d.day - 719469
  month : 12 * d.year + d.month = 12 * y + m + 3
  month_le : m ≤ 11
  day_pos : 1 ≤ d.day
  inMonth : m < 11 → daysBeforeMonth m + d.day ≤ daysBeforeMonth (m + 1)
  inYear : daysBeforeMarch y + daysBeforeMonth m + d.day ≤ daysBeforeMarch (y + 1)

theorem inYear_of_inMonth {y : Int} {m n : Nat} (hm : m < 11)
    (h : daysBeforeMonth m + n ≤ daysBeforeMonth (m + 1)) :
    daysBeforeMarch y + daysBeforeMonth m + n ≤ daysBeforeMarch (y + 1) := by
  have hbefore := daysBeforeMonth_le (show m + 1 ≤ 11 from hm)
  rw [daysBeforeMarch_succ]
  omega

theorem IsValid.inMarchYear_late (h : d.IsValid) (hlate : ¬d.month ≤ 2) :
    d.InMarchYear d.year (d.month - 3) := by
  obtain ⟨hlow, hhigh, hpos, hlast⟩ := h
  have hm : d.month - 3 < 10 := by omega
  have hlength := daysInMonth_early hm d.year 0
  have hback : d.month - 3 + 3 = d.month := by omega
  have hnext := monthLength_le_next _ hm
  have hinMonth : daysBeforeMonth (d.month - 3) + d.day ≤ daysBeforeMonth (d.month - 3 + 1) := by
    rw [hback] at hlength
    omega
  constructor
  · simp only [dayNumber, if_neg hlate, daysBeforeMarch]
  · omega
  · omega
  · exact hpos
  · exact fun _ => hinMonth
  · exact inYear_of_inMonth (by omega) hinMonth

theorem IsValid.inMarchYear_january (h : d.IsValid) (hjanuary : d.month = 1) :
    d.InMarchYear (d.year - 1) 10 := by
  obtain ⟨-, -, hpos, hlast⟩ := h
  rw [hjanuary] at hlast
  have hinMonth : daysBeforeMonth 10 + d.day ≤ daysBeforeMonth 11 := Nat.add_le_add_left hlast 306
  constructor
  · simp only [dayNumber, hjanuary, daysBeforeMarch]
    rfl
  · omega
  · omega
  · exact hpos
  · exact fun _ => hinMonth
  · exact inYear_of_inMonth (by omega) hinMonth

theorem IsValid.inMarchYear_february (h : d.IsValid) (hfebruary : d.month = 2) :
    d.InMarchYear (d.year - 1) 11 := by
  obtain ⟨-, -, hpos, hlast⟩ := h
  rw [hfebruary] at hlast
  constructor
  · simp only [dayNumber, hfebruary, daysBeforeMarch]
    rfl
  · omega
  · omega
  · exact hpos
  · omega
  · rw [daysBeforeMarch_succ, Int.sub_add_cancel]
    omega

theorem IsValid.inMarchYear (h : d.IsValid) : ∃ y m, d.InMarchYear y m := by
  have hmonth : d.month = 1 ∨ d.month = 2 ∨ ¬d.month ≤ 2 := by
    have hlow := h.1
    omega
  rcases hmonth with hjanuary | hfebruary | hlate
  · exact ⟨_, _, h.inMarchYear_january hjanuary⟩
  · exact ⟨_, _, h.inMarchYear_february hfebruary⟩
  · exact ⟨_, _, h.inMarchYear_late hlate⟩

theorem dayNumber_lt (hd : d.IsValid) (he : e.IsValid) (h : compare d e = .lt) :
    d.dayNumber < e.dayNumber := by
  obtain ⟨y, m, hdate⟩ := hd.inMarchYear
  obtain ⟨z, k, hdate'⟩ := he.inMarchYear
  have hnumber := hdate.number
  have hnumber' := hdate'.number
  have hpos := hdate'.day_pos
  have hm := hdate.month_le
  have hk := hdate'.month_le
  -- the same month, another month of the same March year, or another March year
  have hcases : y = z ∧ m = k ∧ d.day < e.day ∨ y = z ∧ m < k ∨ y < z := by
    have hmonth := hdate.month
    have hmonth' := hdate'.month
    have hlast := hd.2.1
    have hfirst := he.1
    rcases Ordering.then_eq_lt.1 h with hyear | ⟨hyear, h⟩
    · rw [Int.compare_eq_lt] at hyear
      omega
    · rw [Int.compare_eq_eq] at hyear
      rcases Ordering.then_eq_lt.1 h with hlt | ⟨heq, hday⟩
      · rw [Nat.compare_eq_lt] at hlt
        omega
      · rw [Nat.compare_eq_eq] at heq
        rw [Nat.compare_eq_lt] at hday
        omega
  rcases hcases with ⟨rfl, rfl, hday⟩ | ⟨rfl, hlt⟩ | hlt
  · omega
  · have hend := hdate.inMonth (by omega)
    have hbefore := daysBeforeMonth_le (show m + 1 ≤ k from hlt)
    omega
  · have hend := hdate.inYear
    have hbefore := daysBeforeMarch_le hlt
    omega

/-- Dates are in the order of their day numbers. -/
theorem compare_dayNumber (hd : d.IsValid) (he : e.IsValid) :
    compare d.dayNumber e.dayNumber = compare d e := by
  cases h : compare d e with
  | lt => exact Int.compare_eq_lt.2 (dayNumber_lt hd he h)
  | eq => rw [Std.LawfulEqOrd.eq_of_compare h, Std.ReflOrd.compare_self]
  | gt => exact Int.compare_eq_gt.2 (dayNumber_lt he hd (Std.OrientedCmp.lt_of_gt h))

theorem compare_ofDayNumber (m n : Int) : compare (ofDayNumber m) (ofDayNumber n) = compare m n := by
  rw [← compare_dayNumber (isValid_ofDayNumber m) (isValid_ofDayNumber n), dayNumber_ofDayNumber,
    dayNumber_ofDayNumber]

end Date

theorem compare_int_eq_nat {a b : Int} {m n : Nat} (hlt : a < b ↔ m < n) (hgt : b < a ↔ n < m) :
    compare a b = compare m n := by
  rw [Int.compare_eq_ite_lt, Nat.compare_eq_ite_lt]
  simp only [hlt, hgt]

namespace Instant

theorem compare_minutes (t u : Instant) :
    compare (t.seconds / 60) (u.seconds / 60) =
      (compare (t.seconds / secondsPerDay) (u.seconds / secondsPerDay)).then
        (compare (t.secondOfDay.toNat / 60) (u.secondOfDay.toNat / 60)) := by
  unfold secondOfDay secondsPerDay
  apply eq_then_of
  · rw [Int.compare_eq_lt, Int.compare_eq_lt]
    omega
  · rw [Int.compare_eq_gt, Int.compare_eq_gt]
    omega
  · rw [Int.compare_eq_eq]
    intro h
    apply compare_int_eq_nat
    · omega
    · omega

/-- Readings are in the order of their minutes, and within a minute of the seconds that a clock shows. -/
theorem compare_reading (t u : Instant) :
    compare t.reading u.reading =
      (compare (t.seconds / 60) (u.seconds / 60)).then
        (compare t.reading.second u.reading.second) := by
  have hreading : compare t.reading u.reading =
      (compare t.reading.date u.reading.date).then ((compare t.reading.hour u.reading.hour).then
        ((compare t.reading.minute u.reading.minute).then
          (compare t.reading.second u.reading.second))) := rfl
  have hdate : compare t.reading.date u.reading.date =
      compare (t.seconds / secondsPerDay) (u.seconds / secondsPerDay) := Date.compare_ofDayNumber _ _
  have hclock : compare (t.secondOfDay.toNat / 60) (u.secondOfDay.toNat / 60) =
      (compare t.reading.hour u.reading.hour).then
        (compare t.reading.minute u.reading.minute) := by
    have hhour (n : Nat) : n / 60 / 60 = n / 3600 := Nat.div_div_eq_div_mul n 60 60
    have hminute (n : Nat) : n / 60 % 60 = n % 3600 / 60 := (Nat.mod_mul_right_div_self n 60 60).symm
    rw [compare_div_mod 60, hhour, hhour, hminute, hminute]
    rfl
  rw [hreading, hdate, compare_minutes, hclock]
  simp only [Ordering.then_assoc]

variable {t u : Instant} {r s : Reading}

/-- The leap second of a minute comes behind its other seconds, as its reading does. -/
theorem compare_of_endsMinute (ht : t.EndsMinute) (hu : u.EndsMinute)
    (hfraction : t.nanos % nanosPerSecond = u.nanos % nanosPerSecond) :
    compare t u = compare t.reading u.reading := by
  have hsecond := t.second_reading
  have hsecond' := u.second_reading
  have hlt := t.nanos_lt
  have hlt' := u.nanos_lt
  have hcompare : compare t u = (compare t.seconds u.seconds).then (compare t.nanos u.nanos) := rfl
  unfold EndsMinute isLeap at ht hu
  unfold nanosPerSecond at *
  rw [compare_reading]
  apply eq_then_of
  · intro h
    rw [Int.compare_eq_lt] at h
    exact Ordering.then_eq_lt.2 (.inl (Int.compare_eq_lt.2 (by omega)))
  · intro h
    rw [Int.compare_eq_gt] at h
    exact Ordering.then_eq_gt.2 (.inl (Int.compare_eq_gt.2 (by omega)))
  · intro hminute
    rw [Int.compare_eq_eq] at hminute
    rw [hcompare]
    symm
    apply eq_then_of
    · rw [Int.compare_eq_lt, Nat.compare_eq_lt]
      omega
    · rw [Int.compare_eq_gt, Nat.compare_eq_gt]
      omega
    · intro hseconds
      rw [Int.compare_eq_eq] at hseconds
      rw [Nat.compare_eq_ite_lt, Nat.compare_eq_ite_lt]
      have hbefore : t.reading.second < u.reading.second ↔ t.nanos < u.nanos := by omega
      have hbehind : u.reading.second < t.reading.second ↔ u.nanos < t.nanos := by omega
      simp only [hbefore, hbehind]

end Instant

end DhcpLeases.Time
