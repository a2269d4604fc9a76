import DhcpLeases.Proofs.Time.Calendar

namespace DhcpLeases.Time

theorem monthOfYear_lt_ten : ∀ d < 366, monthOfYear d < 10 ↔ d < 306 := by
  decide +kernel

/-- January and February end a March year. -/
theorem Date.year_ofMarchYear {d : Nat} (hd : d < 366) (y : Int) :
    (ofMarchYear y d).year = if d < 306 then y else y + 1 := by
  have hm := (monthOfYear_spec d hd).1
  have hearly := monthOfYear_lt_ten d hd
  unfold ofMarchYear
  generalize monthOfYear d = m at hm hearly
  by_cases hlate : m < 10
  · have hmonth : ¬m + 3 ≤ 2 := by omega
    simp only [if_pos hlate, if_neg hmonth, if_pos (hearly.1 hlate)]
  · have hmonth : m - 9 ≤ 2 := by omega
    simp only [if_neg hlate, if_pos hmonth, if_neg (mt hearly.2 hlate)]

theorem Instant.year_bounds (t : Instant) :
    -262143 ≤ t.reading.date.year ∧ t.reading.date.year ≤ 262142 := by
  obtain ⟨y, d, hd, -, heq, hn⟩ := inYear_ofDayNumber (t.seconds / secondsPerDay)
  have hdate : t.reading.date = .ofMarchYear y d := heq
  have hdays : -96465292 ≤ t.seconds / secondsPerDay ∧ t.seconds / secondsPerDay ≤ 95026236 := by
    have hge := t.seconds_ge
    have hle := t.seconds_le
    unfold minSeconds at hge
    unfold maxSeconds at hle
    unfold secondsPerDay
    omega
  have hyears : -262144 ≤ y ∧ y ≤ 262142 := by omega
  rw [hdate, Date.year_ofMarchYear hd]
  -- of the first and the last March year only a part lies within the years of the calendar
  by_cases hfirst : y = -262144
  · subst hfirst
    omega
  by_cases hlast : y = 262142
  · subst hlast
    omega
  omega

namespace Instant

theorem of?_self (t : Instant) : of? t.seconds t.nanos = some t :=
  dif_pos ⟨t.seconds_ge, t.seconds_le, t.nanos_lt⟩

theorem eq_of_of? {t : Instant} {seconds : Int} {nanos : Nat} (h : of? seconds nanos = some t) :
    t.seconds = seconds ∧ t.nanos = nanos := by
  unfold of? at h
  split at h
  · cases h
    exact ⟨rfl, rfl⟩
  · cases h

/-- A leap second stands behind the last second of a minute. -/
def EndsMinute (t : Instant) : Prop :=
  t.isLeap → t.seconds % 60 = 59

instance (t : Instant) : Decidable t.EndsMinute :=
  inferInstanceAs (Decidable (_ → _))

theorem endsMinute_of_seconds {t : Instant} (h : t.nanos = 0) : t.EndsMinute := by
  intro hleap
  rw [isLeap, h] at hleap
  exact absurd hleap (by decide)

theorem carried_le {t : Instant} (h : ¬t.EndsMinute) :
    t.seconds + 1 ≤ maxSeconds ∧ nanosPerSecond ≤ t.nanos := by
  obtain ⟨hleap, hsecond⟩ := Classical.not_imp.1 h
  have hle := t.seconds_le
  refine ⟨?_, hleap⟩
  unfold maxSeconds at hle ⊢
  omega

/-- The instant that a clock shows. Within a minute a leap second reads like the second behind it. -/
def carried (t : Instant) : Instant :=
  if h : t.EndsMinute then t
  else
    { seconds := t.seconds + 1
      nanos := t.nanos - nanosPerSecond
      seconds_ge := Int.le_trans t.seconds_ge (Int.le_add_of_nonneg_right (by decide))
      seconds_le := (carried_le h).1
      nanos_lt := Nat.lt_of_le_of_lt (Nat.sub_le _ _) t.nanos_lt }

theorem carried_of_endsMinute {t : Instant} (h : t.EndsMinute) : t.carried = t :=
  dif_pos h

theorem carried_parts {t : Instant} (h : ¬t.EndsMinute) :
    t.carried.seconds = t.seconds + 1 ∧ t.carried.nanos = t.nanos - nanosPerSecond := by
  rw [carried, dif_neg h]
  exact ⟨rfl, rfl⟩

theorem endsMinute_carried (t : Instant) : t.carried.EndsMinute := by
  by_cases hends : t.EndsMinute
  · rwa [carried_of_endsMinute hends]
  · have hnanos := (carried_parts hends).2
    have hlt := t.nanos_lt
    intro hleap
    unfold isLeap at hleap
    omega

theorem second_reading (t : Instant) :
    (t.reading.second : Int) = t.seconds % 60 + (t.nanos / nanosPerSecond : Nat) := by
  simp only [reading, secondOfDay, secondsPerDay]
  omega

theorem reading_carried (t : Instant) :
    t.carried.reading = t.reading ∧ t.carried.nanos % nanosPerSecond = t.nanos % nanosPerSecond := by
  by_cases hends : t.EndsMinute
  · rw [carried_of_endsMinute hends]
    exact ⟨rfl, rfl⟩
  · obtain ⟨hleap, hsecond⟩ := Classical.not_imp.1 hends
    obtain ⟨hseconds, hnanos⟩ := carried_parts hends
    have hlt := t.nanos_lt
    have hday : t.carried.seconds / secondsPerDay = t.seconds / secondsPerDay := by
      rw [hseconds]
      unfold secondsPerDay
      omega
    have hclock : t.carried.secondOfDay.toNat = t.secondOfDay.toNat + 1 := by
      unfold secondOfDay secondsPerDay
      omega
    have hminute : t.secondOfDay.toNat % 60 < 59 := by
      unfold secondOfDay secondsPerDay
      omega
    unfold isLeap nanosPerSecond at *
    constructor
    · simp only [reading, hday, hclock, hnanos, Reading.mk.injEq, true_and, nanosPerSecond]
      omega
    · omega

theorem isValid_reading (t : Instant) : t.reading.IsValid := by
  have hsecond := t.second_reading
  have hlt := t.nanos_lt
  refine ⟨Date.isValid_ofDayNumber _, ?_, ?_, ?_⟩
  · simp only [reading, secondOfDay, secondsPerDay]
    omega
  · simp only [reading]
    omega
  · unfold nanosPerSecond at hsecond hlt
    omega

end Instant

theorem daysInMonth_le (y : Int) (m : Nat) : daysInMonth y m ≤ 31 := by
  unfold daysInMonth
  split
  · split <;> decide
  · split <;> decide

theorem Reading.IsValid.lt_hundred {r : Reading} (h : r.IsValid) : r.date.month < 100 ∧
    r.date.day < 100 ∧ r.hour < 100 ∧ r.minute < 100 ∧ r.second < 100 := by
  obtain ⟨⟨-, hmonth, -, hday⟩, hhour, hminute, hsecond⟩ := h
  have hdays := daysInMonth_le r.date.year r.date.month
  omega

theorem Instant.ofReading?_of_endsMinute {t : Instant} (h : t.EndsMinute) :
    ofReading? t.reading (t.nanos % nanosPerSecond) = some t := by
  have hvalid : t.reading.IsValid ∧ -262143 ≤ t.reading.date.year ∧ t.reading.date.year ≤ 262142 :=
    ⟨t.isValid_reading, t.year_bounds⟩
  have hday : t.reading.date.dayNumber = t.seconds / secondsPerDay := Date.dayNumber_ofDayNumber _
  have hsecond := t.second_reading
  have hlt := t.nanos_lt
  unfold EndsMinute isLeap at h
  have hshown : min t.reading.second 59 = t.secondOfDay.toNat % 60 := by
    unfold nanosPerSecond at hsecond hlt h
    unfold secondOfDay secondsPerDay
    omega
  have hseconds : t.reading.date.dayNumber * secondsPerDay + t.reading.hour * 3600 +
      t.reading.minute * 60 + (min t.reading.second 59 : Nat) = t.seconds := by
    rw [hday, hshown]
    simp only [reading, secondOfDay, secondsPerDay]
    omega
  have hnanos : (if t.reading.second = 60 then nanosPerSecond + t.nanos % nanosPerSecond
      else t.nanos % nanosPerSecond) = t.nanos := by
    unfold nanosPerSecond at hsecond hlt h ⊢
    split
    · omega
    · omega
  rw [ofReading?, if_pos hvalid]
  simp only [hseconds, hnanos]
  exact t.of?_self

end DhcpLeases.Time
