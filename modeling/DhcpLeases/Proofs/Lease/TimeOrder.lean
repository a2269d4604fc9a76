import DhcpLeases.Proofs.Lease.DisplayedTimes
import DhcpLeases.Proofs.Lease.RepeatedQuery

namespace DhcpLeases

open Text Time

namespace Time

def Reading.HasShortYear (r : Reading) : Prop :=
  0 ≤ r.date.year ∧ r.date.year ≤ 9999

instance (r : Reading) : Decidable r.HasShortYear :=
  inferInstanceAs (Decidable (_ ∧ _))

namespace Stamp

theorem compare_yearText {y z : Int} (hy : 0 ≤ y ∧ y ≤ 9999) (hz : 0 ≤ z ∧ z ≤ 9999)
    (us vs : List Char) :
    compare (String.ofList (yearText y ++ us)) (String.ofList (yearText z ++ vs)) =
      (compare y z).then (compare (String.ofList us) (String.ofList vs)) := by
  have hm : y.toNat < 10 ^ 4 := by omega
  have hn : z.toNat < 10 ^ 4 := by omega
  have hlength : (Decimal.padded 4 y.toNat).length = (Decimal.padded 4 z.toNat).length := by
    rw [Decimal.length_padded (by decide) hm, Decimal.length_padded (by decide) hn]
  have hnumber : compare y z = compare y.toNat z.toNat := compare_int_eq_nat (by omega) (by omega)
  rw [yearText, yearText, if_pos hy, if_pos hz, compare_ofList_append hlength,
    Decimal.compare_padded (by decide) hm hn, hnumber]

theorem compare_twoDigits {m n : Nat} (hm : m < 100) (hn : n < 100) (us vs : List Char) :
    compare (String.ofList (Decimal.padded 2 m ++ us)) (String.ofList (Decimal.padded 2 n ++ vs)) =
      (compare m n).then (compare (String.ofList us) (String.ofList vs)) := by
  have hlength : (Decimal.padded 2 m).length = (Decimal.padded 2 n).length := by
    rw [Decimal.length_padded (by decide) hm, Decimal.length_padded (by decide) hn]
  rw [compare_ofList_append hlength, Decimal.compare_padded (by decide) hm hn]

theorem compare_mark (c : Char) (us vs : List Char) :
    compare (String.ofList (c :: us)) (String.ofList (c :: vs)) =
      compare (String.ofList us) (String.ofList vs) := by
  rw [compare_ofList_cons, Std.ReflOrd.compare_self]
  rfl

/-- Every part of a written time has its own place, and the first parts that differ decide. -/
theorem compare_write {r s : Reading} (hr : r.IsValid) (hs : s.IsValid) (hyear : r.HasShortYear)
    (hyear' : s.HasShortYear) : compare (write r) (write s) = compare r s := by
  obtain ⟨hmonth, hday, hhour, hminute, hsecond⟩ := hr.lt_hundred
  obtain ⟨hmonth', hday', hhour', hminute', hsecond'⟩ := hs.lt_hundred
  have hend := compare_twoDigits hsecond hsecond' [] []
  rw [List.append_nil, List.append_nil, Std.ReflOrd.compare_self, Ordering.then_eq] at hend
  simp only [write, List.append_assoc, List.cons_append]
  rw [compare_yearText hyear hyear', compare_mark, compare_twoDigits hmonth hmonth', compare_mark,
    compare_twoDigits hday hday', compare_mark, compare_twoDigits hhour hhour', compare_mark,
    compare_twoDigits hminute hminute', compare_mark, hend, Reading.compare_eq]

end Stamp

theorem Stamp.write_ne_empty (r : Reading) : write r ≠ "" := by
  intro h
  have hnil := congrArg String.toList h
  rw [write, String.toList_ofList] at hnil
  simp at hnil

namespace Instant

variable {t u t' u' : Instant} {offset : Int}

/-- Only an instant that stays where it is can be seen in a leap second; one that leaves a leap second
backward is seen a second later than its own seconds say. -/
theorem eq_of_shift? (h : t.shift? offset = some t') :
    t'.seconds = t.seconds + offset + (if t.isLeap ∧ offset < 0 then 1 else 0) ∧
      t'.nanos = if t.isLeap ∧ offset ≠ 0 then t.nanos - nanosPerSecond else t.nanos := by
  unfold shift? at h
  by_cases hforward : t.isLeap ∧ 0 < offset
  · rw [if_pos hforward] at h
    rw [if_neg (by omega), if_pos ⟨hforward.1, by omega⟩, Int.add_zero]
    exact eq_of_of? h
  · rw [if_neg hforward] at h
    by_cases hbackward : t.isLeap ∧ offset < 0
    · rw [if_pos hbackward] at h
      rw [if_pos hbackward, if_pos ⟨hbackward.1, by omega⟩, Int.add_right_comm]
      exact eq_of_of? h
    · have hstays : ¬(t.isLeap ∧ offset ≠ 0) := by
        rintro ⟨hleap, hne⟩
        rcases Int.lt_or_gt_of_ne hne with hlt | hgt
        · exact hbackward ⟨hleap, hlt⟩
        · exact hforward ⟨hleap, hgt⟩
      rw [if_neg hbackward] at h
      rw [if_neg hbackward, if_neg hstays, Int.add_zero]
      exact eq_of_of? h

theorem isLE_compare_reading (h : t.seconds < u.seconds ∨
    t.seconds = u.seconds ∧ t.nanos / nanosPerSecond ≤ u.nanos / nanosPerSecond) :
    (compare t.reading u.reading).isLE := by
  have hsecond := t.second_reading
  have hsecond' := u.second_reading
  have hlt := t.nanos_lt
  rw [compare_reading, Ordering.isLE_then_iff_or, Int.compare_eq_lt, Int.compare_eq_eq,
    Nat.isLE_compare]
  unfold nanosPerSecond at *
  omega

/-- A clock in any zone shows no instant as later than a later one. -/
theorem isLE_of_shift? (ht : t.shift? offset = some t') (hu : u.shift? offset = some u')
    (h : (compare t u).isLE) : (compare t'.reading u'.reading).isLE := by
  obtain ⟨hseconds, hnanos⟩ := eq_of_shift? ht
  obtain ⟨hseconds', hnanos'⟩ := eq_of_shift? hu
  have hle : t.seconds < u.seconds ∨ t.seconds = u.seconds ∧ t.nanos ≤ u.nanos := by
    rcases Ordering.isLE_then_iff_or.1 h with hlt | ⟨heq, hle⟩
    · exact .inl (Int.compare_eq_lt.1 hlt)
    · exact .inr ⟨Int.compare_eq_eq.1 heq, Nat.isLE_compare.1 hle⟩
  have hlt := t.nanos_lt
  have hlt' := u.nanos_lt
  apply isLE_compare_reading
  rw [hseconds, hseconds', hnanos, hnanos']
  unfold isLeap nanosPerSecond at *
  split <;> split <;> split <;> split <;> omega

end Instant

end Time

/-- The local year of an instant is one from 0 to 9999. -/
def Viewpoint.SeesShortYear (v : Viewpoint) (t : Instant) : Prop :=
  ∃ u, t.shift? v.offset = some u ∧ u.reading.HasShortYear

/-- How two leases are listed of which a time is given or missing. -/
structure FollowsTime (order : Ordering) (t u : Option Instant) : Prop where
  weak : (compare t u).isLE → order ≠ .gt
  strict : ∀ x ∈ t, ∀ y ∈ u, x.nanos = 0 → y.nanos = 0 → order = compare x y
  missing_first : t = none → u ≠ none → order = .lt

namespace Viewpoint

variable {v : Viewpoint} {t u : Option Instant}

theorem localTime_some {x x' : Instant} (h : x.shift? v.offset = some x') :
    v.localTime (some x) = Stamp.write x'.reading := by
  rw [localTime, Option.bind_some, h]

theorem compare_localTime {x y x' y' : Instant} (hx : x.shift? v.offset = some x')
    (hy : y.shift? v.offset = some y') (hyear : x'.reading.HasShortYear)
    (hyear' : y'.reading.HasShortYear) :
    compare (v.localTime (some x)) (v.localTime (some y)) = compare x'.reading y'.reading := by
  rw [localTime_some hx, localTime_some hy,
    Stamp.compare_write x'.isValid_reading y'.isValid_reading hyear hyear']

theorem compare_localTime_ne_gt (ht : ∀ x ∈ t, v.SeesShortYear x) (hu : ∀ y ∈ u, v.SeesShortYear y)
    (h : (compare t u).isLE) : compare (v.localTime t) (v.localTime u) ≠ .gt := by
  cases t with
  | none =>
    have hnone : v.localTime none = "" := rfl
    rw [hnone]
    by_cases hempty : v.localTime u = ""
    · rw [hempty]
      decide
    · rw [SortKey.compare_empty hempty]
      decide
  | some x =>
    cases u with
    | none => cases h
    | some y =>
      obtain ⟨x', hx, hyear⟩ := ht x rfl
      obtain ⟨y', hy, hyear'⟩ := hu y rfl
      rw [compare_localTime hx hy hyear hyear']
      exact Ordering.isLE_iff_ne_gt.1 (Instant.isLE_of_shift? hx hy h)

theorem compare_localTime_of_seconds {x y : Instant} (hx : v.SeesShortYear x) (hy : v.SeesShortYear y)
    (hnanos : x.nanos = 0) (hnanos' : y.nanos = 0) :
    compare (v.localTime (some x)) (v.localTime (some y)) = compare x y := by
  obtain ⟨x', hx, hyear⟩ := hx
  obtain ⟨y', hy, hyear'⟩ := hy
  obtain ⟨hseconds, hzero⟩ := Instant.eq_of_of? ((Instant.shift?_of_seconds hnanos _).symm.trans hx)
  obtain ⟨hseconds', hzero'⟩ := Instant.eq_of_of? ((Instant.shift?_of_seconds hnanos' _).symm.trans hy)
  have hcompare (x y : Instant) :
      compare x y = (compare x.seconds y.seconds).then (compare x.nanos y.nanos) := rfl
  have hshifted : compare x'.seconds y'.seconds = compare x.seconds y.seconds := by
    rw [hseconds, hseconds', Int.compare_eq_ite_lt, Int.compare_eq_ite_lt]
    simp only [Int.add_lt_add_iff_right]
  have hreading : compare x'.reading y'.reading = compare x' y' :=
    (Instant.compare_of_endsMinute (Instant.endsMinute_of_seconds hzero)
      (Instant.endsMinute_of_seconds hzero') (by rw [hzero, hzero'])).symm
  rw [compare_localTime hx hy hyear hyear', hreading, hcompare, hcompare, hshifted, hnanos, hnanos', hzero,
    hzero']

theorem followsTime_localTime (ht : ∀ x ∈ t, v.SeesShortYear x) (hu : ∀ y ∈ u, v.SeesShortYear y) :
    FollowsTime (compare (v.localTime t) (v.localTime u)) t u where
  weak := compare_localTime_ne_gt ht hu
  strict := by
    rintro x rfl y rfl
    exact compare_localTime_of_seconds (ht x rfl) (hu y rfl)
  missing_first := by
    rintro rfl hsome
    obtain ⟨y, rfl⟩ := Option.ne_none_iff_exists'.1 hsome
    obtain ⟨y', hy, -⟩ := hu y rfl
    rw [localTime_some hy]
    exact SortKey.compare_empty (Stamp.write_ne_empty _)

/-- Leases are listed by start and by end in the order of these times, as far as the years of these have four
digits where they are looked at. -/
theorem list_followsTimes (v : Viewpoint) (r s : LeaseRecord) :
    ((∀ t ∈ r.start, v.SeesShortYear t) → (∀ t ∈ s.start, v.SeesShortYear t) →
      FollowsTime (SortKey.start.compare (v.list r) (v.list s)) r.start s.start) ∧
    ((∀ t ∈ r.stop, v.SeesShortYear t) → (∀ t ∈ s.stop, v.SeesShortYear t) →
      FollowsTime (SortKey.stop.compare (v.list r) (v.list s)) r.stop s.stop) :=
  ⟨followsTime_localTime, followsTime_localTime⟩

def yearsEnd : Instant :=
  (Instant.of? 1483228799 0).get (by decide)

def newYear : Instant :=
  (Instant.of? 1483228800 0).get (by decide)

def hourWest : Viewpoint :=
  ⟨.epoch, -3600, "p"⟩

def eveLease : LeaseRecord :=
  { LeaseRecord.bare (.v4 1) .active with start := some yearsEnd }

def newYearLease : LeaseRecord :=
  { LeaseRecord.bare (.v4 2) .active with start := some newYear, stop := some newYear }

theorem list_followsTimes_newYear :
    hourWest.SeesShortYear yearsEnd ∧ hourWest.SeesShortYear newYear ∧
      SortKey.start.compare (hourWest.list eveLease) (hourWest.list newYearLease) = .lt ∧
      SortKey.stop.compare (hourWest.list eveLease) (hourWest.list newYearLease) = .lt := by
  have heve : hourWest.SeesShortYear yearsEnd := ⟨_, rfl, by decide⟩
  have hnew : hourWest.SeesShortYear newYear := ⟨_, rfl, by decide⟩
  have hone {t x : Instant} (hx : hourWest.SeesShortYear x) (ht : t ∈ some x) :
      hourWest.SeesShortYear t := by
    cases ht
    exact hx
  obtain ⟨hstart, hstop⟩ := list_followsTimes hourWest eveLease newYearLease
  refine ⟨heve, hnew, ?_, ?_⟩
  · rw [(hstart (fun _ => hone heve) fun _ => hone hnew).strict yearsEnd rfl newYear rfl rfl rfl]
    decide
  · have hopen : ∀ t ∈ eveLease.stop, hourWest.SeesShortYear t :=
      fun t ht => absurd ht (Option.not_mem_none t)
    exact (hstop hopen fun _ => hone hnew).missing_first rfl (Option.some_ne_none newYear)

end Viewpoint

end DhcpLeases
