namespace DhcpLeases.Time

structure Date where
  year : Int
  month : Nat
  day : Nat
  deriving Repr, DecidableEq

def isLeapYear (y : Int) : Prop :=
  y % 4 = 0 ∧ (y % 100 ≠ 0 ∨ y % 400 = 0)

instance (y : Int) : Decidable (isLeapYear y) :=
  inferInstanceAs (Decidable (_ ∧ _))

def daysInMonth (y : Int) (m : Nat) : Nat :=
  if m = 2 then if isLeapYear y then 29 else 28
  else if m = 4 ∨ m = 6 ∨ m = 9 ∨ m = 11 then 30
  else 31

def Date.IsValid (d : Date) : Prop :=
  1 ≤ d.month ∧ d.month ≤ 12 ∧ 1 ≤ d.day ∧ d.day ≤ daysInMonth d.year d.month

instance (d : Date) : Decidable d.IsValid :=
  inferInstanceAs (Decidable (_ ∧ _))

/-- The days of a March year before its month `m`, March being month 0. -/
def daysBeforeMonth (m : Nat) : Nat :=
  (153 * m + 2) / 5

def Date.dayNumber (d : Date) : Int :=
  let y := if d.month ≤ 2 then d.year - 1 else d.year
  let m := if d.month ≤ 2 then d.month + 9 else d.month - 3
  365 * y + y / 4 - y / 100 + y / 400 + daysBeforeMonth m + d.day - 719469

/-- The date of a day number: the day's place in its 400 years gives the March year, the rest of that
year the month and day. -/
def Date.ofDayNumber (n : Int) : Date :=
  let era := (n + 719468) / 146097
  let dayOfEra := ((n + 719468) % 146097).toNat
  let yearOfEra :=
    (dayOfEra - dayOfEra / 1460 + dayOfEra / 36524 - dayOfEra / 146096) / 365
  let dayOfYear := dayOfEra - (365 * yearOfEra + yearOfEra / 4 - yearOfEra / 100)
  let m := (5 * dayOfYear + 2) / 153
  let month := if m < 10 then m + 3 else m - 9
  let year := era * 400 + yearOfEra
  { year := if month ≤ 2 then year + 1 else year
    month := month
    day := dayOfYear - daysBeforeMonth m + 1 }

def minSeconds : Int := -8334601228800

def maxSeconds : Int := 8210266876799

def nanosPerSecond : Nat := 1000000000

def secondsPerDay : Nat := 86400

/-- Seconds since 1970 and a fraction in nanoseconds; a fraction of a second or more places the instant in
the leap second behind. -/
structure Instant where
  seconds : Int
  nanos : Nat
  seconds_ge : minSeconds ≤ seconds
  seconds_le : seconds ≤ maxSeconds
  nanos_lt : nanos < 2 * nanosPerSecond
  deriving Repr, DecidableEq

namespace Instant

def of? (seconds : Int) (nanos : Nat) : Option Instant :=
  if h : minSeconds ≤ seconds ∧ seconds ≤ maxSeconds ∧ nanos < 2 * nanosPerSecond then
    some ⟨seconds, nanos, h.1, h.2.1, h.2.2⟩
  else none

def epoch : Instant :=
  ⟨0, 0, by decide, by decide, by decide⟩

instance : Ord Instant where
  compare a b := (compare a.seconds b.seconds).then (compare a.nanos b.nanos)

instance : Std.TransOrd Instant :=
  inferInstanceAs (Std.TransCmp (compareLex (compareOn seconds) (compareOn nanos)))

instance : Std.LawfulEqOrd Instant where
  eq_of_compare {a b} h := by
    obtain ⟨hs, hn⟩ := Ordering.then_eq_eq.1 h
    cases a
    cases b
    cases Std.LawfulEqOrd.eq_of_compare hs
    cases Std.LawfulEqOrd.eq_of_compare hn
    rfl

def isLeap (t : Instant) : Prop :=
  nanosPerSecond ≤ t.nanos

instance (t : Instant) : Decidable t.isLeap :=
  inferInstanceAs (Decidable (_ ≤ _))

def secondOfDay (t : Instant) : Int :=
  t.seconds % secondsPerDay

/-- Nanoseconds from `earlier` to `t`. A leap second at one end counts as a second of its own if the two
times of day lie on different sides of it. -/
def nanosSince (t earlier : Instant) : Int :=
  let counted : Int :=
    if earlier.secondOfDay < t.secondOfDay then if earlier.isLeap then 1 else 0
    else if t.secondOfDay < earlier.secondOfDay then if t.isLeap then -1 else 0
    else 0
  (t.seconds - earlier.seconds + counted) * nanosPerSecond + (t.nanos - earlier.nanos)

/-- The instant that reads in UTC as `t` reads `offset` seconds east of it. Leaving a leap second forward
counts from the second before it and leaving it backward from the second after it. -/
def shift? (t : Instant) (offset : Int) : Option Instant :=
  if t.isLeap ∧ 0 < offset then of? (t.seconds + offset) (t.nanos - nanosPerSecond)
  else if t.isLeap ∧ offset < 0 then of? (t.seconds + 1 + offset) (t.nanos - nanosPerSecond)
  else of? (t.seconds + offset) t.nanos

end Instant

/-- A date with a time of day; the leap second of a minute is its second 60. -/
structure Reading where
  date : Date
  hour : Nat
  minute : Nat
  second : Nat
  deriving Repr, DecidableEq

def Reading.IsValid (r : Reading) : Prop :=
  r.date.IsValid ∧ r.hour < 24 ∧ r.minute < 60 ∧ r.second ≤ 60

instance (r : Reading) : Decidable r.IsValid :=
  inferInstanceAs (Decidable (_ ∧ _))

/-- The instant of a reading and a fraction of its second, unless there is no such date or time. -/
def Instant.ofReading? (r : Reading) (nanos : Nat) : Option Instant :=
  if r.IsValid ∧ -262143 ≤ r.date.year ∧ r.date.year ≤ 262142 then
    let second := min r.second 59
    let fraction := if r.second = 60 then nanosPerSecond + nanos else nanos
    of? (r.date.dayNumber * secondsPerDay + r.hour * 3600 + r.minute * 60 + second) fraction
  else none

def Instant.reading (t : Instant) : Reading :=
  let s := t.secondOfDay.toNat
  { date := .ofDayNumber (t.seconds / secondsPerDay)
    hour := s / 3600
    minute := s % 3600 / 60
    second := s % 60 + t.nanos / nanosPerSecond }

end DhcpLeases.Time
