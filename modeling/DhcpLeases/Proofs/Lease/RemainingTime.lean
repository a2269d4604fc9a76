import DhcpLeases.Lease.Listing
import DhcpLeases.Proofs.Text.Decimal

namespace DhcpLeases

open Text Time

namespace Time.Instant

/-- Nanoseconds from 1970 to `t`, on a clock that counts the leap second of `u` from its time of day on. -/
def nanosBeside (t u : Instant) : Int :=
  t.seconds * nanosPerSecond + t.nanos +
    if u.isLeap ∧ u.secondOfDay < t.secondOfDay then nanosPerSecond else 0

theorem nanosSince_eq (t u : Instant) : t.nanosSince u = t.nanosBeside u - u.nanosBeside t := by
  unfold nanosSince nanosBeside nanosPerSecond
  rcases Int.lt_trichotomy t.secondOfDay u.secondOfDay with h | h | h
  · have hback : ¬u.secondOfDay < t.secondOfDay := by omega
    simp only [h, hback, if_true, if_false, and_true, and_false]
    split <;> omega
  · have hback : ¬u.secondOfDay < t.secondOfDay := by omega
    have hfront : ¬t.secondOfDay < u.secondOfDay := by omega
    simp only [hfront, hback, if_false, and_false]
    omega
  · have hfront : ¬t.secondOfDay < u.secondOfDay := by omega
    simp only [h, hfront, if_true, if_false, and_true, and_false]
    split <;> omega

end Time.Instant

/-- Digits of a number. -/
structure IsNumeral (ds : List Char) (n : Nat) : Prop where
  ne_nil : ds ≠ []
  isDigit : ∀ c ∈ ds, Decimal.isDigit c
  value : Decimal.value ds = n

structure IsUnpadded (ds : List Char) (n : Nat) : Prop extends IsNumeral ds n where
  head : ds.head? = some '0' → ds = ['0']

structure IsTwoDigits (ds : List Char) (n : Nat) : Prop extends IsNumeral ds n where
  length : ds.length = 2

inductive SpellsClock : List Char → Nat → Prop
  | parts {hs ms ss : List Char} {h m s : Nat} (hours : IsUnpadded hs h) (minutes : IsTwoDigits ms m)
      (seconds : IsTwoDigits ss s) (hours_lt : h < 24) (minutes_lt : m < 60) (seconds_lt : s < 60) :
      SpellsClock (hs ++ ':' :: (ms ++ ':' :: ss)) (h * 3600 + m * 60 + s)

/-- Seconds as `H:MM:SS`, `1 day, H:MM:SS` or, from two days on, `N days, H:MM:SS`. -/
inductive SpellsSpan : List Char → Nat → Prop
  | clock {cs : List Char} {n : Nat} (h : SpellsClock cs n) : SpellsSpan cs n
  | day {cs : List Char} {n : Nat} (h : SpellsClock cs n) :
      SpellsSpan ("1 day, ".toList ++ cs) (86400 + n)
  | days {ds cs : List Char} {k n : Nat} (hdays : IsUnpadded ds k) (hk : 2 ≤ k)
      (h : SpellsClock cs n) : SpellsSpan (ds ++ " days, ".toList ++ cs) (k * 86400 + n)

theorem isUnpadded_digits (n : Nat) : IsUnpadded (Decimal.digits n) n where
  ne_nil := Decimal.digits_ne_nil n
  isDigit := Decimal.isDigit_of_mem_digits
  value := Decimal.value_digits n
  head h := by
    rcases Nat.eq_zero_or_pos n with rfl | hn
    · rw [Decimal.digits]
      rfl
    · exact absurd h (Decimal.head?_digits hn)

theorem isTwoDigits_padded {n : Nat} (h : n < 60) : IsTwoDigits (Decimal.padded 2 n) n where
  ne_nil := Decimal.padded_ne_nil 2 n
  isDigit := Decimal.isDigit_of_mem_padded 2 n
  value := Decimal.value_padded 2 n
  length := Decimal.length_padded (by decide) (by omega)

theorem spellsClock_ofList {n : Nat} (h : n < secondsPerDay) :
    SpellsClock (String.ofList (Decimal.digits (n / 3600) ++ ':' :: Decimal.padded 2 (n % 3600 / 60) ++
      ':' :: Decimal.padded 2 (n % 60))).toList n := by
  unfold secondsPerDay at h
  have hparts : n / 3600 * 3600 + n % 3600 / 60 * 60 + n % 60 = n := by omega
  have hclock := SpellsClock.parts (isUnpadded_digits (n / 3600))
    (isTwoDigits_padded (show n % 3600 / 60 < 60 by omega))
    (isTwoDigits_padded (show n % 60 < 60 by omega)) (by omega) (by omega) (by omega)
  rw [hparts] at hclock
  rwa [String.toList_ofList, List.append_assoc]

theorem spellsSpan_spanText (n : Nat) : SpellsSpan (spanText n).toList n := by
  have hclock := spellsClock_ofList (Nat.mod_lt n (by decide : 0 < secondsPerDay))
  have hsum : n / secondsPerDay * 86400 + n % secondsPerDay = n := Nat.div_add_mod' n secondsPerDay
  simp only [spanText]
  generalize String.ofList _ = clock at hclock ⊢
  by_cases hnone : n / secondsPerDay = 0
  · rw [hnone, Nat.zero_mul, Nat.zero_add] at hsum
    rw [hsum] at hclock
    rw [if_pos hnone]
    exact .clock hclock
  by_cases hone : n / secondsPerDay = 1
  · have hday := SpellsSpan.day hclock
    rw [hone, Nat.one_mul] at hsum
    rw [hsum] at hday
    rw [if_neg hnone, if_pos hone, String.toList_append]
    exact hday
  · have hdays := SpellsSpan.days (isUnpadded_digits (n / secondsPerDay)) (by omega) hclock
    rw [hsum] at hdays
    rw [if_neg hnone, if_neg hone, String.toList_append, String.toList_append, ofNat,
      String.toList_ofList]
    exact hdays

def clockSeconds (cs : List Char) : Nat :=
  let (hours, rest) := Decimal.span cs
  let (minutes, rest) := Decimal.span rest.tail
  Decimal.value hours * 3600 + Decimal.value minutes * 60 + Decimal.value rest.tail

/-- The seconds that a span says; a comma stands behind the days if there are any. -/
def spanSeconds (cs : List Char) : Nat :=
  match cs.dropWhile (· ≠ ',') with
  | ',' :: ' ' :: clock => Decimal.value (Decimal.span cs).1 * 86400 + clockSeconds clock
  | _ => clockSeconds cs

theorem IsNumeral.span_append {ds : List Char} {n : Nat} (h : IsNumeral ds n) {c : Char}
    (hc : Decimal.isDigit c = false) (rest : List Char) :
    Decimal.span (ds ++ c :: rest) = (ds, c :: rest) :=
  Decimal.span_append h.isDigit (Decimal.ends_at_mark hc rest)

theorem SpellsClock.seconds_eq {cs : List Char} {n : Nat} (h : SpellsClock cs n) :
    clockSeconds cs = n := by
  cases h with
  | parts hours minutes seconds =>
    simp only [clockSeconds, hours.span_append (show Decimal.isDigit ':' = false from rfl),
      minutes.span_append (show Decimal.isDigit ':' = false from rfl), List.tail_cons, hours.value,
      minutes.value, seconds.value]

theorem IsNumeral.comma_not_mem {ds : List Char} {n : Nat} (h : IsNumeral ds n) : ',' ∉ ds :=
  fun hmem => absurd (h.isDigit ',' hmem) (by decide)

theorem SpellsClock.comma_not_mem {cs : List Char} {n : Nat} (h : SpellsClock cs n) : ',' ∉ cs := by
  cases h with
  | parts hours minutes seconds =>
    simp [hours.comma_not_mem, minutes.comma_not_mem, seconds.comma_not_mem]

theorem dropWhile_comma {front : List Char} (h : ',' ∉ front) (rest : List Char) :
    (front ++ rest).dropWhile (· ≠ ',') = rest.dropWhile (· ≠ ',') := by
  apply List.dropWhile_append_of_pos
  intro c hc
  exact decide_eq_true fun heq => h (heq ▸ hc)

theorem spanSeconds_days {ds word cs : List Char} {k n : Nat} (hdays : IsNumeral ds k)
    (hword : ',' ∉ word) (h : SpellsClock cs n) :
    spanSeconds (ds ++ ' ' :: (word ++ ',' :: ' ' :: cs)) = k * 86400 + n := by
  have hfront : ',' ∉ ds ++ ' ' :: word := by
    simp [hdays.comma_not_mem, hword]
  have hdrop := dropWhile_comma hfront (',' :: ' ' :: cs)
  rw [List.append_assoc, List.cons_append] at hdrop
  rw [spanSeconds, hdrop, hdays.span_append (show Decimal.isDigit ' ' = false from rfl)]
  change Decimal.value ds * 86400 + clockSeconds cs = _
  rw [hdays.value, h.seconds_eq]

theorem SpellsSpan.seconds_eq {cs : List Char} {n : Nat} (h : SpellsSpan cs n) : spanSeconds cs = n := by
  cases h with
  | clock h =>
    have hdrop := dropWhile_comma h.comma_not_mem []
    rw [List.append_nil, List.dropWhile_nil] at hdrop
    rw [spanSeconds, hdrop]
    exact h.seconds_eq
  | day h =>
    have hone : IsNumeral ['1'] 1 := ⟨List.cons_ne_nil _ _, List.forall_mem_singleton.2 rfl, rfl⟩
    exact spanSeconds_days hone (show ',' ∉ "day".toList by decide) h
  | days hdays hk h =>
    rw [List.append_assoc]
    exact spanSeconds_days hdays.toIsNumeral (show ',' ∉ "days".toList by decide) h

theorem spanText_inj {m n : Nat} : spanText m = spanText n ↔ m = n := by
  refine ⟨fun h => ?_, congrArg spanText⟩
  rw [← (spellsSpan_spanText m).seconds_eq, h, (spellsSpan_spanText n).seconds_eq]

theorem SpellsSpan.ne_nil {cs : List Char} {n : Nat} (h : SpellsSpan cs n) : cs ≠ [] := by
  have hclock {cs : List Char} {n : Nat} (h : SpellsClock cs n) : cs ≠ [] := by
    cases h
    simp
  cases h with
  | clock h => exact hclock h
  | day h => exact List.append_ne_nil_of_right_ne_nil _ (hclock h)
  | days _ _ h => exact List.append_ne_nil_of_right_ne_nil _ (hclock h)

section

variable {now now' t : Instant} {stop stop' : Option Instant} {n : Nat}

theorem remaining_of_passed (h : t.nanosSince now < 0) : remaining now (some t) = "" :=
  if_pos h

theorem remaining_of_left (h : t.nanosSince now / nanosPerSecond = n) :
    remaining now (some t) = spanText n := by
  have hleft : ¬t.nanosSince now < 0 := by
    unfold nanosPerSecond at h
    omega
  have hseconds : (t.nanosSince now).toNat / nanosPerSecond = n := by
    unfold nanosPerSecond at h ⊢
    omega
  rw [remaining, if_neg hleft, hseconds]

theorem exists_seconds (h : 0 ≤ t.nanosSince now) :
    ∃ n : Nat, t.nanosSince now / nanosPerSecond = n :=
  Int.eq_ofNat_of_zero_le (Int.ediv_nonneg h (by decide))

theorem spanText_ne_empty (n : Nat) : spanText n ≠ "" := by
  intro h
  have hspells := spellsSpan_spanText n
  rw [h] at hspells
  exact hspells.ne_nil rfl

theorem remaining_eq_empty_iff : remaining now stop = "" ↔ ∀ t ∈ stop, t.nanosSince now < 0 := by
  constructor
  · rintro h t rfl
    by_cases hpassed : t.nanosSince now < 0
    · exact hpassed
    · obtain ⟨n, hn⟩ := exists_seconds (Int.not_lt.1 hpassed)
      exact absurd ((remaining_of_left hn).symm.trans h) (spanText_ne_empty n)
  · intro h
    cases stop with
    | none => rfl
    | some t => exact remaining_of_passed (h t rfl)

theorem remaining_eq_spanText_iff :
    remaining now stop = spanText n ↔ ∃ t ∈ stop, t.nanosSince now / nanosPerSecond = n := by
  constructor
  · intro h
    cases stop with
    | none => exact absurd h.symm (spanText_ne_empty n)
    | some t =>
      by_cases hpassed : t.nanosSince now < 0
      · exact absurd (h.symm.trans (remaining_of_passed hpassed)) (spanText_ne_empty n)
      · obtain ⟨m, hm⟩ := exists_seconds (Int.not_lt.1 hpassed)
        rw [remaining_of_left hm, spanText_inj] at h
        exact ⟨t, rfl, h ▸ hm⟩
  · rintro ⟨t, rfl, hn⟩
    exact remaining_of_left hn

end

/-- The text is empty if there is no end or it has passed, and otherwise says the whole seconds that are
left, of which every number has a text of its own. -/
theorem remaining_exact (now : Instant) (stop : Option Instant) :
    (∀ t ∈ stop, t.nanosSince now = t.nanosBeside now - now.nanosBeside t) ∧
    (remaining now stop = "" ↔ ∀ t ∈ stop, t.nanosSince now < 0) ∧
    ∀ t ∈ stop, 0 ≤ t.nanosSince now →
      (∃ n : Nat, t.nanosSince now / nanosPerSecond = n ∧
        SpellsSpan (remaining now stop).toList n) ∧
      ∀ now' stop', remaining now' stop' = remaining now stop ↔
        ∃ t' ∈ stop', t'.nanosSince now' / nanosPerSecond = t.nanosSince now / nanosPerSecond := by
  refine ⟨fun t _ => t.nanosSince_eq now, remaining_eq_empty_iff, ?_⟩
  rintro t rfl hleft
  obtain ⟨n, hn⟩ := exists_seconds hleft
  rw [remaining_of_left hn, hn]
  exact ⟨⟨n, rfl, spellsSpan_spanText n⟩, fun now' stop' => remaining_eq_spanText_iff⟩

def insideLeapSecond : Instant :=
  (Instant.of? 59 1500000000).get (by decide)

def twoDaysLater : Instant :=
  (Instant.of? 172860 0).get (by decide)

theorem remaining_exact_leapSecond :
    0 ≤ twoDaysLater.nanosSince insideLeapSecond ∧
      SpellsSpan (remaining insideLeapSecond (some twoDaysLater)).toList 172800 := by
  have hleft : 0 ≤ twoDaysLater.nanosSince insideLeapSecond := by decide
  obtain ⟨-, -, hspan⟩ := remaining_exact insideLeapSecond (some twoDaysLater)
  obtain ⟨⟨n, hn, hspells⟩, -⟩ := hspan twoDaysLater rfl hleft
  have hseconds : twoDaysLater.nanosSince insideLeapSecond / nanosPerSecond = (172800 : Nat) := by decide
  cases Int.ofNat.inj (hn.symm.trans hseconds)
  exact ⟨hleft, hspells⟩

example : remaining insideLeapSecond (some twoDaysLater) = "2 days, 0:00:00" := by
  decide +kernel

end DhcpLeases
