import DhcpLeases.Lease.Listing
import DhcpLeases.Proofs.Journal.Moments

namespace DhcpLeases

open Journal Text Time

/-- A text that shows the time so many seconds after 1970. It is empty if the calendar does not reach so far
and otherwise a date and a time of day, with a space between them, which say that time in a journal behind
any weekday, as the number of seconds does behind `epoch`. -/
structure ShowsSeconds (text : String) (seconds : Int) : Prop where
  beyond : seconds < minSeconds ∨ maxSeconds < seconds → text = ""
  within : minSeconds ≤ seconds → seconds ≤ maxSeconds → ∃ (t : Instant) (date clock : String),
    t.seconds = seconds ∧ t.nanos = 0 ∧ text = date ++ " " ++ clock ∧
      (∀ c ∈ date.toList ++ clock.toList, isBlank c = false) ∧
      moment? ["epoch", ofInt seconds] = some t ∧
      ∀ weekday ≠ "epoch", moment? [weekday, date, clock] = some t

namespace Time.Instant

variable {t : Instant}

theorem shift?_of_seconds (h : t.nanos = 0) (offset : Int) :
    t.shift? offset = of? (t.seconds + offset) 0 := by
  have hleap : ¬t.isLeap := by
    rw [isLeap, h]
    decide
  rw [shift?, if_neg fun hforward => hleap hforward.1, if_neg fun hbackward => hleap hbackward.1, h]

theorem of?_of_seconds {seconds : Int} (hge : minSeconds ≤ seconds) (hle : seconds ≤ maxSeconds) :
    ∃ t : Instant, of? seconds 0 = some t ∧ t.seconds = seconds ∧ t.nanos = 0 :=
  ⟨_, dif_pos ⟨hge, hle, by decide⟩, rfl, rfl⟩

theorem of?_beyond {seconds : Int} (h : seconds < minSeconds ∨ maxSeconds < seconds) :
    of? seconds 0 = none := by
  apply dif_neg
  rintro ⟨hge, hle, -⟩
  omega

theorem ofReading?_of_seconds (h : t.nanos = 0) : ofReading? t.reading 0 = some t := by
  have hback := ofReading?_of_endsMinute (endsMinute_of_seconds h)
  rwa [h, Nat.zero_mod] at hback

end Time.Instant

theorem Viewpoint.localTime_showsSeconds (v : Viewpoint) {t : Instant} (ht : t.nanos = 0) :
    ShowsSeconds (v.localTime (some t)) (t.seconds + v.offset) where
  beyond h := by
    rw [localTime, Option.bind_some, Instant.shift?_of_seconds ht, Instant.of?_beyond h]
  within hge hle := by
    obtain ⟨u, hof, hseconds, hnanos⟩ := Instant.of?_of_seconds hge hle
    refine ⟨u, String.ofList (Stamp.dateText u.reading.date), String.ofList (Stamp.clockText u.reading),
      hseconds, hnanos, ?_, ?_, ?_, ?_⟩
    · rw [localTime, Option.bind_some, Instant.shift?_of_seconds ht, hof]
      exact Stamp.write_eq u.reading
    · rw [String.toList_ofList, String.toList_ofList, List.forall_mem_append]
      exact ⟨Stamp.isBlank_dateText _, Stamp.isBlank_clockText _⟩
    · rw [← hseconds]
      exact moment?_epoch hnanos
    · intro weekday hweekday
      rw [moment?_weekday hweekday u.isValid_reading]
      exact Instant.ofReading?_of_seconds hnanos

/-- The start and the end of a listed lease read back from a journal as the times that they show. -/
theorem Viewpoint.list_showsSeconds (v : Viewpoint) (r : LeaseRecord) (t : Instant)
    (ht : t.nanos = 0) :
    (r.start = some t → ShowsSeconds (v.list r).start (t.seconds + v.offset)) ∧
    (r.stop = some t → ShowsSeconds (v.list r).stop (t.seconds + v.offset)) ∧
    moment? ["epoch", ofInt t.seconds] = some t := by
  have hshows := v.localTime_showsSeconds ht
  refine ⟨fun hstart => ?_, fun hstop => ?_, moment?_epoch ht⟩
  · rw [list, hstart]
    exact hshows
  · rw [list, hstop]
    exact hshows

def everlasting : LeaseRecord :=
  { LeaseRecord.bare (.v4 1) .active with
    start := Instant.of? minSeconds 0
    stop := Instant.of? maxSeconds 0 }

theorem Viewpoint.list_showsSeconds_everlasting :
    (∃ (t : Instant) (date clock : String), t.seconds = minSeconds + 3600 ∧
      (Viewpoint.list ⟨.epoch, 3600, "p"⟩ everlasting).start = date ++ " " ++ clock ∧
      moment? ["7", date, clock] = some t) ∧
    (Viewpoint.list ⟨.epoch, 3600, "p"⟩ everlasting).stop = "" := by
  obtain ⟨first, hfirst, hfirstSeconds, hfirstNanos⟩ :=
    Instant.of?_of_seconds (Int.le_refl minSeconds) (by decide)
  obtain ⟨last, hlast, hlastSeconds, hlastNanos⟩ :=
    Instant.of?_of_seconds (by decide) (Int.le_refl maxSeconds)
  obtain ⟨hstart, -, -⟩ := list_showsSeconds ⟨.epoch, 3600, "p"⟩ everlasting first hfirstNanos
  obtain ⟨-, hstop, -⟩ := list_showsSeconds ⟨.epoch, 3600, "p"⟩ everlasting last hlastNanos
  rw [hfirstSeconds] at hstart
  rw [hlastSeconds] at hstop
  obtain ⟨t, date, clock, hseconds, -, htext, -, -, hweekday⟩ :=
    (hstart hfirst).within (by decide) (by decide)
  exact ⟨⟨t, date, clock, hseconds, htext, hweekday "7" (by decide)⟩,
    (hstop hlast).beyond (.inr (by decide))⟩

end DhcpLeases
