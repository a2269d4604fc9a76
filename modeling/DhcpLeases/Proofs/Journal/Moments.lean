import DhcpLeases.Journal.Clause
import DhcpLeases.Proofs.Time.WrittenStamps

namespace DhcpLeases

namespace Time.Stamp

open DhcpLeases.Text

def dateText (d : Date) : List Char :=
  yearText d.year ++ '/' :: Decimal.padded 2 d.month ++ '/' :: Decimal.padded 2 d.day

def clockText (r : Reading) : List Char :=
  Decimal.padded 2 r.hour ++ ':' :: Decimal.padded 2 r.minute ++ ':' :: Decimal.padded 2 r.second

theorem write_eq (r : Reading) :
    write r = String.ofList (dateText r.date) ++ " " ++ String.ofList (clockText r) := by
  have hspace : " " = String.ofList [' '] := rfl
  rw [hspace, ← String.ofList_append, ← String.ofList_append, write]
  simp only [dateText, clockText, List.append_assoc, List.cons_append, List.nil_append]

theorem isBlank_dateText (d : Date) : ∀ c ∈ dateText d, isBlank c = false := by
  simp only [dateText, List.forall_mem_append, List.forall_mem_cons]
  exact ⟨⟨isBlank_yearText _, rfl, isBlank_padded⟩, rfl, isBlank_padded⟩

theorem isBlank_clockText (r : Reading) : ∀ c ∈ clockText r, isBlank c = false := by
  simp only [clockText, List.forall_mem_append, List.forall_mem_cons]
  exact ⟨⟨isBlank_padded, rfl, isBlank_padded⟩, rfl, isBlank_padded⟩

def Spelling.ofReading {r : Reading} (h : r.IsValid) : Spelling where
  year := .ofYear r.date.year
  month := .padded 2 r.date.month
  day := .padded 2 r.date.day
  hour := { Numeral.padded 2 r.hour with blanks := [' '], isBlank := List.forall_mem_singleton.2 rfl }
  minute := .padded 2 r.minute
  second := .padded 2 r.second
  short := by
    obtain ⟨hmonth, hday, hhour, hminute, hsecond⟩ := h.lt_hundred
    have hlength {n : Nat} (hn : n < 100) : (Decimal.padded 2 n).length ≤ 2 :=
      Nat.le_of_eq (Decimal.length_padded (by decide) hn)
    simp only [List.forall_mem_cons]
    exact ⟨hlength hmonth, hlength hday, hlength hhour, hlength hminute, hlength hsecond,
      List.forall_mem_nil _⟩
  apart _ := List.cons_ne_nil _ _

theorem Spelling.chars_ofReading {r : Reading} (h : r.IsValid) :
    (ofReading h).chars = dateText r.date ++ ' ' :: clockText r := by
  simp only [dateText, clockText, chars, ofReading, YearNumeral.chars_ofYear, Numeral.chars,
    Numeral.padded, List.append_assoc, List.cons_append, List.nil_append]

theorem Spelling.reading_ofReading {r : Reading} (h : r.IsValid) : (ofReading h).reading = r := by
  simp only [reading, ofReading, YearNumeral.year_ofYear, Numeral.value, Numeral.padded,
    Decimal.value_padded]

theorem read?_texts {r : Reading} (h : r.IsValid) :
    read? (dateText r.date ++ ' ' :: clockText r) = Instant.ofReading? r 0 := by
  rw [← Spelling.chars_ofReading h, read?_chars, Spelling.reading_ofReading]

end Time.Stamp

namespace Journal

open Text Time

theorem moment?_epoch {t : Instant} (h : t.nanos = 0) :
    moment? ["epoch", ofInt t.seconds] = some t := by
  obtain ⟨seconds, nanos, hlow, hhigh, hlt⟩ := t
  subst h
  have hread (s : String) : moment? ["epoch", s] =
      (Decimal.integer? s.toList).bind (Instant.of? · 0) := rfl
  rw [hread, ofInt, String.toList_ofList, Decimal.integer?_signed]
  exact dif_pos ⟨hlow, hhigh, hlt⟩

theorem moment?_weekday {weekday : String} (h : weekday ≠ "epoch") {r : Reading} (hr : r.IsValid) :
    moment? [weekday, String.ofList (Stamp.dateText r.date), String.ofList (Stamp.clockText r)] =
      Instant.ofReading? r 0 := by
  rw [moment?, if_neg h, String.toList_ofList, String.toList_ofList]
  exact Stamp.read?_texts hr

end Journal

end DhcpLeases
