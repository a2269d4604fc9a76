import DhcpLeases.Proofs.Time.Fields
import DhcpLeases.Proofs.Time.Order

namespace DhcpLeases.Time.Stamp

open Text

/-- A date and a time of day as they can be written. -/
structure Spelling where
  year : YearNumeral
  month : Numeral
  day : Numeral
  hour : Numeral
  minute : Numeral
  second : Numeral
  short : ∀ n ∈ [month, day, hour, minute, second], n.digits.length ≤ 2
  /-- The hour does not lend its first digit to the day. -/
  apart : day.digits.length < 2 → hour.blanks ≠ []

namespace Spelling

def chars (s : Spelling) : List Char :=
  s.year.chars ++ '/' :: (s.month.chars ++ '/' :: (s.day.chars ++ (s.hour.chars ++
    ':' :: (s.minute.chars ++ ':' :: s.second.chars))))

def reading (s : Spelling) : Reading :=
  ⟨⟨s.year.year, s.month.value, s.day.value⟩, s.hour.value, s.minute.value, s.second.value⟩

end Spelling

namespace Spelling

theorem isSpan_mark (s : Spelling) {n : Numeral}
    (hn : n ∈ [s.month, s.day, s.hour, s.minute, s.second]) {mark : Char}
    (hmark : Decimal.isDigit mark = false) (rest : List Char) :
    Decimal.IsSpan 2 n.digits (mark :: rest) :=
  ⟨n.isDigit, s.short n hn, fun _ => Decimal.ends_at_mark hmark rest⟩

/-- White space or its second digit ends a day. -/
theorem isSpan_day (s : Spelling) (rest : List Char) :
    Decimal.IsSpan 2 s.day.digits (s.hour.chars ++ rest) := by
  refine ⟨s.day.isDigit, s.short _ (by simp), fun hshort c hc => ?_⟩
  obtain ⟨b, bs, hblanks⟩ := List.exists_cons_of_ne_nil (s.apart hshort)
  have hb := s.hour.isBlank b (hblanks ▸ List.mem_cons_self)
  rw [Numeral.chars, hblanks] at hc
  cases hc
  cases hdigit : Decimal.isDigit c with
  | false => rfl
  | true =>
    rw [Decimal.isBlank_of_isDigit hdigit] at hb
    cases hb

end Spelling

theorem read?_chars (s : Spelling) : read? s.chars = Instant.ofReading? s.reading 0 := by
  have hslash : Decimal.isDigit '/' = false := rfl
  have hcolon : Decimal.isDigit ':' = false := rfl
  have hsecond : Decimal.IsSpan 2 s.second.digits [] :=
    ⟨s.second.isDigit, s.short _ (by simp), fun _ => by simp⟩
  rw [read?, Spelling.chars, yearField?_chars s.year (Decimal.ends_at_mark hslash _)]
  change (numberField? 2 _).bind _ = _
  rw [numberField?_chars s.month (s.isSpan_mark (by simp) hslash _)]
  change (numberField? 2 _).bind _ = _
  rw [numberField?_chars s.day (s.isSpan_day _)]
  change (numberField? 2 _).bind _ = _
  rw [numberField?_chars s.hour (s.isSpan_mark (by simp) hcolon _)]
  change (numberField? 2 _).bind _ = _
  rw [numberField?_chars s.minute (s.isSpan_mark (by simp) hcolon _)]
  change (numberField? 2 _).bind _ = _
  rw [← List.append_nil s.second.chars, numberField?_chars s.second hsecond]
  rfl

end DhcpLeases.Time.Stamp
