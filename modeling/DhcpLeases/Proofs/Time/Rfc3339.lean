import DhcpLeases.Proofs.Time.Fields
import DhcpLeases.Proofs.Time.Reading
import DhcpLeases.Time.Rfc3339

namespace DhcpLeases.Time.Rfc3339

open DhcpLeases.Text

theorem fraction?_padded {width n : Nat} {rest : List Char} (hwidth : 0 < width ∧ width ≤ 9)
    (h : n < 10 ^ width) (hrest : ∀ c ∈ rest.head?, Decimal.isDigit c = false) :
    fraction? ('.' :: Decimal.padded width n ++ rest) = some (n * Nat.pow 10 (9 - width), rest) := by
  have hne := Decimal.padded_ne_nil width n
  have hlength := Decimal.length_padded hwidth.1 h
  have hvalue := Decimal.value_padded width n
  have hspan : Decimal.spanUpTo 9 (Decimal.padded width n ++ rest) = (Decimal.padded width n, rest) :=
    Decimal.IsSpan.spanUpTo_append ⟨Decimal.isDigit_of_mem_padded width n,
      Nat.le_trans (Nat.le_of_eq hlength) hwidth.2, fun _ => hrest⟩
  have hdrop : rest.dropWhile Decimal.isDigit = rest :=
    (takeWhile_dropWhile_append (fun _ hc => absurd hc List.not_mem_nil) hrest).2
  generalize Decimal.padded width n = ds at hne hlength hvalue hspan
  obtain ⟨d, ds, rfl⟩ := List.exists_cons_of_ne_nil hne
  rw [List.cons_append, fraction?, hspan]
  simp only [hvalue, hlength, hdrop]

theorem fraction?_fractionText {n : Nat} (h : n < nanosPerSecond) :
    fraction? (fractionText n ++ ['Z']) = some (n, ['Z']) := by
  have hmark := Decimal.ends_at_mark (show Decimal.isDigit 'Z' = false from rfl) []
  unfold nanosPerSecond at h
  unfold fractionText
  split
  · next hzero =>
    rw [hzero]
    rfl
  split
  · next hmillis =>
    have hvalue : n / 1000000 * Nat.pow 10 (9 - 3) = n := by
      change n / 1000000 * 1000000 = n
      omega
    rw [fraction?_padded (by decide) (by omega) hmark, hvalue]
  split
  · next hmicros =>
    have hvalue : n / 1000 * Nat.pow 10 (9 - 6) = n := by
      change n / 1000 * 1000 = n
      omega
    rw [fraction?_padded (by decide) (by omega) hmark, hvalue]
  · rw [fraction?_padded (by decide) (by omega) hmark]
    exact congrArg some (congrArg (·, ['Z']) (Nat.mul_one n))

theorem toUtc?_zero (t : Instant) : toUtc? t 0 = some t := by
  rw [toUtc?, if_pos (by decide), Int.sub_zero]
  exact t.of?_self

/-- Instants that a clock shows alike have one text. -/
theorem write_carried (t : Instant) : write t.carried = write t := by
  obtain ⟨hreading, hfraction⟩ := t.reading_carried
  rw [write, write, hreading, hfraction]

theorem read?_write {t : Instant} (h : t.EndsMinute) : read? (write t).toList = some t := by
  obtain ⟨hmonth, hday, hhour, hminute, hsecond⟩ := t.isValid_reading.lt_hundred
  have hback := Instant.ofReading?_of_endsMinute h
  have hfraction := fraction?_fractionText (Nat.mod_lt t.nanos (by decide : 0 < nanosPerSecond))
  rw [write, String.toList_ofList]
  generalize t.reading = r at hmonth hday hhour hminute hsecond hback ⊢
  simp only [List.append_assoc, List.cons_append]
  rw [read?, yearField?_mark (show Decimal.isDigit '-' = false from rfl)]
  -- the marks between the fields and the final `Z` are passed by evaluation
  change (numberField? 2 _).bind _ = _
  rw [numberField?_two hmonth]
  change (numberField? 2 _).bind _ = _
  rw [numberField?_two hday]
  change (numberField? 2 _).bind _ = _
  rw [numberField?_two hhour]
  change (numberField? 2 _).bind _ = _
  rw [numberField?_two hminute]
  change (numberField? 2 _).bind _ = _
  rw [numberField?_two hsecond]
  change (fraction? _).bind _ = _
  rw [hfraction]
  change (Instant.ofReading? r _).bind (toUtc? · 0) = _
  rw [hback]
  exact toUtc?_zero t

example : (Instant.of? (-62167219201) 1500000000).map write = some "-0001-12-31T23:59:60.500Z" := by
  decide +kernel

end DhcpLeases.Time.Rfc3339
