import DhcpLeases.Proofs.Text.Decimal
import DhcpLeases.Time.Stamp

namespace DhcpLeases.Time

open DhcpLeases.Text

variable {cs rest : List Char}

theorem skipBlanks_append {blanks : List Char} (hblanks : ∀ c ∈ blanks, isBlank c)
    (hcs : ∀ c ∈ cs.head?, isBlank c = false) : skipBlanks (blanks ++ cs) = cs :=
  (takeWhile_dropWhile_append hblanks hcs).2

/-- A number as it can be written: digits, behind any white space. -/
structure Numeral where
  blanks : List Char
  digits : List Char
  isBlank : ∀ c ∈ blanks, isBlank c
  isDigit : ∀ c ∈ digits, Decimal.isDigit c
  ne_nil : digits ≠ []

namespace Numeral

def chars (n : Numeral) : List Char :=
  n.blanks ++ n.digits

def value (n : Numeral) : Nat :=
  Decimal.value n.digits

def padded (width n : Nat) : Numeral :=
  ⟨[], Decimal.padded width n, List.forall_mem_nil _, Decimal.isDigit_of_mem_padded width n,
    Decimal.padded_ne_nil width n⟩

theorem isDigit_head (n : Numeral) {c : Char} (h : c ∈ (n.digits ++ rest).head?) :
    Decimal.isDigit c := by
  obtain ⟨d, ds, hds⟩ := List.exists_cons_of_ne_nil n.ne_nil
  have hmem : c ∈ n.digits := by
    rw [hds] at h ⊢
    cases h
    exact List.mem_cons_self
  exact n.isDigit c hmem

theorem isBlank_head (n : Numeral) (rest : List Char) :
    ∀ c ∈ (n.digits ++ rest).head?, Text.isBlank c = false :=
  fun _ hc => Decimal.isBlank_of_isDigit (n.isDigit_head hc)

end Numeral

theorem numberField?_chars {limit : Nat} (n : Numeral) (h : Decimal.IsSpan limit n.digits rest) :
    numberField? limit (n.chars ++ rest) = some (n.value, rest) := by
  rw [numberField?, Numeral.chars, List.append_assoc,
    skipBlanks_append n.isBlank (n.isBlank_head rest), h.spanUpTo_append]
  split
  · next heq => exact absurd (Prod.mk.inj heq).1 n.ne_nil
  · next heq =>
    cases heq
    rfl

theorem numberField?_padded {width n : Nat} (hwidth : 0 < width) (h : n < 10 ^ width) :
    numberField? width (Decimal.padded width n ++ rest) = some (n, rest) := by
  have hspan := Decimal.IsSpan.full (Decimal.isDigit_of_mem_padded width n) rest
  rw [Decimal.length_padded hwidth h] at hspan
  have hread := numberField?_chars (Numeral.padded width n) hspan
  rwa [Numeral.value, Numeral.padded, Decimal.value_padded] at hread

theorem numberField?_two {n : Nat} (h : n < 100) :
    numberField? 2 (Decimal.padded 2 n ++ rest) = some (n, rest) :=
  numberField?_padded (by decide) h

inductive Sign where
  | plus
  | minus
  deriving DecidableEq

def Sign.char : Sign → Char
  | plus => '+'
  | minus => '-'

/-- A year as it can be written: in up to four digits, or with a sign and in any number of them. -/
structure YearNumeral extends Numeral where
  sign : Option Sign
  short : sign = none → digits.length ≤ 4

namespace YearNumeral

def chars (n : YearNumeral) : List Char :=
  n.blanks ++ (n.sign.toList.map Sign.char ++ n.digits)

def year (n : YearNumeral) : Int :=
  if n.sign = some .minus then -(n.value : Int) else n.value

end YearNumeral

theorem yearField?_plain (n : Numeral) (hshort : n.digits.length ≤ 4)
    (hrest : ∀ c ∈ rest.head?, Decimal.isDigit c = false) :
    yearField? (n.chars ++ rest) = some ((n.value : Int), rest) := by
  have hskip : skipBlanks (n.chars ++ rest) = n.digits ++ rest := by
    rw [Numeral.chars, List.append_assoc]
    exact skipBlanks_append n.isBlank (n.isBlank_head rest)
  have hread : numberField? 4 (n.digits ++ rest) = some (n.value, rest) :=
    numberField?_chars ⟨[], n.digits, List.forall_mem_nil _, n.isDigit, n.ne_nil⟩
      ⟨n.isDigit, hshort, fun _ => hrest⟩
  have hhead {c : Char} {cs : List Char} (h : n.digits ++ rest = c :: cs) : Decimal.isDigit c := by
    apply n.isDigit_head
    rw [h]
    rfl
  rw [yearField?, hskip]
  split
  · next h => exact absurd (hhead h) (by decide)
  · next h => exact absurd (hhead h) (by decide)
  · rw [hread]
    rfl

theorem yearField?_signed (n : Numeral) (sign : Sign)
    (hrest : ∀ c ∈ rest.head?, Decimal.isDigit c = false) :
    yearField? (n.blanks ++ (sign.char :: (n.digits ++ rest))) =
      some (if sign = .minus then -(n.value : Int) else n.value, rest) := by
  have hskip : skipBlanks (n.blanks ++ (sign.char :: (n.digits ++ rest))) =
      sign.char :: (n.digits ++ rest) := by
    apply skipBlanks_append n.isBlank
    intro c hc
    cases hc
    cases sign with
    | plus => rfl
    | minus => rfl
  have hspan := Decimal.span_append n.isDigit hrest
  obtain ⟨d, ds, hds⟩ := List.exists_cons_of_ne_nil n.ne_nil
  rw [hds] at hskip hspan ⊢
  rw [Numeral.value, hds]
  cases sign with
  | plus =>
    have hskip : skipBlanks (n.blanks ++ '+' :: (d :: ds ++ rest)) = '+' :: (d :: ds ++ rest) := hskip
    simp only [yearField?, Sign.char, hskip, hspan, Option.map_some]
    rfl
  | minus =>
    have hskip : skipBlanks (n.blanks ++ '-' :: (d :: ds ++ rest)) = '-' :: (d :: ds ++ rest) := hskip
    simp only [yearField?, Sign.char, hskip, hspan, Option.map_some]
    rfl

theorem yearField?_chars (n : YearNumeral) (hrest : ∀ c ∈ rest.head?, Decimal.isDigit c = false) :
    yearField? (n.chars ++ rest) = some (n.year, rest) := by
  obtain ⟨n, sign, hshort⟩ := n
  cases sign with
  | none => exact yearField?_plain n (hshort rfl) hrest
  | some sign =>
    have hread := yearField?_signed n sign hrest
    rw [YearNumeral.chars, YearNumeral.year, List.append_assoc]
    simp only [Option.some.injEq]
    exact hread

namespace YearNumeral

def signOf? (y : Int) : Option Sign :=
  if 0 ≤ y ∧ y ≤ 9999 then none else some (if y < 0 then .minus else .plus)

theorem length_padded_of_signOf? {y : Int} (h : signOf? y = none) :
    (Decimal.padded 4 y.natAbs).length ≤ 4 := by
  unfold signOf? at h
  split at h
  · exact Nat.le_of_eq (Decimal.length_padded (by decide) (by omega))
  · cases h

def ofYear (y : Int) : YearNumeral :=
  ⟨.padded 4 y.natAbs, signOf? y, length_padded_of_signOf?⟩

theorem chars_ofYear (y : Int) : (ofYear y).chars = yearText y := by
  change (signOf? y).toList.map Sign.char ++ Decimal.padded 4 y.natAbs = _
  unfold signOf? yearText
  split
  · have hy : y.natAbs = y.toNat := by omega
    rw [hy]
    rfl
  · split
    · rfl
    · rfl

theorem year_ofYear (y : Int) : (ofYear y).year = y := by
  have hvalue : (ofYear y).value = y.natAbs := Decimal.value_padded 4 y.natAbs
  have hsign : (ofYear y).sign = some .minus ↔ y < 0 := by
    change signOf? y = some .minus ↔ y < 0
    unfold signOf?
    split
    · simp only [reduceCtorEq, false_iff]
      omega
    · split
      · simpa only [true_iff]
      · simpa only [Option.some.injEq, reduceCtorEq, false_iff]
  rw [year, hvalue]
  simp only [hsign]
  split
  · omega
  · omega

end YearNumeral

theorem yearField?_yearText (y : Int) (hrest : ∀ c ∈ rest.head?, Decimal.isDigit c = false) :
    yearField? (yearText y ++ rest) = some (y, rest) := by
  have hread := yearField?_chars (.ofYear y) hrest
  rwa [YearNumeral.chars_ofYear, YearNumeral.year_ofYear] at hread

theorem yearField?_mark {mark : Char} (h : Decimal.isDigit mark = false) (y : Int) :
    yearField? (yearText y ++ mark :: rest) = some (y, mark :: rest) :=
  yearField?_yearText y (Decimal.ends_at_mark h rest)

theorem isBlank_padded {width n : Nat} : ∀ c ∈ Decimal.padded width n, isBlank c = false :=
  fun c hc => Decimal.isBlank_of_isDigit (Decimal.isDigit_of_mem_padded width n c hc)

theorem isBlank_yearText (y : Int) : ∀ c ∈ yearText y, isBlank c = false := by
  unfold yearText
  split
  · exact isBlank_padded
  · rw [List.forall_mem_cons]
    refine ⟨?_, isBlank_padded⟩
    split
    · rfl
    · rfl

end DhcpLeases.Time
