import DhcpLeases.Text.Basic
import Mathlib.Algebra.Group.Nat.Defs

namespace DhcpLeases.Text

theorem takeWhile_dropWhile_append {p : Char → Bool} {cs rest : List Char} (hcs : ∀ c ∈ cs, p c)
    (hrest : ∀ c ∈ rest.head?, p c = false) :
    (cs ++ rest).takeWhile p = cs ∧ (cs ++ rest).dropWhile p = rest := by
  have hend : rest.takeWhile p = [] ∧ rest.dropWhile p = rest := by
    cases rest with
    | nil => exact ⟨rfl, rfl⟩
    | cons c rest =>
      have hc := hrest c rfl
      rw [List.takeWhile_cons, List.dropWhile_cons, hc]
      exact ⟨rfl, rfl⟩
  rw [List.takeWhile_append_of_pos hcs, List.dropWhile_append_of_pos hcs, hend.1, hend.2,
    List.append_nil]
  exact ⟨rfl, rfl⟩

namespace Decimal

theorem digit?_digitChar (n : Nat) : digit? (digitChar n) = some (n % 10) := by
  have h : ∀ m < 10, digit? (Char.ofNat ('0'.toNat + m)) = some m := by decide
  exact h _ (Nat.mod_lt n (by decide))

theorem isDigit_digitChar (n : Nat) : isDigit (digitChar n) := by
  rw [isDigit, digit?_digitChar]
  rfl

theorem isDigit_of_mem_digits {n : Nat} : ∀ c ∈ digits n, isDigit c := by
  induction n using digits.induct with
  | case1 n h =>
    intro c hc
    rw [digits, if_pos h, List.mem_singleton] at hc
    rw [hc]
    exact isDigit_digitChar n
  | case2 n h ih =>
    intro c hc
    rw [digits, if_neg h, List.mem_append, List.mem_singleton] at hc
    rcases hc with hc | hc
    · exact ih c hc
    · rw [hc]
      exact isDigit_digitChar n

theorem digits_ne_nil (n : Nat) : digits n ≠ [] := by
  rw [digits]
  split
  · exact List.cons_ne_nil _ _
  · exact List.append_ne_nil_of_right_ne_nil _ (List.cons_ne_nil _ _)

theorem length_digits_le {k : Nat} : ∀ {n : Nat}, n < 10 ^ (k + 1) → (digits n).length ≤ k + 1 := by
  induction k with
  | zero =>
    intro n h
    have hn : n < 10 := h
    rw [digits, if_pos hn]
    exact Nat.le_refl 1
  | succ k ih =>
    intro n h
    rw [digits]
    split
    · exact Nat.succ_le_succ (Nat.zero_le _)
    · have hn := @ih (n / 10) (by rw [Nat.pow_succ] at h; omega)
      rw [List.length_append]
      exact Nat.succ_le_succ hn

theorem head?_digits {n : Nat} (h : 0 < n) : (digits n).head? ≠ some '0' := by
  induction n using digits.induct with
  | case1 n hn =>
    have hzero : ∀ m < 10, 0 < m → ([digitChar m] : List Char).head? ≠ some '0' := by decide
    rw [digits, if_pos hn]
    exact hzero n hn h
  | case2 n hn ih =>
    obtain ⟨c, cs, hcs⟩ := List.exists_cons_of_ne_nil (digits_ne_nil (n / 10))
    have hhead := ih (by omega)
    rw [digits, if_neg hn]
    rw [hcs] at hhead ⊢
    exact hhead

theorem bounds_of_isDigit {c : Char} (h : isDigit c) : 48 ≤ c.toNat ∧ c.toNat ≤ 57 := by
  unfold isDigit digit? at h
  split at h
  · next hc => exact hc
  · cases h

theorem isBlank_of_isDigit {c : Char} (h : isDigit c) : isBlank c = false := by
  have hc := bounds_of_isDigit h
  simp only [isBlank, Bool.or_eq_false_iff, Bool.and_eq_false_iff, decide_eq_false_iff_not,
    beq_eq_false_iff_ne]
  omega

theorem value_append (ds : List Char) (n : Nat) :
    value (ds ++ [digitChar n]) = value ds * 10 + n % 10 := by
  rw [value, value, List.foldl_append, List.foldl_cons, List.foldl_nil, digit?_digitChar]
  rfl

theorem value_digits (n : Nat) : value (digits n) = n := by
  induction n using digits.induct with
  | case1 n h =>
    have hone : value [digitChar n] = 0 * 10 + n % 10 := value_append [] n
    rw [digits, if_pos h, hone]
    omega
  | case2 n h ih =>
    rw [digits, if_neg h, value_append, ih]
    omega

theorem padded_eq (width n : Nat) :
    padded width n = List.replicate (width - (digits n).length) '0' ++ digits n :=
  rfl

theorem isDigit_of_mem_padded (width n : Nat) : ∀ c ∈ padded width n, isDigit c := by
  intro c hc
  rw [padded_eq, List.mem_append] at hc
  rcases hc with hc | hc
  · rw [List.eq_of_mem_replicate hc]
    rfl
  · exact isDigit_of_mem_digits c hc

theorem padded_ne_nil (width n : Nat) : padded width n ≠ [] :=
  List.append_ne_nil_of_right_ne_nil _ (digits_ne_nil n)

theorem length_padded {width n : Nat} (hwidth : 0 < width) (h : n < 10 ^ width) :
    (padded width n).length = width := by
  obtain ⟨k, rfl⟩ := Nat.exists_eq_add_one.2 hwidth
  have hlength := length_digits_le h
  rw [padded_eq, List.length_append, List.length_replicate]
  omega

theorem value_padded (width n : Nat) : value (padded width n) = n := by
  have hzeros (k : Nat) : value (List.replicate k '0' ++ digits n) = value (digits n) := by
    induction k with
    | zero => rfl
    | succ k ih => exact ih
  rw [padded_eq, hzeros, value_digits]

theorem ends_at_mark {mark : Char} (h : isDigit mark = false) (rest : List Char) :
    ∀ c ∈ (mark :: rest).head?, isDigit c = false := by
  intro c hc
  cases hc
  exact h

theorem span_append {ds rest : List Char} (hds : ∀ c ∈ ds, isDigit c)
    (hrest : ∀ c ∈ rest.head?, isDigit c = false) : span (ds ++ rest) = (ds, rest) := by
  obtain ⟨htake, hdrop⟩ := takeWhile_dropWhile_append hds hrest
  rw [span, htake, hdrop]

theorem spanUpTo_zero (cs : List Char) : spanUpTo 0 cs = ([], cs) := by
  cases cs with
  | nil => rfl
  | cons _ _ => rfl

/-- Digits in front of a text, as many as there are or as the limit allows. -/
structure IsSpan (limit : Nat) (ds rest : List Char) : Prop where
  isDigit : ∀ c ∈ ds, isDigit c
  length_le : ds.length ≤ limit
  ends : ds.length < limit → ∀ c ∈ rest.head?, Decimal.isDigit c = false

theorem IsSpan.full {ds : List Char} (hds : ∀ c ∈ ds, Decimal.isDigit c) (rest : List Char) :
    IsSpan ds.length ds rest :=
  ⟨hds, Nat.le_refl _, fun h => absurd h (Nat.lt_irrefl _)⟩

theorem IsSpan.spanUpTo_append {limit : Nat} {ds rest : List Char} (h : IsSpan limit ds rest) :
    spanUpTo limit (ds ++ rest) = (ds, rest) := by
  induction ds generalizing limit with
  | nil =>
    cases limit with
    | zero => exact spanUpTo_zero rest
    | succ limit =>
      cases rest with
      | nil => rfl
      | cons c rest =>
        rw [List.nil_append, spanUpTo, h.ends (Nat.succ_pos limit) c rfl]
        rfl
  | cons d ds ih =>
    cases limit with
    | zero => exact absurd h.length_le (Nat.not_succ_le_zero _)
    | succ limit =>
      have htail : IsSpan limit ds rest :=
        ⟨fun c hc => h.isDigit c (List.mem_cons_of_mem d hc), Nat.le_of_succ_le_succ h.length_le,
          fun hlt => h.ends (Nat.succ_lt_succ hlt)⟩
      rw [List.cons_append, spanUpTo, if_pos (h.isDigit d List.mem_cons_self), ih htail]

theorem integer?_digits (n : Nat) : integer? (digits n) = some (n : Int) := by
  have hall : (digits n).all isDigit := List.all_eq_true.2 isDigit_of_mem_digits
  have hne := digits_ne_nil n
  unfold integer?
  split
  · next ds h => exact absurd (isDigit_of_mem_digits '-' (h ▸ List.mem_cons_self)) (by decide)
  · next ds h => exact absurd (isDigit_of_mem_digits '+' (h ▸ List.mem_cons_self)) (by decide)
  · simp only [if_pos (And.intro hne hall), value_digits]
    rfl

theorem integer?_signed (n : Int) : integer? (signed n) = some n := by
  unfold signed
  split
  · next h =>
    have hall : (digits n.natAbs).all isDigit := List.all_eq_true.2 isDigit_of_mem_digits
    have hne := digits_ne_nil n.natAbs
    have habs : -(n.natAbs : Int) = n := by omega
    simp only [integer?, if_pos (And.intro hne hall), value_digits]
    exact congrArg some habs
  · next h =>
    rw [integer?_digits]
    exact congrArg some (by omega)

end Decimal

end DhcpLeases.Text
