import DhcpLeases.Address
import DhcpLeases.Proofs.Text.Decimal

namespace DhcpLeases.Address

open DhcpLeases.Text

def following (separator : Char) (write : Nat → List Char) (ns : List Nat) : List Char :=
  ns.flatMap fun n => separator :: write n

theorem intercalate_eq (separator : Char) (write : Nat → List Char) (n : Nat) (ns : List Nat) :
    [separator].intercalate ((n :: ns).map write) = write n ++ following separator write ns := by
  induction ns generalizing n with
  | nil => simp [following, List.intercalate]
  | cons m ns ih =>
    rw [List.map_cons, List.map_cons, List.intercalate_cons_cons, ← List.map_cons, ih]
    simp [following]

theorem mem_of_mem_intercalate {separator : Char} {write : Nat → List Char} {ns : List Nat} {c : Char}
    (h : c ∈ [separator].intercalate (ns.map write)) : c = separator ∨ ∃ n, c ∈ write n := by
  cases ns with
  | nil => cases h
  | cons n ns =>
    rw [intercalate_eq, List.mem_append] at h
    rcases h with h | h
    · exact .inr ⟨n, h⟩
    · obtain ⟨m, _, hm⟩ := List.mem_flatMap.1 h
      rcases List.mem_cons.1 hm with hm | hm
      · exact .inl hm
      · exact .inr ⟨m, hm⟩

theorem separated?_following {separator : Char} {part? : List Char → Option (Nat × List Char)}
    {write : Nat → List Char} {ns : List Nat} {rest : List Char}
    (hpart : ∀ n ∈ ns, ∀ cs : List Char, cs.head? = rest.head? ∨ cs.head? = some separator →
      part? (write n ++ cs) = some (n, cs)) :
    separated? separator part? ns.length (following separator write ns ++ rest) = some (ns, rest) := by
  induction ns with
  | nil => rfl
  | cons n ns ih =>
    have hhead : (following separator write ns ++ rest).head? = rest.head? ∨
        (following separator write ns ++ rest).head? = some separator := by
      cases ns with
      | nil => exact .inl rfl
      | cons m ns => exact .inr rfl
    have hn := hpart n List.mem_cons_self _ hhead
    have hns := ih fun m hm => hpart m (List.mem_cons_of_mem n hm)
    have htext : following separator write (n :: ns) ++ rest =
        separator :: (write n ++ (following separator write ns ++ rest)) := by
      simp [following]
    rw [htext, List.length_cons, separated?, if_pos rfl, hn]
    simp [hns]

theorem octet?_digits {n : Nat} (hn : n < 256) {rest : List Char}
    (hrest : ∀ c ∈ rest.head?, Decimal.isDigit c = false) :
    octet? (Decimal.digits n ++ rest) = some (n, rest) := by
  have hspan : Decimal.span (Decimal.digits n ++ rest) = (Decimal.digits n, rest) :=
    Decimal.span_append Decimal.isDigit_of_mem_digits hrest
  have hlength : (Decimal.digits n).length ≤ 3 := Decimal.length_digits_le (by omega)
  have hhead : (Decimal.digits n).head? = some '0' → (Decimal.digits n).length = 1 := by
    intro h
    rcases Nat.eq_zero_or_pos n with rfl | hpos
    · rw [Decimal.digits]
      rfl
    · exact absurd h (Decimal.head?_digits hpos)
  obtain ⟨c, cs, hcs⟩ := List.exists_cons_of_ne_nil (Decimal.digits_ne_nil n)
  have hvalue := Decimal.value_digits n
  rw [octet?, hspan]
  rw [hcs] at hlength hhead hvalue ⊢
  simp only [hvalue, if_pos (And.intro hlength (And.intro hhead hn))]

theorem quad?_quadText {os : List Nat} (hlength : os.length = 4) (hos : ∀ n ∈ os, n < 256) :
    quad? (quadText os) = some (os, []) := by
  obtain ⟨n, ns, rfl⟩ := List.exists_cons_of_length_eq_add_one hlength
  have hfirst : octet? (Decimal.digits n ++ following '.' Decimal.digits ns) =
      some (n, following '.' Decimal.digits ns) := by
    apply octet?_digits (hos n List.mem_cons_self)
    intro c hc
    cases ns with
    | nil => cases hc
    | cons m ns =>
      cases hc
      decide
  have hmore : separated? '.' octet? ns.length (following '.' Decimal.digits ns ++ []) =
      some (ns, []) := by
    apply separated?_following
    intro m hm cs hcs
    apply octet?_digits (hos m (List.mem_cons_of_mem n hm))
    intro c hc
    rcases hcs with hcs | hcs <;> rw [hcs] at hc
    · cases hc
    · cases hc
      decide
  rw [Nat.succ.inj hlength, List.append_nil] at hmore
  rw [quadText, intercalate_eq, quad?, hfirst]
  simp [hmore]

theorem mem_of_octet? {cs rest : List Char} {n : Nat} (h : octet? cs = some (n, rest)) :
    ∀ c ∈ rest, c ∈ cs := by
  intro c hc
  unfold octet? Decimal.span at h
  split at h
  · cases h
  · next ds more hne hspan =>
    split at h
    · cases h
      rw [Prod.mk.injEq] at hspan
      rw [← hspan.2] at hc
      exact (List.dropWhile_suffix Decimal.isDigit).mem hc
    · cases h

theorem quad?_eq_none {cs : List Char} (h : '.' ∉ cs) : quad? cs = none := by
  cases hfirst : octet? cs with
  | none => rw [quad?, hfirst]; rfl
  | some p =>
    obtain ⟨n, rest⟩ := p
    have hrest : '.' ∉ rest := fun hmem => h (mem_of_octet? hfirst _ hmem)
    have hmore : separated? '.' octet? 3 rest = none := by
      cases rest with
      | nil => rfl
      | cons c rest =>
        rw [separated?, if_neg]
        rintro rfl
        exact hrest List.mem_cons_self
    rw [quad?, hfirst]
    simp [hmore]

theorem mem_quadText {os : List Nat} {c : Char} (h : c ∈ quadText os) :
    Decimal.isDigit c ∨ c = '.' := by
  rcases mem_of_mem_intercalate h with h | ⟨n, h⟩
  · exact .inr h
  · exact .inl (Decimal.isDigit_of_mem_digits c h)

end DhcpLeases.Address
