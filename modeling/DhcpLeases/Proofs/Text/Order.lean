import DhcpLeases.Proofs.Text.Decimal

namespace DhcpLeases

theorem eq_then_of {o o₁ o₂ : Ordering} (hlt : o₁ = .lt → o = .lt) (hgt : o₁ = .gt → o = .gt)
    (heq : o₁ = .eq → o = o₂) : o = o₁.then o₂ := by
  cases o₁ with
  | lt => exact hlt rfl
  | eq => exact heq rfl
  | gt => exact hgt rfl

theorem compare_add_left (q m n : Nat) : compare (q + m) (q + n) = compare m n := by
  rw [Nat.compare_eq_ite_lt, Nat.compare_eq_ite_lt]
  simp only [Nat.add_lt_add_iff_left]

theorem compare_div_mod (k m n : Nat) :
    compare m n = (compare (m / k) (n / k)).then (compare (m % k) (n % k)) := by
  apply eq_then_of
  · intro h
    exact Nat.compare_eq_lt.2 (Nat.lt_of_div_lt_div (Nat.compare_eq_lt.1 h))
  · intro h
    exact Nat.compare_eq_gt.2 (Nat.lt_of_div_lt_div (Nat.compare_eq_gt.1 h))
  · intro h
    rw [Nat.compare_eq_eq] at h
    rw [← Nat.div_add_mod m k, ← Nat.div_add_mod n k, h, compare_add_left]
    simp

namespace Text

theorem compare_ofList_eq_lt_iff {cs ds : List Char} :
    compare (String.ofList cs) (String.ofList ds) = .lt ↔ cs < ds := by
  have hlt : compare (String.ofList cs) (String.ofList ds) = .lt ↔
      (String.ofList cs).toList < (String.ofList ds).toList := compareOfLessAndEq_eq_lt
  rwa [String.toList_ofList, String.toList_ofList] at hlt

theorem compare_ofList_cons (c d : Char) (cs ds : List Char) :
    compare (String.ofList (c :: cs)) (String.ofList (d :: ds)) =
      (compare c d).then (compare (String.ofList cs) (String.ofList ds)) := by
  have hlt {c d : Char} (h : compare c d = .lt) (cs ds : List Char) :
      compare (String.ofList (c :: cs)) (String.ofList (d :: ds)) = .lt :=
    compare_ofList_eq_lt_iff.2 (List.cons_lt_cons_iff.2 (.inl (compareOfLessAndEq_eq_lt.1 h)))
  apply eq_then_of
  · exact fun h => hlt h cs ds
  · exact fun h => Std.OrientedCmp.gt_of_lt (hlt (Std.OrientedCmp.lt_of_gt h) ds cs)
  · intro h
    cases Std.LawfulEqOrd.eq_of_compare h
    have hcons (cs ds : List Char) : c :: cs < c :: ds ↔ cs < ds := by
      simp
    cases h' : compare (String.ofList cs) (String.ofList ds) with
    | lt => exact compare_ofList_eq_lt_iff.2 ((hcons cs ds).2 (compare_ofList_eq_lt_iff.1 h'))
    | eq =>
      rw [String.ofList_injective (Std.LawfulEqOrd.eq_of_compare h'), Std.ReflOrd.compare_self]
    | gt =>
      have hgt := compare_ofList_eq_lt_iff.1 (Std.OrientedCmp.lt_of_gt h')
      exact Std.OrientedCmp.gt_of_lt (compare_ofList_eq_lt_iff.2 ((hcons ds cs).2 hgt))

theorem compare_ofList_append {cs ds : List Char} (h : cs.length = ds.length) (us vs : List Char) :
    compare (String.ofList (cs ++ us)) (String.ofList (ds ++ vs)) =
      (compare (String.ofList cs) (String.ofList ds)).then
        (compare (String.ofList us) (String.ofList vs)) := by
  induction cs generalizing ds with
  | nil =>
    cases ds with
    | nil => rfl
    | cons d ds => cases h
  | cons c cs ih =>
    cases ds with
    | nil => cases h
    | cons d ds =>
      rw [List.cons_append, List.cons_append, compare_ofList_cons, compare_ofList_cons,
        ih (Nat.succ.inj h), Ordering.then_assoc]

namespace Decimal

theorem compare_digitChar (m n : Nat) :
    compare (String.ofList [digitChar m]) (String.ofList [digitChar n]) = compare (m % 10) (n % 10) := by
  have h : ∀ a < 10, ∀ b < 10,
      compare (Char.ofNat ('0'.toNat + a)) (Char.ofNat ('0'.toNat + b)) = compare a b := by decide
  rw [compare_ofList_cons, Std.ReflOrd.compare_self, Ordering.then_eq]
  exact h _ (Nat.mod_lt m (by decide)) _ (Nat.mod_lt n (by decide))

theorem padded_succ {width : Nat} (hwidth : 0 < width) (n : Nat) :
    padded (width + 1) n = padded width (n / 10) ++ [digitChar n] := by
  by_cases hn : n < 10
  · obtain ⟨k, rfl⟩ := Nat.exists_eq_add_one.2 hwidth
    have hone : digits n = [digitChar n] := by rw [digits, if_pos hn]
    have hzero : digits (n / 10) = ['0'] := by
      rw [Nat.div_eq_of_lt hn, digits]
      rfl
    rw [padded_eq, padded_eq, hone, hzero]
    simp [List.replicate_succ']
  · have hdigits : digits n = digits (n / 10) ++ [digitChar n] := by rw [digits, if_neg hn]
    rw [padded_eq, padded_eq, hdigits, List.append_assoc, List.length_append, List.length_singleton,
      Nat.add_sub_add_right]

theorem padded_one {n : Nat} (h : n < 10) : padded 1 n = [digitChar n] := by
  have hdigits : digits n = [digitChar n] := by rw [digits, if_pos h]
  rw [padded_eq, hdigits]
  rfl

theorem compare_padded {width m n : Nat} (hwidth : 0 < width) (hm : m < 10 ^ width)
    (hn : n < 10 ^ width) :
    compare (String.ofList (padded width m)) (String.ofList (padded width n)) = compare m n := by
  obtain ⟨k, rfl⟩ := Nat.exists_eq_add_one.2 hwidth
  clear hwidth
  induction k generalizing m n with
  | zero =>
    have hm : m < 10 := hm
    have hn : n < 10 := hn
    rw [padded_one hm, padded_one hn, compare_digitChar, Nat.mod_eq_of_lt hm, Nat.mod_eq_of_lt hn]
  | succ k ih =>
    have hk := Nat.succ_pos k
    have hlow {n : Nat} (h : n < 10 ^ (k + 1 + 1)) : n / 10 < 10 ^ (k + 1) := by
      rw [Nat.pow_succ] at h
      omega
    have hlength : (padded (k + 1) (m / 10)).length = (padded (k + 1) (n / 10)).length := by
      rw [length_padded hk (hlow hm), length_padded hk (hlow hn)]
    rw [padded_succ hk, padded_succ hk, compare_ofList_append hlength, ih (hlow hm) (hlow hn),
      compare_digitChar, ← compare_div_mod]

end Decimal

end Text

end DhcpLeases
