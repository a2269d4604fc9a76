import DhcpLeases.Proofs.Pool.CountedRanges
import Mathlib.Data.Set.Card
import Mathlib.Order.Interval.Finset.Nat

namespace DhcpLeases

namespace Address

/-- The addresses from the first to the last of a range. -/
def within (b : Address × Address) : Set Address :=
  {a | (compare b.1 a).isLE ∧ (compare a b.2).isLE}

theorem isLE_compare_iff (a b : Address) : (compare a b).isLE ↔ a.rank ≤ b.rank :=
  Nat.isLE_compare

theorem rank_eq {b : Address × Address} (h : b.1.SameFamily b.2) :
    ∃ base, b.1.rank = base + b.1.number ∧ b.2.rank = base + b.2.number := by
  obtain ⟨start, stop⟩ := b
  cases start with
  | v4 low =>
    cases stop with
    | v4 high => exact ⟨0, (Nat.zero_add _).symm, (Nat.zero_add _).symm⟩
    | v6 high => exact h.elim
  | v6 low =>
    cases stop with
    | v4 high => exact h.elim
    | v6 high => exact ⟨0x100000000, rfl, rfl⟩

/-- Between two addresses of one family every rank is that of an address. -/
theorem exists_rank {b : Address × Address} (h : b.1.SameFamily b.2) {n : Nat}
    (hge : b.1.rank ≤ n) (hle : n ≤ b.2.rank) : ∃ a : Address, a.rank = n := by
  obtain ⟨start, stop⟩ := b
  cases start with
  | v4 low =>
    cases stop with
    | v4 high =>
      refine ⟨v4 (.ofNat 32 n), ?_⟩
      have hlt := high.isLt
      simp only [rank] at hle ⊢
      rw [BitVec.toNat_ofNat, Nat.mod_eq_of_lt (by omega)]
    | v6 high => exact h.elim
  | v6 low =>
    cases stop with
    | v4 high => exact h.elim
    | v6 high =>
      refine ⟨v6 (.ofNat 128 (n - 0x100000000)), ?_⟩
      have hlt := high.isLt
      simp only [rank] at hge hle ⊢
      rw [BitVec.toNat_ofNat, Nat.mod_eq_of_lt (by omega)]
      omega

theorem image_rank_within {b : Address × Address} (h : b.1.SameFamily b.2) :
    rank '' within b = Set.Icc b.1.rank b.2.rank := by
  ext n
  simp only [Set.mem_image, within, Set.mem_ofPred_eq, isLE_compare_iff, Set.mem_Icc]
  constructor
  · rintro ⟨a, hbounds, rfl⟩
    exact hbounds
  · rintro ⟨hge, hle⟩
    obtain ⟨a, rfl⟩ := exists_rank h hge hle
    exact ⟨a, ⟨hge, hle⟩, rfl⟩

theorem ncard_within {b : Address × Address} (h : HasSize b) :
    (within b).ncard = addressCount b := by
  have hrank : Function.Injective rank := fun _ _ => rank_injective
  obtain ⟨base, hstart, hstop⟩ := rank_eq h.1
  rw [← Set.ncard_image_of_injective _ hrank, image_rank_within h.1, ← Finset.coe_Icc,
    Set.ncard_coe_finset, Nat.card_Icc, hstart, hstop, addressCount]
  have hle := h.2
  omega

end Address

/-- The exact number of addresses in ranges, counted for each range by itself. -/
noncomputable def addressTotal (bs : List (Address × Address)) : Nat :=
  (bs.map fun b => (Address.within b).ncard).sum

theorem addressTotal_eq {bs : List (Address × Address)} (h : ∀ b ∈ bs, HasSize b) :
    addressTotal bs = totalCount bs := by
  rw [addressTotal, totalCount, List.map_congr_left fun b hb => Address.ncard_within (h b hb)]

theorem maxCapacity_eq : maxCapacity = 2 ^ 128 - 1 :=
  rfl

/-- The sum of two words, or the greatest word where the sum wraps around. -/
def saturatingAdd (x y : BitVec 128) : BitVec 128 :=
  if x ≤ x + y then x + y else .allOnes 128

def Address.word : Address → BitVec 128
  | v4 bits => bits.setWidth 128
  | v6 bits => bits

def wordCount (b : Address × Address) : BitVec 128 :=
  saturatingAdd (b.2.word - b.1.word) 1#128

def wordTotal (bs : List (Address × Address)) : BitVec 128 :=
  bs.foldl (fun total b => saturatingAdd total (wordCount b)) 0#128

theorem toNat_saturatingAdd (x y : BitVec 128) :
    (saturatingAdd x y).toNat = min (x.toNat + y.toNat) maxCapacity := by
  have hx := x.isLt
  have hy := y.isLt
  have hsum : (x + y).toNat = (x.toNat + y.toNat) % 2 ^ 128 := BitVec.toNat_add x y
  rw [saturatingAdd, maxCapacity_eq]
  by_cases hcarry : x ≤ x + y
  · rw [if_pos hcarry]
    rw [BitVec.le_def] at hcarry
    omega
  · rw [if_neg hcarry, BitVec.toNat_allOnes]
    rw [BitVec.le_def] at hcarry
    omega

theorem Address.toNat_word (a : Address) : a.word.toNat = a.number := by
  cases a with
  | v4 bits =>
    have hlt := bits.isLt
    rw [word, number, BitVec.toNat_setWidth, Nat.mod_eq_of_lt (by omega)]
  | v6 bits => rfl

theorem toNat_wordCount {b : Address × Address} (h : HasSize b) :
    (wordCount b).toNat = min (addressCount b) maxCapacity := by
  have hdiff : (b.2.word - b.1.word).toNat = b.2.number - b.1.number := by
    have hle := h.2
    rw [← b.1.toNat_word, ← b.2.toNat_word] at hle ⊢
    exact BitVec.toNat_sub_of_le hle
  rw [wordCount, toNat_saturatingAdd, hdiff]
  rfl

theorem toNat_foldl_wordCount {bs : List (Address × Address)} (h : ∀ b ∈ bs, HasSize b)
    (total : BitVec 128) :
    (bs.foldl (fun total b => saturatingAdd total (wordCount b)) total).toNat =
      min (total.toNat + totalCount bs) maxCapacity := by
  induction bs generalizing total with
  | nil =>
    have hlt := total.isLt
    rw [List.foldl_nil, totalCount, List.map_nil, List.sum_nil, maxCapacity_eq]
    omega
  | cons b bs ih =>
    rw [List.foldl_cons, ih fun b' hb' => h b' (List.mem_cons_of_mem _ hb'), toNat_saturatingAdd,
      toNat_wordCount (h b List.mem_cons_self)]
    rw [totalCount, totalCount, List.map_cons, List.sum_cons]
    omega

theorem toNat_wordTotal {bs : List (Address × Address)} (h : ∀ b ∈ bs, HasSize b) :
    (wordTotal bs).toNat = min (2 ^ 128 - 1) (addressTotal bs) := by
  have htotal := toNat_foldl_wordCount h 0#128
  rw [BitVec.toNat_zero, Nat.zero_add, ← addressTotal_eq h, maxCapacity_eq, Nat.min_comm] at htotal
  exact htotal

variable {c : Catalog} {pool : String}

theorem poolCapacity_of_hasSize (h : ∀ b ∈ c.reached pool, HasSize b) :
    (poolCapacity c pool).value = .ok (min (2 ^ 128 - 1) (addressTotal (c.reached pool))) := by
  rw [poolCapacity_value c pool h, addressTotal_eq h, maxCapacity_eq, Nat.min_comm]
  rfl

theorem poolCapacity_of_split {before after : List (Address × Address)} {b : Address × Address}
    (hsplit : c.reached pool = before ++ b :: after) (hbefore : ∀ p ∈ before, HasSize p)
    (hb : ¬HasSize b) : (poolCapacity c pool).value = .error (.badRange b.1 b.2) := by
  obtain ⟨front, behind, hranges, rfl, hbehind⟩ := List.filterMap_eq_append_iff.1 hsplit
  obtain ⟨unbounded, r, rest, rfl, hnone, hr, -⟩ := List.filterMap_eq_cons_iff.1 hbehind
  have hpassed : (front ++ unbounded).filterMap (·.bounds) = front.filterMap (·.bounds) := by
    rw [List.filterMap_append, List.filterMap_eq_nil_iff.2 hnone, List.append_nil]
  have hrun := addSizes_append pool 0 (hpassed ▸ hbefore) (r :: rest)
  rw [Nat.zero_min, List.append_assoc, ← hranges] at hrun
  rw [poolCapacity, hrun]
  simp only [addSizes, hr, rangeSize_of_not_hasSize hb]

theorem hasSize_of_poolCapacity {size : Nat} (h : (poolCapacity c pool).value = .ok size) :
    (∀ b ∈ c.reached pool, HasSize b) ∧ size = min (2 ^ 128 - 1) (addressTotal (c.reached pool)) := by
  rcases forall_or_first HasSize (c.reached pool) with hall | ⟨_, _, _, hsplit, hbefore, hb⟩
  · rw [poolCapacity_of_hasSize hall] at h
    exact ⟨hall, (Except.ok.inj h).symm⟩
  · rw [poolCapacity_of_split hsplit hbefore hb] at h
    cases h

theorem toNat_wordTotal_reached {size : Nat} (h : (poolCapacity c pool).value = .ok size) :
    (wordTotal (c.reached pool)).toNat = size := by
  obtain ⟨hall, rfl⟩ := hasSize_of_poolCapacity h
  exact toNat_wordTotal hall

/-- The capacity of a pool is the exact number of addresses in its ranges, capped once, and the count fails
just if there is a range without a size, by the first. Counting in words of 128 bits gives the same number,
and no sum of words on the way wraps around. -/
theorem poolCapacity_exact (c : Catalog) (pool : String) :
    (∀ size, (poolCapacity c pool).value = .ok size ↔
      (∀ b ∈ c.reached pool, HasSize b) ∧ size = min (2 ^ 128 - 1) (addressTotal (c.reached pool))) ∧
    (∀ failure, (poolCapacity c pool).value = .error failure ↔
      ∃ before b after, c.reached pool = before ++ b :: after ∧ (∀ p ∈ before, HasSize p) ∧
        ¬HasSize b ∧ failure = .badRange b.1 b.2) ∧
    (∀ c' pool', (c'.reached pool').Perm (c.reached pool) → (∀ b ∈ c.reached pool, HasSize b) →
      (poolCapacity c' pool').value = (poolCapacity c pool).value) ∧
    (∀ size, (poolCapacity c pool).value = .ok size → (wordTotal (c.reached pool)).toNat = size) ∧
    ∀ bs, (∀ b ∈ bs, HasSize b) → (wordTotal bs).toNat = min (2 ^ 128 - 1) (addressTotal bs) := by
  refine ⟨?_, ?_, ?_, fun size => toNat_wordTotal_reached, fun bs => toNat_wordTotal⟩
  · intro size
    constructor
    · exact hasSize_of_poolCapacity
    · rintro ⟨hall, rfl⟩
      exact poolCapacity_of_hasSize hall
  · intro failure
    constructor
    · intro hfailure
      rcases forall_or_first HasSize (c.reached pool) with hall | ⟨_, b, _, hsplit, hbefore, hb⟩
      · rw [poolCapacity_of_hasSize hall] at hfailure
        cases hfailure
      · rw [poolCapacity_of_split hsplit hbefore hb] at hfailure
        exact ⟨_, b, _, hsplit, hbefore, hb, (Except.error.inj hfailure).symm⟩
    · rintro ⟨_, _, _, hsplit, hbefore, hb, rfl⟩
      exact poolCapacity_of_split hsplit hbefore hb
  · intro c' pool' hperm hall
    have hall' : ∀ b ∈ c'.reached pool', HasSize b := fun b hb => hall b (hperm.mem_iff.1 hb)
    rw [poolCapacity_of_hasSize hall, poolCapacity_of_hasSize hall', addressTotal, addressTotal,
      (hperm.map _).sum_eq]

def wholeFamily : Catalog :=
  CatalogTables.toCatalog ⟨["LAN", "WIFI"], ["LAN", "WIFI"], [("LAN", ["a"]), ("WIFI", ["b"])],
    [(("LAN", "a"), ["0", "1", "2"]), (("WIFI", "b"), ["0", "1"])],
    [(("LAN", "a", "0"), (.v6 0, .v6 (.allOnes 128))), (("LAN", "a", "2"), (.v4 9, .v4 9)),
      (("WIFI", "b", "0"), (.v4 1, .v4 9)), (("WIFI", "b", "1"), (.v4 9, .v4 1))]⟩

theorem poolCapacity_exact_wholeFamily :
    (∀ b ∈ wholeFamily.reached "LAN", HasSize b) ∧
    addressTotal (wholeFamily.reached "LAN") = 2 ^ 128 + 1 ∧
    (poolCapacity wholeFamily "LAN").value = .ok (2 ^ 128 - 1) ∧
    (wordTotal (wholeFamily.reached "LAN")).toNat = 2 ^ 128 - 1 ∧
    (poolCapacity wholeFamily "WIFI").value = .error (.badRange (.v4 9) (.v4 1)) := by
  have hall : ∀ b ∈ wholeFamily.reached "LAN", HasSize b := by decide
  have htotal : addressTotal (wholeFamily.reached "LAN") = 2 ^ 128 + 1 := by
    rw [addressTotal_eq hall]
    rfl
  obtain ⟨hsize, -, -, hwords, -⟩ := poolCapacity_exact wholeFamily "LAN"
  obtain ⟨-, hfailure, -⟩ := poolCapacity_exact wholeFamily "WIFI"
  have hcapped : (poolCapacity wholeFamily "LAN").value = .ok (2 ^ 128 - 1) :=
    (hsize _).2 ⟨hall, by rw [htotal]; rfl⟩
  refine ⟨hall, htotal, hcapped, hwords _ hcapped, ?_⟩
  · exact (hfailure _).2 ⟨[(.v4 1, .v4 9)], (.v4 9, .v4 1), [], by decide, by decide, by decide, rfl⟩

end DhcpLeases
