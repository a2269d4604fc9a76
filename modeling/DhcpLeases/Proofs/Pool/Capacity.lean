import DhcpLeases.Pool.Capacity
import Mathlib.Algebra.Ring.Nat

namespace DhcpLeases

/-- The exact number of addresses within bounds. -/
def addressCount (b : Address × Address) : Nat :=
  b.2.number - b.1.number + 1

def totalCount (bs : List (Address × Address)) : Nat :=
  (bs.map addressCount).sum

/-- Bounds of one family, the first no greater than the last. -/
def HasSize (b : Address × Address) : Prop :=
  b.1.SameFamily b.2 ∧ b.1.number ≤ b.2.number

instance (b : Address × Address) : Decidable (HasSize b) :=
  inferInstanceAs (Decidable (_ ∧ _))

theorem rangeSize_of_hasSize {b : Address × Address} (h : HasSize b) :
    rangeSize b.1 b.2 = .ok (min (addressCount b) maxCapacity) :=
  if_pos h

theorem rangeSize_of_not_hasSize {b : Address × Address} (h : ¬HasSize b) :
    rangeSize b.1 b.2 = .error (.badRange b.1 b.2) :=
  if_neg h

theorem hasSize_iff_exists (b : Address × Address) :
    HasSize b ↔ ∃ size, rangeSize b.1 b.2 = .ok size := by
  constructor
  · exact fun h => ⟨_, rangeSize_of_hasSize h⟩
  · rintro ⟨size, h⟩
    by_cases hsize : HasSize b
    · exact hsize
    · rw [rangeSize_of_not_hasSize hsize] at h
      cases h

/-- Capping a summand and the sum is capping the sum. -/
theorem min_add_min (total size cap : Nat) :
    min (min total cap + min size cap) cap = min (total + size) cap := by
  omega

theorem addSizes_append (pool : String) (total : Nat) {rs : List CatalogRange}
    (h : ∀ b ∈ rs.filterMap (·.bounds), HasSize b) (rest : List CatalogRange) :
    (addSizes pool (min total maxCapacity) (rs ++ rest)).value =
      (addSizes pool (min (total + totalCount (rs.filterMap (·.bounds))) maxCapacity) rest).value := by
  induction rs generalizing total with
  | nil => rfl
  | cons r rs ih =>
    rw [List.cons_append]
    cases hb : r.bounds with
    | none =>
      rw [List.filterMap_cons_none hb] at h ⊢
      simp only [addSizes, hb, Logged.behind]
      exact ih total h
    | some b =>
      rw [List.filterMap_cons_some hb] at h ⊢
      have hsize := rangeSize_of_hasSize (h b List.mem_cons_self)
      simp only [addSizes, hb, hsize, min_add_min]
      rw [ih _ fun b' hb' => h b' (List.mem_cons_of_mem _ hb')]
      rw [totalCount, totalCount, List.map_cons, List.sum_cons, Nat.add_assoc]

theorem poolCapacity_value (c : Catalog) (pool : String)
    (h : ∀ b ∈ (c.poolRanges pool).filterMap (·.bounds), HasSize b) :
    (poolCapacity c pool).value =
      .ok (min (totalCount ((c.poolRanges pool).filterMap (·.bounds))) maxCapacity) := by
  have hsum := addSizes_append pool 0 h []
  rw [Nat.zero_min, Nat.zero_add, List.append_nil] at hsum
  exact hsum

end DhcpLeases
