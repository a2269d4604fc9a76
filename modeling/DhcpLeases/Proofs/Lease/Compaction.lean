import DhcpLeases.Proofs.Lease.CurrentListing
import Mathlib.Data.List.Sort

namespace DhcpLeases

variable {a b rs rs' : List LeaseRecord} {r : LeaseRecord}

/-- The later of two parts has the latest record of an address, unless all that it says of the address
begins before what the earlier part says. -/
theorem isLatest_append_iff :
    IsLatest (a ++ b) r ↔
      IsLatest b r ∧ (∀ q ∈ a, q.address = r.address → (compare q.start r.start).isLE) ∨
      IsLatest a r ∧ ∀ q ∈ b, q.address = r.address → compare q.start r.start = .lt := by
  constructor
  · rintro ⟨before, after, hrs, hbefore, hafter⟩
    rcases List.append_eq_append_iff.1 hrs with ⟨front, hfront, hb⟩ | ⟨back, ha, hback⟩
    · rw [hfront, List.forall_mem_append] at hbefore
      exact .inl ⟨⟨front, after, hb, hbefore.2, hafter⟩, hbefore.1⟩
    · cases back with
      | nil =>
        rw [List.append_nil] at ha
        exact .inl ⟨⟨[], after, hback.symm, List.forall_mem_nil _, hafter⟩, ha ▸ hbefore⟩
      | cons q back =>
        rw [List.cons_append] at hback
        obtain ⟨rfl, rfl⟩ := List.cons.inj hback
        rw [List.forall_mem_append] at hafter
        exact .inr ⟨⟨before, back, ha, hbefore, hafter.1⟩, hafter.2⟩
  · rintro (⟨⟨before, after, hb, hbefore, hafter⟩, hall⟩ | ⟨hlatest, hall⟩)
    · refine ⟨a ++ before, after, ?_, List.forall_mem_append.2 ⟨hall, hbefore⟩, hafter⟩
      rw [hb, List.append_assoc]
    · exact hlatest.append hall

theorem isLatest_of_mem (h : rs.Pairwise fun q q' => q.address ≠ q'.address) (hr : r ∈ rs) :
    IsLatest rs r := by
  obtain ⟨before, after, rfl⟩ := List.append_of_mem hr
  obtain ⟨-, hafter, hbefore⟩ := List.pairwise_append.1 h
  refine ⟨before, after, rfl, fun q hq ha => ?_, fun q hq ha => ?_⟩
  · exact absurd ha (hbefore q hq r List.mem_cons_self)
  · exact absurd ha.symm ((List.pairwise_cons.1 hafter).1 q hq)

theorem isLatest_latest_iff : IsLatest (latest rs) r ↔ IsLatest rs r := by
  rw [← @mem_latest_iff rs r]
  exact ⟨IsLatest.mem, isLatest_of_mem ((latest_ascending rs).imp Address.Precedes.ne)⟩

/-- What holds of a record and of all that begin no later holds of all records if it holds of the latest. -/
theorem forall_mem_latest_iff {P : LeaseRecord → Prop}
    (hP : ∀ q q', q.address = q'.address → (compare q.start q'.start).isLE → P q' → P q) :
    (∀ q ∈ latest rs, P q) ↔ ∀ q ∈ rs, P q := by
  constructor
  · intro h q hq
    obtain ⟨q', hq', ha⟩ := (exists_mem_latest_iff rs q.address).2 ⟨q, hq, rfl⟩
    exact hP q q' ha.symm ((mem_latest_isLatest hq').isLE hq ha.symm) (h q' hq')
  · exact fun h q hq => h q (mem_latest_isLatest hq).mem

theorem forall_latest_isLE_iff :
    (∀ q ∈ latest rs, q.address = r.address → (compare q.start r.start).isLE) ↔
      ∀ q ∈ rs, q.address = r.address → (compare q.start r.start).isLE :=
  forall_mem_latest_iff fun _ _ ha hle h ha' =>
    Std.TransCmp.isLE_trans hle (h (ha.symm.trans ha'))

theorem forall_latest_lt_iff :
    (∀ q ∈ latest rs, q.address = r.address → compare q.start r.start = .lt) ↔
      ∀ q ∈ rs, q.address = r.address → compare q.start r.start = .lt :=
  forall_mem_latest_iff fun _ _ ha hle h ha' =>
    Std.TransCmp.lt_of_isLE_of_lt hle (h (ha.symm.trans ha'))

theorem latest_congr (h : ∀ r, IsLatest rs r ↔ IsLatest rs' r) : latest rs = latest rs' := by
  have hirrefl : Std.Irrefl fun r q : LeaseRecord => r.address.Precedes q.address :=
    ⟨fun r hprecedes => hprecedes.ne rfl⟩
  have hantisymm : Std.Antisymm fun r q : LeaseRecord => r.address.Precedes q.address := by
    constructor
    intro r q hrq hqr
    have hlt := (Address.compare_eq_lt_iff _ _).2 hrq
    rw [Std.OrientedCmp.gt_of_lt ((Address.compare_eq_lt_iff _ _).2 hqr)] at hlt
    cases hlt
  apply (latest_ascending rs).eq_of_mem_iff (latest_ascending rs')
  intro r
  rw [mem_latest_iff, mem_latest_iff]
  exact h r

/-- Either part of a journal can be replaced by its latest records. -/
theorem latest_compacted (a b : List LeaseRecord) :
    latest (a ++ b) = latest (latest a ++ b) ∧ latest (latest a ++ b) = latest (a ++ latest b) := by
  have hfront : latest (a ++ b) = latest (latest a ++ b) := by
    apply latest_congr
    intro r
    rw [isLatest_append_iff, isLatest_append_iff, isLatest_latest_iff, forall_latest_isLE_iff]
  have hback : latest (a ++ b) = latest (a ++ latest b) := by
    apply latest_congr
    intro r
    rw [isLatest_append_iff, isLatest_append_iff, isLatest_latest_iff, forall_latest_lt_iff]
  exact ⟨hfront, hfront.symm.trans hback⟩

end DhcpLeases
