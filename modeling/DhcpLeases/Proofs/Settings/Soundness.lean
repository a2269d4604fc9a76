import DhcpLeases.Proofs.Lookup
import DhcpLeases.Proofs.Pool.Capacity
import DhcpLeases.Settings

namespace DhcpLeases

def AddressRange.bounds (r : AddressRange) : Address × Address :=
  (r.start, r.stop)

structure SharedNetwork.IsSound (n : SharedNetwork) : Prop where
  named : n.name ≠ ""
  ranges : ∀ u ∈ n.subnets, ∀ r ∈ u.ranges, HasSize r.bounds

structure Settings.IsSound (s : Settings) : Prop where
  keyed : s.poolKey ≠ ""
  networks : ∀ n ∈ s.networks, n.IsSound
  distinct : (s.networks.map (·.name)).Nodup

namespace SharedNetwork

theorem badRange?_eq (n : SharedNetwork) :
    n.badRange? = n.subnets.findSome? fun u => u.ranges.findSome? fun r =>
      if HasSize r.bounds then none else some (.badRange r.name u.name n.name r.start r.stop) := by
  unfold badRange?
  congr 1
  funext u
  congr 1
  funext r
  by_cases hsize : HasSize r.bounds
  · have hok := rangeSize_of_hasSize hsize
    simp only [AddressRange.bounds] at hok
    rw [if_pos hsize, hok]
  · have herror := rangeSize_of_not_hasSize hsize
    simp only [AddressRange.bounds] at herror
    rw [if_neg hsize, herror]

theorem badRange?_eq_none_iff (n : SharedNetwork) :
    n.badRange? = none ↔ ∀ u ∈ n.subnets, ∀ r ∈ u.ranges, HasSize r.bounds := by
  rw [badRange?_eq]
  simp [List.findSome?_eq_none_iff]

theorem flaw?_cons_eq_none_iff (seen : List String) (n : SharedNetwork) (ns : List SharedNetwork) :
    flaw? seen (n :: ns) = none ↔ n.IsSound ∧ n.name ∉ seen ∧ flaw? (n.name :: seen) ns = none := by
  rw [flaw?]
  by_cases hname : n.name = ""
  · rw [if_pos hname]
    exact iff_of_false (fun h => nomatch h) fun h => h.1.named hname
  rw [if_neg hname]
  by_cases hseen : n.name ∈ seen
  · rw [if_pos (List.contains_iff_mem.2 hseen)]
    exact iff_of_false (fun h => nomatch h) fun h => h.2.1 hseen
  rw [if_neg (mt List.contains_iff_mem.1 hseen), Option.or_eq_none_iff, badRange?_eq_none_iff]
  constructor
  · rintro ⟨hranges, hrest⟩
    exact ⟨⟨hname, hranges⟩, hseen, hrest⟩
  · rintro ⟨hsound, -, hrest⟩
    exact ⟨hsound.ranges, hrest⟩

theorem flaw?_eq_none_iff (seen : List String) (ns : List SharedNetwork) :
    flaw? seen ns = none ↔
      (∀ n ∈ ns, n.IsSound ∧ n.name ∉ seen) ∧ (ns.map (·.name)).Nodup := by
  induction ns generalizing seen with
  | nil => simp [flaw?]
  | cons n ns ih =>
    rw [flaw?_cons_eq_none_iff, ih, List.map_cons, List.nodup_cons, List.mem_map]
    constructor
    · rintro ⟨hsound, hseen, hrest, hdistinct⟩
      refine ⟨?_, ?_, hdistinct⟩
      · intro m hm
        rcases List.mem_cons.1 hm with rfl | hm
        · exact ⟨hsound, hseen⟩
        · exact (hrest m hm).imp_right (mt (List.mem_cons_of_mem _))
      · rintro ⟨m, hm, hname⟩
        exact (hrest m hm).2 (hname ▸ List.mem_cons_self)
    · rintro ⟨hall, hnew, hdistinct⟩
      obtain ⟨hsound, hseen⟩ := hall n List.mem_cons_self
      refine ⟨hsound, hseen, ?_, hdistinct⟩
      intro m hm
      obtain ⟨hmsound, hmseen⟩ := hall m (List.mem_cons_of_mem _ hm)
      refine ⟨hmsound, fun hmem => ?_⟩
      rcases List.mem_cons.1 hmem with hmem | hmem
      · exact hnew ⟨m, hm, hmem⟩
      · exact hmseen hmem

end SharedNetwork

namespace Settings

theorem flaw?_eq_none_iff_isSound (s : Settings) : s.flaw? = none ↔ s.IsSound := by
  rw [flaw?]
  by_cases hkey : s.poolKey = ""
  · rw [if_pos hkey]
    exact iff_of_false (fun h => nomatch h) fun h => h.keyed hkey
  rw [if_neg hkey, SharedNetwork.flaw?_eq_none_iff]
  constructor
  · rintro ⟨hall, hdistinct⟩
    exact ⟨hkey, fun n hn => (hall n hn).1, hdistinct⟩
  · intro h
    exact ⟨fun n hn => ⟨h.networks n hn, List.not_mem_nil⟩, h.distinct⟩

theorem validate_eq_ok_iff (s : Settings) : s.validate = .ok () ↔ s.IsSound := by
  rw [← flaw?_eq_none_iff_isSound, validate]
  cases s.flaw? with
  | none => exact iff_of_true rfl rfl
  | some _ => exact iff_of_false (fun h => nomatch h) fun h => nomatch h

theorem IsSound.network?_name {s : Settings} (h : s.IsSound) {n : SharedNetwork}
    (hn : n ∈ s.networks) : s.network? n.name = some n :=
  find?_key_eq_self SharedNetwork.name h.distinct hn

theorem hasPools_iff (s : Settings) : s.hasPools ↔ s.networks ≠ [] := by
  rw [hasPools, Bool.not_eq_true', List.isEmpty_eq_false_iff]

end Settings

end DhcpLeases
