import DhcpLeases.Proofs.Settings.Soundness
import Mathlib.Data.List.Basic

namespace DhcpLeases

/-- The bounds that the names of a pool, its subnets and their ranges lead to. -/
def Catalog.reached (c : Catalog) (pool : String) : List (Address × Address) :=
  (c.poolRanges pool).filterMap (·.bounds)

def Subnet.bounds (u : Subnet) : List (Address × Address) :=
  u.ranges.map AddressRange.bounds

def SharedNetwork.bounds (n : SharedNetwork) : List (Address × Address) :=
  n.subnets.flatMap Subnet.bounds

def SharedNetwork.rangeNames (n : SharedNetwork) : List (String × List String) :=
  n.subnets.map fun u => (u.name, u.ranges.map (·.name))

/-- No two ranges of a subnet share a name, and only subnets without ranges share theirs. -/
def NamesApart (names : List (String × List String)) : Prop :=
  (∀ p ∈ names, p.2.Nodup) ∧ names.Pairwise fun p q => p.1 = q.1 → p.2 = [] ∧ q.2 = []

/-- The pool of a network has each of its ranges once, and its capacity is the sum of their sizes. -/
def Settings.CountsOnce (s : Settings) (n : SharedNetwork) : Prop :=
  (s.catalog.reached n.name).Perm n.bounds ∧
    (poolCapacity s.catalog n.name).value = .ok (min (totalCount n.bounds) maxCapacity)

/-- The bounds of the first range of each range's name. -/
def Subnet.reached (u : Subnet) : List (Address × Address) :=
  u.ranges.filterMap fun r => (u.ranges.find? (·.name = r.name)).map AddressRange.bounds

def SharedNetwork.reached (n : SharedNetwork) : List (Address × Address) :=
  n.subnets.flatMap fun u => ((n.subnets.find? (·.name = u.name)).map Subnet.reached).getD []

theorem Settings.IsSound.catalog_reached {s : Settings} (h : s.IsSound) {n : SharedNetwork}
    (hn : n ∈ s.networks) : s.catalog.reached n.name = n.reached := by
  have hnetwork := h.network?_name hn
  simp only [Catalog.reached, Catalog.poolRanges, catalog, subnet?, hnetwork, Option.map_some,
    Option.getD_some, Option.bind_some, List.flatMap_map, List.filterMap_flatMap]
  unfold SharedNetwork.reached
  congr 1
  funext u
  cases n.subnets.find? (·.name = u.name) with
  | none => rfl
  | some v =>
    simp only [Option.map_some, Option.getD_some, Option.bind_some, List.map_map,
      List.filterMap_map]
    rfl

theorem Subnet.mem_reached {u : Subnet} {b : Address × Address} (h : b ∈ u.reached) :
    ∃ name r, u.ranges.find? (·.name = name) = some r ∧ b = r.bounds := by
  obtain ⟨r, -, hr⟩ := List.mem_filterMap.1 h
  obtain ⟨first, hfirst, hb⟩ := Option.map_eq_some_iff.1 hr
  exact ⟨r.name, first, hfirst, hb.symm⟩

theorem Subnet.reached_subset {u : Subnet} {b : Address × Address} (h : b ∈ u.reached) :
    b ∈ u.bounds := by
  obtain ⟨name, r, hr, rfl⟩ := mem_reached h
  exact List.mem_map_of_mem (List.mem_of_find?_eq_some hr)

theorem SharedNetwork.mem_reached {n : SharedNetwork} {b : Address × Address} (h : b ∈ n.reached) :
    ∃ name u, n.subnets.find? (·.name = name) = some u ∧ b ∈ u.reached := by
  obtain ⟨u, -, hb⟩ := List.mem_flatMap.1 h
  cases hu : n.subnets.find? (·.name = u.name) with
  | none => rw [hu] at hb; cases hb
  | some first => rw [hu] at hb; exact ⟨u.name, first, hu, hb⟩

theorem SharedNetwork.IsSound.hasSize_reached {n : SharedNetwork} (h : n.IsSound)
    {b : Address × Address} (hb : b ∈ n.reached) : HasSize b := by
  obtain ⟨name, u, hu, hb⟩ := mem_reached hb
  obtain ⟨r, hr, rfl⟩ := List.mem_map.1 (Subnet.reached_subset hb)
  exact h.ranges u (List.mem_of_find?_eq_some hu) r hr

theorem Settings.IsSound.poolCapacity_eq {s : Settings} (h : s.IsSound) {n : SharedNetwork}
    (hn : n ∈ s.networks) :
    (poolCapacity s.catalog n.name).value = .ok (min (totalCount n.reached) maxCapacity) := by
  have hreached := h.catalog_reached hn
  have hsize : ∀ b ∈ s.catalog.reached n.name, HasSize b := by
    intro b hb
    rw [hreached] at hb
    exact (h.networks n hn).hasSize_reached hb
  rw [← hreached]
  exact poolCapacity_value s.catalog n.name hsize

theorem Subnet.reached_eq_bounds {u : Subnet} (h : (u.ranges.map (·.name)).Nodup) :
    u.reached = u.bounds := by
  rw [reached, bounds, ← List.filterMap_eq_map]
  apply List.filterMap_congr
  intro r hr
  rw [find?_key_eq_self AddressRange.name h hr]
  rfl

/-- Behind a subnet of the same name a subnet has no ranges, and in front of it neither. -/
theorem first_reached {us : List Subnet}
    (hpairs : us.Pairwise fun u v => u.name = v.name → u.ranges = [] ∧ v.ranges = [])
    (hnodup : ∀ u ∈ us, (u.ranges.map (·.name)).Nodup) {u : Subnet} (hu : u ∈ us) :
    ((us.find? (·.name = u.name)).map Subnet.reached).getD [] = u.bounds := by
  induction us with
  | nil => cases hu
  | cons v us ih =>
    obtain ⟨hv, hrest⟩ := List.pairwise_cons.1 hpairs
    rcases List.mem_cons.1 hu with rfl | hu
    · rw [List.find?_cons_of_pos (by simp)]
      exact Subnet.reached_eq_bounds (hnodup u List.mem_cons_self)
    · by_cases hname : v.name = u.name
      · obtain ⟨hvr, hur⟩ := hv u hu hname
        rw [List.find?_cons_of_pos (by simpa using hname)]
        simp only [Option.map_some, Option.getD_some, Subnet.reached, Subnet.bounds, hvr, hur,
          List.filterMap_nil, List.map_nil]
      · rw [List.find?_cons_of_neg (by simpa using hname)]
        exact ih hrest (fun w hw => hnodup w (List.mem_cons_of_mem _ hw)) hu

theorem SharedNetwork.reached_eq_bounds {n : SharedNetwork} (h : NamesApart n.rangeNames) :
    n.reached = n.bounds := by
  obtain ⟨hnodup, hpairs⟩ := h
  rw [rangeNames, List.pairwise_map] at hpairs
  have hpairs' : n.subnets.Pairwise fun u v => u.name = v.name → u.ranges = [] ∧ v.ranges = [] := by
    apply hpairs.imp
    intro u v h hname
    obtain ⟨hu, hv⟩ := h hname
    exact ⟨List.map_eq_nil_iff.1 hu, List.map_eq_nil_iff.1 hv⟩
  have hnodup' : ∀ u ∈ n.subnets, (u.ranges.map (·.name)).Nodup := by
    intro u hu
    exact hnodup _ (List.mem_map_of_mem hu)
  rw [reached, bounds]
  apply List.flatMap_congr
  intro u hu
  exact first_reached hpairs' hnodup' hu

theorem Settings.IsSound.countsOnce {s : Settings} (h : s.IsSound) {n : SharedNetwork}
    (hn : n ∈ s.networks) (hapart : NamesApart n.rangeNames) : s.CountsOnce n := by
  have hbounds := SharedNetwork.reached_eq_bounds hapart
  constructor
  · rw [h.catalog_reached hn, hbounds]
  · rw [h.poolCapacity_eq hn, hbounds]

end DhcpLeases
